import Backlog.Proofs.Service.Concord
import Mathlib.Data.List.TakeWhile
/-!
# Links — where the addresses of pages lead

A service gives its base one slash at the start and none at the end, both where it serves searches and where it writes
addresses.  So whoever follows an address it has returned comes to searches again, however the base is spelled
(`Service.searchPath_normalBase`).  The command line takes the slashes at the end off the configured base and leaves its
start as it is.  So it prints the addresses that the service returns if the base starts with one slash or consists of
slashes (`IsRooted`), and otherwise none of those it prints has the path of searches (`Service.searchPath_eq_iff`).
-/
namespace Backlog

/-! ## Slashes around a base -/

/-- A base that starts with one slash, or has nothing but slashes. -/
def IsRooted (base : String) : Prop :=
  base.toList.takeWhile (· == '/') = ['/'] ∨ ∀ c ∈ base.toList, c = '/'

instance (base : String) : Decidable (IsRooted base) :=
  @instDecidableOr _ _ _ (List.decidableBAll _ _)

/-- A base with none of the marks that end the path of an address. -/
def IsPathText (base : String) : Prop :=
  ∀ c ∈ base.toList, c ≠ '?' ∧ c ≠ '#'

instance (base : String) : Decidable (IsPathText base) :=
  List.decidableBAll _ base.toList

def withoutSlashes (cs : List Char) : List Char :=
  ((cs.dropWhile (· == '/')).reverse.dropWhile (· == '/')).reverse

theorem dropWhile_slash_eq_nil_iff {cs : List Char} : cs.dropWhile (· == '/') = [] ↔ ∀ c ∈ cs, c = '/' := by
  simp only [List.dropWhile_eq_nil_iff, beq_iff_eq]

theorem withoutSlashes_eq_nil_iff {cs : List Char} : withoutSlashes cs = [] ↔ ∀ c ∈ cs, c = '/' := by
  rw [withoutSlashes, List.reverse_eq_nil_iff, dropWhile_slash_eq_nil_iff]
  constructor
  · intro h
    -- what is left after slashes does not start with one, so nothing is left
    cases hrest : cs.dropWhile (· == '/') with
    | nil => exact dropWhile_slash_eq_nil_iff.1 hrest
    | cons c rest =>
      have hc : c = '/' := h c (by simp [hrest])
      have hhead := List.head_dropWhile_not (· == '/') (l := cs) (by simp [hrest])
      simp [hrest, hc] at hhead
  · intro h c hc
    rw [dropWhile_slash_eq_nil_iff.2 h] at hc
    cases hc

theorem head?_reverse_withoutSlashes {cs : List Char} : (withoutSlashes cs).reverse.head? ≠ some '/' := by
  rw [withoutSlashes, List.reverse_reverse]
  intro h
  have hhead := List.head?_dropWhile_not (· == '/') (cs.dropWhile (· == '/')).reverse
  rw [h] at hhead
  cases hhead

theorem mem_of_mem_withoutSlashes {cs : List Char} {c : Char} (h : c ∈ withoutSlashes cs) : c ∈ cs := by
  rw [withoutSlashes, List.mem_reverse] at h
  exact (List.dropWhile_sublist _).mem (List.mem_reverse.1 ((List.dropWhile_sublist _).mem h))

theorem dropTrailingSlashes_append (lead : List Char) {core trail : List Char} (hcore : core ≠ [])
    (hend : core.reverse.head? ≠ some '/') (htrail : ∀ c ∈ trail, c = '/') :
    dropTrailingSlashes (String.ofList (lead ++ core ++ trail)) = String.ofList (lead ++ core) := by
  have hdrop : trail.reverse.dropWhile (· == '/') = [] :=
    dropWhile_slash_eq_nil_iff.2 fun c hc => htrail c (List.mem_reverse.1 hc)
  have hkeep : (core.reverse ++ lead.reverse).dropWhile (· == '/') = core.reverse ++ lead.reverse := by
    cases hreverse : core.reverse with
    | nil => exact absurd (List.reverse_eq_nil_iff.1 hreverse) hcore
    | cons c rest =>
      rw [hreverse] at hend
      exact List.dropWhile_cons_of_neg (by simpa using hend)
  rw [dropTrailingSlashes, String.toList_ofList, List.reverse_append, List.reverse_append, List.dropWhile_append, hdrop,
    List.isEmpty_nil, if_pos rfl, hkeep, List.reverse_append, List.reverse_reverse, List.reverse_reverse]

/-- **A base without its trailing slashes**: nothing if it has nothing but slashes, else what is between its slashes,
after those at the start. -/
theorem dropTrailingSlashes_eq (base : String) :
    dropTrailingSlashes base =
      if withoutSlashes base.toList = [] then ""
      else String.ofList (base.toList.takeWhile (· == '/') ++ withoutSlashes base.toList) := by
  split
  · next hnone =>
    have hall : base.toList.reverse.dropWhile (· == '/') = [] :=
      dropWhile_slash_eq_nil_iff.2 fun c hc => withoutSlashes_eq_nil_iff.1 hnone c (List.mem_reverse.1 hc)
    rw [dropTrailingSlashes, hall]
    rfl
  · next hsome =>
    generalize hrest : base.toList.dropWhile (· == '/') = rest
    have hsplit : base.toList = base.toList.takeWhile (· == '/') ++ withoutSlashes base.toList ++
        (rest.reverse.takeWhile (· == '/')).reverse := by
      rw [withoutSlashes, hrest, List.append_assoc, ← List.reverse_append, List.takeWhile_append_dropWhile,
        List.reverse_reverse, ← hrest, List.takeWhile_append_dropWhile]
    have htrail : ∀ c ∈ (rest.reverse.takeWhile (· == '/')).reverse, c = '/' := fun c hc =>
      beq_iff_eq.1 (List.mem_takeWhile_imp (p := (· == '/')) (List.mem_reverse.1 hc))
    have hdrop := dropTrailingSlashes_append (base.toList.takeWhile (· == '/')) hsome
      head?_reverse_withoutSlashes htrail
    rwa [← hsplit, String.ofList_toList] at hdrop

/-! ## The path of searches -/

def searchPath (base : String) : String :=
  dropTrailingSlashes base ++ "/search"

namespace Service

theorem normalBase_eq (base : String) : normalBase base = String.ofList ('/' :: withoutSlashes base.toList) :=
  rfl

theorem dropTrailingSlashes_normalBase (base : String) :
    dropTrailingSlashes (normalBase base) =
      if withoutSlashes base.toList = [] then "" else String.ofList ('/' :: withoutSlashes base.toList) := by
  rw [normalBase_eq]
  split
  · next hnone =>
    rw [hnone]
    rfl
  · next hsome =>
    have hdrop := dropTrailingSlashes_append ['/'] hsome head?_reverse_withoutSlashes (List.forall_mem_nil _)
    rwa [List.append_nil] at hdrop

theorem exists_searchPath_normalBase (base : String) :
    ∃ path, (searchPath (normalBase base)).toList = '/' :: path := by
  rw [searchPath, String.toList_append, dropTrailingSlashes_normalBase]
  split
  · exact ⟨_, rfl⟩
  · exact ⟨_, by rw [String.toList_ofList, List.cons_append]⟩

/-- **A service writes addresses with the path** under which it serves searches. -/
theorem searchPath_normalBase (e : Engine) (base : String) :
    searchPath (normalBase base) = (mount e base).pathOf .search := by
  have hslash : normalBase base = "/" ↔ withoutSlashes base.toList = [] := by
    rw [normalBase_eq, ← String.toList_inj, String.toList_ofList]
    exact List.cons_inj_right '/'
  rw [searchPath, dropTrailingSlashes_normalBase]
  show _ = if normalBase base = "/" then "/search" else normalBase base ++ "/search"
  simp only [hslash]
  split
  · rfl
  · rfl

/-- **A base as it was given** makes the same path exactly if it is rooted. -/
theorem searchPath_eq_iff (base : String) : searchPath base = searchPath (normalBase base) ↔ IsRooted base := by
  rw [searchPath, searchPath, String.append_left_inj, dropTrailingSlashes_eq, dropTrailingSlashes_normalBase, IsRooted,
    ← withoutSlashes_eq_nil_iff]
  split
  · next hnone => exact iff_of_true rfl (.inr hnone)
  · next hsome =>
    rw [or_iff_left hsome, ← String.toList_inj, String.toList_ofList, String.toList_ofList]
    show _ = ['/'] ++ withoutSlashes base.toList ↔ _
    exact List.append_left_inj _

end Service

/-! ## Addresses -/

def pathIn (address : String) : String :=
  String.ofList (address.toList.takeWhile (· != '?'))

namespace LinkTarget

variable {t t' : LinkTarget} {p : Page}

theorem toList_link : (t.link p).toList = (searchPath t.base).toList ++ '?' :: (t.query p).toList := by
  have hsearch : "/search?".toList = "/search".toList ++ ['?'] := by decide
  simp only [link, searchPath, String.toList_append, hsearch, List.append_assoc, List.singleton_append]

theorem isPathText_searchPath {base : String} (h : IsPathText base) : IsPathText (searchPath base) := by
  have hsearch : IsPathText "/search" := by decide
  intro c hc
  rw [searchPath, String.toList_append, List.mem_append, dropTrailingSlashes, String.toList_ofList, List.mem_reverse]
    at hc
  rcases hc with hc | hc
  · exact h c (List.mem_reverse.1 ((List.dropWhile_sublist _).mem hc))
  · exact hsearch c hc

/-- **The path of an address** is the path of searches under the base of the address. -/
theorem pathIn_link (h : IsPathText t.base) : pathIn (t.link p) = searchPath t.base := by
  have hpath : ∀ c ∈ (searchPath t.base).toList, (c != '?') = true := fun c hc =>
    bne_iff_ne.2 (isPathText_searchPath h c hc).1
  rw [pathIn, toList_link, List.takeWhile_append_of_pos hpath, List.takeWhile_cons_of_neg (by decide), List.append_nil,
    String.ofList_toList]

theorem localPart_slash (path : List Char) : HttpRequest.localPart ('/' :: path) = '/' :: path := by
  rw [HttpRequest.localPart]
  split
  · exact if_pos rfl
  · rfl

theorem path_ofTarget_link {method : Method} {path : List Char} (h : IsPathText t.base)
    (hpath : (searchPath t.base).toList = '/' :: path) :
    (HttpRequest.ofTarget method (t.link p) []).path = searchPath t.base := by
  have hlocal : HttpRequest.localPart (t.link p).toList = (t.link p).toList := by
    rw [toList_link, hpath]
    exact localPart_slash _
  have htext := isPathText_searchPath h
  have hkept : ∀ c ∈ (searchPath t.base).toList, (c != '#') = true := fun c hc => bne_iff_ne.2 (htext c hc).2
  have hread : ∀ c ∈ (searchPath t.base).toList, (c != '?') = true := fun c hc => bne_iff_ne.2 (htext c hc).1
  show String.ofList (((HttpRequest.localPart (t.link p).toList).takeWhile (· != '#')).takeWhile (· != '?')) = _
  rw [hlocal, toList_link, List.takeWhile_append_of_pos hkept, List.takeWhile_cons_of_pos (by decide),
    List.takeWhile_append_of_pos hread, List.takeWhile_cons_of_neg (by decide), List.append_nil, String.ofList_toList]

end LinkTarget

def linksIn : Json → List String
  | .obj members =>
    match members.lookup "links" with
    | some (.obj links) => links.filterMap fun
      | (_, .str address) => some address
      | _ => none
    | _ => []
  | _ => []

theorem isPathText_normalBase {base : String} (h : IsPathText base) : IsPathText (Service.normalBase base) := by
  intro c hc
  rw [Service.normalBase_eq, String.toList_ofList, List.mem_cons] at hc
  rcases hc with rfl | hc
  · decide
  · exact h c (mem_of_mem_withoutSlashes hc)

theorem linksIn_toJson (result : SearchResult) (t : LinkTarget) :
    linksIn (result.toJson t) = t.link result.page.nonempty.first :: t.link (result.page.nonempty.last result.total) ::
      ((result.page.nonempty.previous? result.total).toList ++
        (result.page.nonempty.next? result.total).toList).map t.link := by
  rw [SearchResult.toJson, LinkTarget.links]
  cases result.page.nonempty.previous? result.total <;> cases result.page.nonempty.next? result.total <;> rfl

/-- **Addresses in an answer** are those of pages of one request. -/
theorem exists_of_mem_linksIn {result : SearchResult} {t : LinkTarget} {address : String}
    (h : address ∈ linksIn (result.toJson t)) : ∃ p, address = t.link p := by
  rw [linksIn_toJson, List.mem_cons, List.mem_cons, List.mem_map] at h
  rcases h with rfl | rfl | ⟨p, -, rfl⟩
  · exact ⟨_, rfl⟩
  · exact ⟨_, rfl⟩
  · exact ⟨p, rfl⟩

theorem linksIn_toJson_congr {result : SearchResult} {r : Request} {base base' : String}
    (h : searchPath base = searchPath base') :
    linksIn (result.toJson (r.target base)) = linksIn (result.toJson (r.target base')) := by
  have hlink : (r.target base).link = (r.target base').link := by
    funext p
    rw [← String.toList_inj, LinkTarget.toList_link, LinkTarget.toList_link]
    have hquery : (r.target base).query p = (r.target base').query p := rfl
    have hpath : searchPath (r.target base).base = searchPath (r.target base').base := h
    rw [hquery, hpath]
  rw [linksIn_toJson, linksIn_toJson, hlink]

/-! ## What a query prints and what a service returns -/

/-- What is said of a query that ended, and of an answer to the same request by a service, for both of which a base is
configured. -/
structure LeadToSearch (base : String) (service : Service) (outcome : Outcome) (answer : HttpAnswer) : Prop where
  /-- A query that succeeds prints two addresses at least. -/
  shown : outcome.code = 0 → 2 ≤ (linksIn outcome.document).length
  /-- Every address returned has the path under which searches are served, and whoever asks for it gets there. -/
  served : ∀ document ∈ answer.body, ∀ address ∈ linksIn document, pathIn address = service.pathOf .search ∧
    service.resource? (HttpRequest.ofTarget .get address []).path = some .search
  /-- An address printed has this path exactly if the base is rooted. -/
  served_iff : ∀ address ∈ linksIn outcome.document, (pathIn address = service.pathOf .search ↔ IsRooted base)
  /-- Under a rooted base the addresses printed are those returned. -/
  same : IsRooted base → ∃ document ∈ answer.body, linksIn outcome.document = linksIn document
  /-- Under another base none of them is. -/
  other : ¬IsRooted base → ∀ document ∈ answer.body, ∀ address ∈ linksIn outcome.document, address ∉ linksIn document

/-- **One result**, written under a base as it was given and under the base of a service. -/
theorem leadToSearch_ok (quiet : Bool) (id id' : String) (e : Engine) {base : String} (hbase : IsPathText base)
    (hmount : (Service.mount e base).isServed = true) (r : Request) (result : SearchResult) :
    LeadToSearch base (.mount e base) (Invocation.ending quiet id (.ok (result.toJson (r.target base))))
      (Service.ending id' (.ok (result.toJson (r.target (Service.normalBase base))))) := by
  have hserved := Service.searchPath_normalBase e base
  have hrooted := Service.searchPath_eq_iff base
  have hnormal : IsPathText (Service.normalBase base) :=
    isPathText_normalBase hbase
  have hprinted : ∀ address ∈ linksIn (result.toJson (r.target base)), pathIn address = searchPath base := by
    intro address haddress
    obtain ⟨p, rfl⟩ := exists_of_mem_linksIn haddress
    exact LinkTarget.pathIn_link (t := r.target base) hbase
  have hreturned : ∀ address ∈ linksIn (result.toJson (r.target (Service.normalBase base))),
      pathIn address = searchPath (Service.normalBase base) := by
    intro address haddress
    obtain ⟨p, rfl⟩ := exists_of_mem_linksIn haddress
    exact LinkTarget.pathIn_link (t := r.target (Service.normalBase base)) hnormal
  refine ⟨fun _ => ?_, ?_, ?_, fun hroot => ⟨_, rfl, linksIn_toJson_congr (hrooted.2 hroot)⟩, ?_⟩
  · show 2 ≤ (linksIn (result.toJson _)).length
    rw [linksIn_toJson]
    exact Nat.le_add_left _ _
  · rintro _ ⟨⟩ address haddress
    have hpath := hreturned address haddress
    obtain ⟨p, rfl⟩ := exists_of_mem_linksIn haddress
    obtain ⟨path, hslash⟩ := Service.exists_searchPath_normalBase base
    refine ⟨hpath.trans hserved, ?_⟩
    rw [LinkTarget.path_ofTarget_link (t := r.target (Service.normalBase base)) hnormal hslash]
    show (Service.mount e base).resource? (searchPath (Service.normalBase base)) = _
    rw [hserved]
    exact (Service.resource?_pathOf_iff _).2 hmount
  · intro address haddress
    rw [hprinted address haddress, ← hserved]
    exact hrooted
  · rintro hroot _ ⟨⟩ address haddress haddress'
    exact hroot (hrooted.1 ((hprinted address haddress).symm.trans (hreturned address haddress')))

theorem leadToSearch_error (quiet : Bool) (id id' : String) (service : Service) (base : String) (error : QueryError) :
    LeadToSearch base service (Invocation.ending quiet id (.error error)) (Service.ending id' (.error error)) where
  shown hcode := by
    change error.exitCode = 0 at hcode
    rw [QueryError.exitCode] at hcode
    split at hcode
    · cases hcode
    · cases hcode
  served := by
    rintro _ ⟨⟩ address haddress
    cases haddress
  served_iff address haddress := by
    cases haddress
  same _ := ⟨_, rfl, rfl⟩
  other := by
    rintro _ _ ⟨⟩ address _ haddress
    cases haddress

namespace Invocation

variable {files : Files} {config data : String} {c : Config} {s : Store}

/-- **Where the addresses of pages lead.**  Those that a service returns lead to its searches, under every base; those
that a query prints do so, and are the same, exactly if the base is rooted. -/
theorem links_lead_to_search (hconfig : loadConfig files config = .ok c) (hdata : loadStore files data = .ok s)
    (hbase : IsPathText c.linkBase) {path : String} {ps : List (String × String)} {r : Request}
    (hpath : (Service.mount (.ofConfig s c) c.linkBase).resource? path = some .search)
    (hask : SearchParameters.AskFor ps r) (quiet : Bool) (id id' : String) :
    LeadToSearch c.linkBase (.mount (.ofConfig s c) c.linkBase) ((r.query config data quiet).run files id)
      ((Service.mount (.ofConfig s c) c.linkBase).answer id' ⟨.get, path, ps⟩) := by
  rw [run_query hconfig r quiet id hdata, Service.answer_search hpath hask]
  show LeadToSearch _ _ (ending _ _ (((Engine.ofConfig s c).search r).map _))
    (Service.ending _ (((Engine.ofConfig s c).search r).map _))
  cases (Engine.ofConfig s c).search r with
  | ok result => exact leadToSearch_ok quiet id id' _ hbase (Service.isServed_of_resource? hpath) r result
  | error error => exact leadToSearch_error quiet id id' _ _ error

/-! ## A base with a slash at its start, and one without -/

/-- A file with a configuration that sets a base, and one with a dataset without entries. -/
def filesUnder (base : String) : Files
  | "witrack.toml" => .text ("[server]\nbase_url = \"" ++ base ++ "\"\n")
  | "data.json" => .text Store.empty.toDataset.text
  | _ => .missing

def configUnder (base : String) : Config :=
  { Config.none with baseUrl := some base }

def requestForOpen : Request :=
  ⟨"\x7b\"state\": \"open\"\x7d", none, none, none⟩

def queryForOpen : Invocation :=
  requestForOpen.query "witrack.toml" "data.json" true

theorem loadStore_filesUnder (base : String) : loadStore (filesUnder base) "data.json" = .ok Store.empty :=
  loadStore_of_text rfl

theorem search_requestForOpen (base : String) :
    (Engine.ofConfig .empty (configUnder base)).search requestForOpen = .ok ⟨[], [], 0, ⟨0, 20⟩⟩ := by
  show (Engine.ofConfig .empty Config.none).search requestForOpen = _
  decide +kernel

/-- What the query prints under a base between slashes leads to searches. -/
theorem links_lead_to_search_slashes :
    loadConfig (filesUnder "/api/") "witrack.toml" = .ok (configUnder "/api/") ∧
      IsRooted "/api/" ∧
      2 ≤ (linksIn (queryForOpen.run (filesUnder "/api/") "id").document).length ∧
      ∀ address ∈ linksIn (queryForOpen.run (filesUnder "/api/") "id").document, pathIn address = "/api/search" := by
  have hconfig : loadConfig (filesUnder "/api/") "witrack.toml" = .ok (configUnder "/api/") := by decide +kernel
  have hdata := loadStore_filesUnder "/api/"
  have hrooted : IsRooted "/api/" := by decide +kernel
  have hmount : (Service.mount (.ofConfig .empty (configUnder "/api/")) "/api/").pathOf .search = "/api/search" := by
    show (if Service.normalBase "/api/" = "/" then _ else Service.normalBase "/api/" ++ _) = _
    decide +kernel
  have hask : SearchParameters.AskFor requestForOpen.parameters requestForOpen :=
    SearchParameters.askFor_parameters (by decide) nofun nofun nofun
  have hlinks := links_lead_to_search hconfig hdata (show IsPathText "/api/" by decide +kernel)
    ((Service.resource?_pathOf_iff _).2 (by decide +kernel)) hask true "id" "id"
  refine ⟨hconfig, hrooted, hlinks.shown ?_, fun address haddress => ?_⟩
  · rw [run_query hconfig _ _ _ hdata, search_requestForOpen]
    rfl
  · exact ((hlinks.served_iff address haddress).2 hrooted).trans hmount

/-- **A base without a slash at its start**: what the query prints does not have the path under which searches are
served. -/
theorem links_unserved :
    loadConfig (filesUnder "api") "witrack.toml" = .ok (configUnder "api") ∧
      loadStore (filesUnder "api") "data.json" = .ok Store.empty ∧
      ∃ address ∈ linksIn (queryForOpen.run (filesUnder "api") "id").document,
        pathIn address ≠ (Service.mount (.ofConfig .empty (configUnder "api")) "api").pathOf .search := by
  have hconfig : loadConfig (filesUnder "api") "witrack.toml" = .ok (configUnder "api") := by decide +kernel
  have hdata := loadStore_filesUnder "api"
  refine ⟨hconfig, hdata, ?_⟩
  rw [queryForOpen, run_query hconfig _ _ _ hdata, search_requestForOpen]
  show ∃ address ∈ linksIn (SearchResult.toJson _ _), _
  rw [linksIn_toJson]
  refine ⟨_, List.mem_cons_self, ?_⟩
  rw [LinkTarget.pathIn_link (show IsPathText "api" by decide), ← Service.searchPath_normalBase]
  decide +kernel

end Invocation
end Backlog
