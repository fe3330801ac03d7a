import Backlog.Proofs.Filter.Reading
import Backlog.Proofs.Page.Address
import Backlog.Proofs.Page.Turning
import Backlog.Proofs.Search.Selection
import Backlog.Response
/-!
# Walk — all matches, page by page

Whoever wants all matches of a filter asks for the first page and then follows the links to the next one until there is
none.  Such a `Walk` is determined by the request it starts with (`Walk.unique`), because an address leads to one page.
It comes to an end, and what it shows, put end to end, is the list of the matches (`walk_shows_selected`).

One step shows the matches between two offsets (`ShowsFrom.turn`); the walk is that step as often as there are pages, by
induction on the number of matches that are still to come.
-/
namespace Backlog

open Backlog.Filter (Document Compiled)

/-- A request with its answer. -/
structure Visit where
  request : Request
  result : SearchResult

def Visit.links (v : Visit) (base : String) : PageLinks :=
  (v.request.target base).links v.result.page v.result.total

def Request.turnTo (r : Request) (p : Page) : Request :=
  { r with offset := some p.offset, limit := some p.limit }

namespace Engine

/-- **A walk** from a request on: the requests with their answers, each but the first for the page that the link to the
next page leads to in the answer before.  It ends with an answer without such a link. -/
inductive Walk (e : Engine) (base : String) : Request → List Visit → Prop
  | stop {r : Request} {result : SearchResult} (hsearch : e.search r = .ok result)
    (hnext : (Visit.mk r result |>.links base).next = none) : Walk e base r [⟨r, result⟩]
  | turn {r : Request} {result : SearchResult} {p : Page} {visits : List Visit} (hsearch : e.search r = .ok result)
    (hnext : (Visit.mk r result |>.links base).next = some ((r.target base).link p))
    (rest : Walk e base (r.turnTo p) visits) : Walk e base r (⟨r, result⟩ :: visits)

variable {e : Engine} {base : String}

/-- **A walk is determined by its first request.** -/
theorem Walk.unique {r : Request} {visits visits' : List Visit} (h : e.Walk base r visits)
    (h' : e.Walk base r visits') : visits = visits' := by
  induction h generalizing visits' with
  | stop hsearch hnext =>
    cases h' with
    | stop hsearch' _ =>
      cases hsearch.symm.trans hsearch'
      rfl
    | turn hsearch' hnext' _ =>
      cases hsearch.symm.trans hsearch'
      cases hnext.symm.trans hnext'
  | turn hsearch hnext _ ih =>
    cases h' with
    | stop hsearch' hnext' =>
      cases hsearch.symm.trans hsearch'
      cases hnext.symm.trans hnext'
    | turn hsearch' hnext' rest' =>
      cases hsearch.symm.trans hsearch'
      cases LinkTarget.link_inj (Option.some.inj (hnext.symm.trans hnext'))
      rw [ih rest']

/-! ## What the rest of a walk shows -/

def answerWith (found : List WorkItem) (page : Page) : SearchResult :=
  ⟨Hierarchy.withoutParents ((found.drop page.offset).take page.limit), [], found.length, page⟩

/-- What the rest of a walk shows that has come to an offset: the matches from there on.  Every answer counts all
matches and has the same limit, and the last request is for the last page. -/
structure ShowsFrom (t : LinkTarget) (found : List WorkItem) (limit offset : Nat) (visits : List Visit) : Prop where
  items : visits.flatMap (·.result.items) = Hierarchy.withoutParents (found.drop offset)
  every : ∀ v ∈ visits, v.request.target t.base = t ∧ v.result.total = found.length ∧ v.result.page.limit = limit
  last : ∃ v ∈ visits.getLast?, v.request.offset = some (Page.lastOffset ⟨offset, limit⟩ found.length)

section

variable {t : LinkTarget} {found : List WorkItem} {limit offset : Nat} {r : Request}

theorem showsFrom_stop (hlimit : 1 ≤ limit) (htarget : r.target t.base = t) (hoffset : r.offset = some offset)
    (hstart : limit ∣ offset) (hmatch : offset = 0 ∨ offset < found.length) (hend : found.length ≤ offset + limit) :
    ShowsFrom t found limit offset [⟨r, answerWith found ⟨offset, limit⟩⟩] := by
  refine ⟨?_, ?_, ?_⟩
  · have hall : (found.drop offset).take limit = found.drop offset :=
      List.take_of_length_le (by rw [List.length_drop]; omega)
    rw [List.flatMap_singleton, answerWith, hall]
  · intro v hv
    cases List.mem_singleton.1 hv
    exact ⟨htarget, rfl, rfl⟩
  · refine ⟨⟨r, answerWith found ⟨offset, limit⟩⟩, rfl, ?_⟩
    rw [Page.lastOffset_eq_offset hlimit hstart hmatch hend, hoffset]

/-- **One step of a walk** shows the matches up to the offset that the rest starts from. -/
theorem ShowsFrom.turn {visits : List Visit} (h : ShowsFrom t found limit (offset + limit) visits)
    (htarget : r.target t.base = t) :
    ShowsFrom t found limit offset (⟨r, answerWith found ⟨offset, limit⟩⟩ :: visits) := by
  obtain ⟨final, hfinal, hlast⟩ := h.last
  refine ⟨?_, ?_, ?_⟩
  · rw [List.flatMap_cons, h.items, answerWith, Hierarchy.withoutParents, Hierarchy.withoutParents, ← List.map_append,
      ← List.drop_drop, List.take_append_drop]
    rfl
  · rw [List.forall_mem_cons]
    exact ⟨⟨htarget, rfl, rfl⟩, h.every⟩
  · refine ⟨final, ?_, hlast⟩
    rw [List.getLast?_cons, Option.mem_def.1 hfinal]
    rfl

/-- **There is a walk** from every page that the walk from the first one comes to. -/
theorem exists_walk (hcount : found.length ≤ Text.maxWord) (hlimit : 1 ≤ limit)
    (hallowed : ∀ start, Page.ofRequest e.settings (some start) (some limit) = ⟨start, limit⟩)
    (hsearch : ∀ r : Request, r.target t.base = t →
      e.search r = .ok (answerWith found (.ofRequest e.settings r.offset r.limit)))
    (offset : Nat) (r : Request) (htarget : r.target t.base = t) (hoffset : r.offset = some offset)
    (hpage : Page.ofRequest e.settings r.offset r.limit = ⟨offset, limit⟩) (hstart : limit ∣ offset)
    (hmatch : offset = 0 ∨ offset < found.length) :
    ∃ visits, e.Walk t.base r visits ∧ ShowsFrom t found limit offset visits := by
  have hanswer : e.search r = .ok (answerWith found ⟨offset, limit⟩) := hpage ▸ hsearch r htarget
  have hnext : (Visit.mk r (answerWith found ⟨offset, limit⟩) |>.links t.base).next =
      if offset + limit < found.length then some (t.link ⟨offset + limit, limit⟩) else none := by
    rw [Visit.links, htarget]
    exact t.links_next hlimit hcount
  by_cases hmore : offset + limit < found.length
  · rw [if_pos hmore, ← htarget] at hnext
    obtain ⟨visits, hwalk, hshows⟩ := exists_walk hcount hlimit hallowed hsearch (offset + limit)
      (r.turnTo ⟨offset + limit, limit⟩) htarget rfl (hallowed _) (Nat.dvd_add hstart (Nat.dvd_refl limit)) (.inr hmore)
    exact ⟨_, .turn hanswer hnext hwalk, hshows.turn htarget⟩
  · rw [if_neg hmore] at hnext
    exact ⟨_, .stop hanswer hnext, showsFrom_stop hlimit htarget hoffset hstart hmatch (Nat.not_lt.1 hmore)⟩
termination_by found.length - offset

end

/-! ## The walk from the first page -/

/-- What a walk shows that loses and repeats nothing: all of some matches in the order of their creation.  Every answer
has the same limit, counts what the walk shows, and has the page of the last request for its last one. -/
structure ShowsOnce (base : String) (found : List WorkItem) (limit : Nat) (visits : List Visit) : Prop where
  items : visits.flatMap (·.result.items) = Hierarchy.withoutParents found
  ordered : (visits.flatMap (·.result.items)).Pairwise fun a b =>
    a.createdAt.fields < b.createdAt.fields ∨ a.createdAt = b.createdAt ∧ a.id < b.id
  total : ∀ v ∈ visits, v.result.total = (visits.flatMap (·.result.items)).length
  limits : ∀ v ∈ visits, v.result.page.limit = limit
  last : ∃ final ∈ visits.getLast?, ∃ offset, final.request.offset = some offset ∧
    ∀ v ∈ visits, (v.links base).last = (v.request.target base).link ⟨offset, limit⟩

theorem ShowsFrom.showsOnce {t : LinkTarget} {found : List WorkItem} {limit : Nat} {visits : List Visit}
    (h : ShowsFrom t found limit 0 visits) (hlimit : 1 ≤ limit)
    (hordered : found.Pairwise fun a b =>
      a.createdAt.fields < b.createdAt.fields ∨ a.createdAt = b.createdAt ∧ a.id < b.id) :
    ShowsOnce t.base found limit visits := by
  obtain ⟨final, hfinal, hoffset⟩ := h.last
  have hitems : visits.flatMap (·.result.items) = Hierarchy.withoutParents found := h.items
  refine ⟨hitems, ?_, fun v hv => ?_, fun v hv => (h.every v hv).2.2, final, hfinal, _, hoffset, fun v hv => ?_⟩
  · rw [hitems, Hierarchy.withoutParents, List.pairwise_map]
    exact hordered
  · rw [hitems, Hierarchy.withoutParents, List.length_map]
    exact (h.every v hv).2.1
  · obtain ⟨-, htotal, hpage⟩ := h.every v hv
    have hlast : v.result.page.lastOffset found.length = Page.lastOffset ⟨0, limit⟩ found.length := by
      rw [Page.lastOffset, Page.lastOffset, hpage]
    rw [Visit.links, LinkTarget.links_last _ (hpage ▸ hlimit), htotal, hlast, hpage]

/-- A page of a request is no larger than what is set, and than one where nothing can be shown. -/
theorem limit_le_ofSettings (c : Config) (offset limit : Option Nat) :
    (Page.ofRequest c.settings offset limit).limit ≤ max 1 (c.maxLimit.getD 100) := by
  have hmax := Page.limit_le_ofRequest c.settings offset limit
  have hset : c.settings.maxLimit = max (c.maxLimit.getD 100) 1 := rfl
  omega

section

variable {s : Store} {c : Config} {d : Document} {expression : String} {space : Option String} {k : Compiled}

theorem search_eq_answerWith (hread : Document.ofText expression = .ok d)
    (hk : (ofConfig s c).compile d space = .ok k) (htree : d.treeView = false) (offset limit : Option Nat) :
    (ofConfig s c).search ⟨expression, space, offset, limit⟩ =
      .ok (answerWith (s.matchesOf k.predicate) (.ofRequest c.settings offset limit)) := by
  have hwanted : k.treeView = false := (Filter.Resolver.treeView_of_compile rfl hk).trans htree
  rw [search_of_ofText (r := ⟨expression, space, offset, limit⟩) hread hk]
  exact runCompiled_of_treeView_eq_false (ofConfig s c) hwanted _

/-- **A walk loses and repeats nothing.**  When a filter without ancestors compiles, the walk from the first page ends,
and it shows the items that the filter selects, each once and in the order of their creation.  The items of a store are
counted in 64 bits, like the offsets. -/
theorem walk_shows_selected (hread : Document.ofText expression = .ok d)
    (hk : (ofConfig s c).compile d space = .ok k) (htree : d.treeView = false)
    (hcount : s.items.entries.length ≤ Text.maxWord) (base : String) (limit : Option Nat) :
    ∃ visits found allowed, (ofConfig s c).Walk base ⟨expression, space, some 0, limit⟩ visits ∧
      (∀ others, (ofConfig s c).Walk base ⟨expression, space, some 0, limit⟩ others → others = visits) ∧
      d.Lists space s c.allStates found ∧ 1 ≤ allowed ∧ allowed ≤ max 1 (c.maxLimit.getD 100) ∧
      ShowsOnce base found allowed visits := by
  have hlists : d.Lists space s c.allStates (s.matchesOf k.predicate) := lists_matchesOf hk
  have hlimit : 1 ≤ (Page.ofRequest c.settings (some 0) limit).limit := Page.limit_pos_ofRequest ..
  have hsearch : ∀ r : Request, r.target base = ⟨base, expression, space⟩ → (ofConfig s c).search r =
      .ok (answerWith (s.matchesOf k.predicate) (.ofRequest c.settings r.offset r.limit)) := by
    rintro ⟨expression', space', offset, limit⟩ htarget
    cases htarget
    exact search_eq_answerWith hread hk htree offset limit
  obtain ⟨visits, hwalk, hshows⟩ := exists_walk (t := ⟨base, expression, space⟩)
    (Nat.le_trans (s.length_matchesOf_le k.predicate) hcount) hlimit
    (Page.ofRequest_offset_limit c.settings (some 0) limit) hsearch 0 ⟨expression, space, some 0, limit⟩ rfl rfl rfl
    (Nat.dvd_zero _) (.inl rfl)
  exact ⟨visits, _, _, hwalk, fun _ hother => hother.unique hwalk, hlists, hlimit, limit_le_ofSettings ..,
    hshows.showsOnce hlimit hlists.ordered⟩

end

theorem walk_shows_selected_unlabelledWork :
    ∃ k visits found allowed, Document.ofText (unlabelledWork.text .compact) = .ok unlabelledWork ∧
      (ofConfig twoSpaces .none).compile unlabelledWork none = .ok k ∧ unlabelledWork.treeView = false ∧
      twoSpaces.items.entries.length ≤ Text.maxWord ∧
      (ofConfig twoSpaces .none).Walk "/api/" ⟨unlabelledWork.text .compact, none, some 0, some 1⟩ visits ∧
      unlabelledWork.Lists none twoSpaces Config.none.allStates found ∧ found.map WorkItem.id = ["2", "1"] ∧
      1 ≤ allowed ∧ allowed ≤ 100 ∧ ShowsOnce "/api/" found allowed visits := by
  have hread : Document.ofText (unlabelledWork.text .compact) = .ok unlabelledWork :=
    Document.ofText_text (by decide +kernel) (by decide +kernel) .compact
  have hcount : twoSpaces.items.entries.length ≤ Text.maxWord := by decide +kernel
  obtain ⟨k, hk⟩ : ∃ k, (ofConfig twoSpaces .none).compile unlabelledWork none = .ok k := ⟨_, rfl⟩
  obtain ⟨visits, found, allowed, hwalk, -, hlists, hlow, hhigh, hshows⟩ :=
    walk_shows_selected hread hk rfl hcount "/api/" (some 1)
  have hids : ((ofConfig twoSpaces .none).compile unlabelledWork none).toOption.map (fun k =>
      (twoSpaces.matchesOf k.predicate).map WorkItem.id) = some ["2", "1"] := by decide +kernel
  rw [hk] at hids
  have hfound : found.map WorkItem.id = ["2", "1"] := hlists.eq (lists_matchesOf hk) ▸ Option.some.inj hids
  exact ⟨k, visits, found, allowed, hread, hk, rfl, hcount, hwalk, hlists, hfound, hlow, hhigh, hshows⟩

end Engine
end Backlog
