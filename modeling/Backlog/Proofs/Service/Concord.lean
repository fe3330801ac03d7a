import Backlog.Proofs.CommandLine.Verdict
import Backlog.Proofs.Response.RoundTrip
import Backlog.Proofs.Text.Numeral
import Backlog.Service
/-!
# Concord — the command line and the service answer alike

A request reaches the engine by two ways: as the arguments of a query, and as the parameters of a request over HTTP under
the path where searches are served.  Both make the same `Request` (`CommandLine.read_arguments`,
`SearchParameters.askFor_parameters`), and what each makes of the answer of the engine is one function of it
(`Invocation.ending`, `Service.ending`).  So the two ways can only differ in what these functions make of one answer,
which is the links and the identifier of a report (`saysTheSame_ending`).
-/
namespace Backlog

/-! ## Parameters -/

def Request.parameters (r : Request) : List (String × String) :=
  ("filter[expression]", r.expression) :: (r.space.toList.map fun space => ("spaceID", space)) ++
    (r.offset.toList.map fun n => ("page[offset]", Text.decimal n)) ++
    (r.limit.toList.map fun n => ("page[limit]", Text.decimal n))

namespace SearchParameters

/-- Whether parameters ask for the answer to a request. -/
def AskFor (ps : List (String × String)) (r : Request) : Prop :=
  ∃ p, ofPairs? ps = some p ∧ p.toRequest = .ok r

theorem ofPairs?_parameters (r : Request) :
    ofPairs? r.parameters =
      some ⟨some r.expression, r.space, r.offset.map Text.decimal, r.limit.map Text.decimal⟩ := by
  obtain ⟨expression, space, offset, limit⟩ := r
  cases space <;> cases offset <;> cases limit <;> rfl

theorem parameters_injective : Function.Injective Request.parameters := by
  intro r r' h
  have hread := congrArg ofPairs? h
  rw [ofPairs?_parameters, ofPairs?_parameters] at hread
  have hdecimal : Function.Injective Text.decimal := fun _ _ => Text.decimal_inj.1
  obtain ⟨expression, space, offset, limit⟩ := r
  obtain ⟨expression', space', offset', limit'⟩ := r'
  simpa [(Option.map_injective hdecimal).eq_iff] using hread

theorem number_map_decimal {name : String} {number : Option Nat} (h : ∀ n ∈ number, n ≤ Text.maxWord) :
    SearchParameters.number name (number.map Text.decimal) = .ok number := by
  cases number with
  | none => rfl
  | some n => simp only [Option.map_some, SearchParameters.number, Text.readWord?_trim_decimal (h n rfl)]

/-- **The parameters of a request ask for it**, if it has something in its expression and a name for its space. -/
theorem askFor_parameters {r : Request} (hexpression : Text.isAllBlank r.expression = false)
    (hspace : ∀ space ∈ r.space, space ≠ "") (hoffset : ∀ n ∈ r.offset, n ≤ Text.maxWord)
    (hlimit : ∀ n ∈ r.limit, n ≤ Text.maxWord) : AskFor r.parameters r := by
  refine ⟨_, ofPairs?_parameters r, ?_⟩
  have hwanted : r.space.filter (· != "") = r.space := by
    cases hgiven : r.space with
    | none => rfl
    | some space => exact Option.filter_some_pos (bne_iff_ne.2 (hspace space hgiven))
  simp only [toRequest, wantedExpression, hexpression, hwanted, number_map_decimal hoffset, number_map_decimal hlimit]
  rfl

end SearchParameters

namespace Service

/-! ## Paths -/

theorem fitsPart_self (part : List Char) : fitsPart part part = true := by
  rw [fitsPart]
  split
  · exact List.isPrefixOf_iff_prefix.2 (List.takeWhile_prefix _)
  · exact beq_self_eq_true part

theorem fitsParts_self : ∀ parts : List (List Char), fitsParts parts parts = true
  | [] => rfl
  | part :: parts => by rw [fitsParts, fitsPart_self, fitsParts_self parts, Bool.and_self]

theorem fits_self (path : String) : fits path path = true :=
  fitsParts_self _

theorem fitsParts_append_eq_false {pattern part : List Char} (h : fitsPart pattern part = false) :
    ∀ parts : List (List Char), fitsParts (parts ++ [pattern]) (parts ++ [part]) = false
  | [] => by rw [List.nil_append, List.nil_append, fitsParts, h, Bool.false_and]
  | first :: parts => by
    rw [List.cons_append, List.cons_append, fitsParts, fitsParts_append_eq_false h parts, Bool.and_false]

theorem fits_health_search (s : Service) : fits (s.pathOf .health) (s.pathOf .search) = false := by
  rw [pathOf, pathOf]
  split
  · decide
  · -- both paths have the parts of the base and differ in the last one, which has no colon
    have hparts : ∀ name : List Char, Text.splitAtEvery '/' (s.base ++ String.ofList ('/' :: name)).toList =
        Text.splitAtEvery '/' s.base.toList ++ Text.splitAtEvery '/' name := by
      intro name
      rw [String.toList_append, String.toList_ofList]
      exact Text.splitAtEvery_append '/' name _
    rw [fits, show Resource.path .health = String.ofList ('/' :: "health".toList) from rfl,
      show Resource.path .search = String.ofList ('/' :: "search".toList) from rfl, hparts, hparts]
    exact fitsParts_append_eq_false (by decide) _

theorem isServed_of_resource? {s : Service} {path : String} {r : Resource} (h : s.resource? path = some r) :
    s.isServed = true := by
  unfold resource? at h
  split at h
  · assumption
  · cases h

/-- **Searches are served** under their path, if anything is. -/
theorem resource?_pathOf_iff (s : Service) : s.resource? (s.pathOf .search) = some .search ↔ s.isServed = true := by
  refine ⟨isServed_of_resource?, fun h => ?_⟩
  rw [resource?, if_pos h, List.find?_cons, fits_health_search, List.find?_cons, fits_self]

/-! ## Answers -/

def failureReport (id : String) : Json :=
  errorDocument id "internal_error" "500" "Internal server error" "An internal error occurred while running the query"

def ending (id : String) : Except QueryError Json → HttpAnswer
  | .ok document => ⟨200, some document⟩
  | .error e => ⟨e.status, some (e.toJson id)⟩

variable {s : Service} {ps : List (String × String)}

theorem search_eq_ending {p : SearchParameters} (h : SearchParameters.ofPairs? ps = some p) (id : String) :
    s.search id ps = ending id (p.toRequest >>= fun r =>
      (s.engine.search r).map fun result => result.toJson (r.target s.base)) := by
  simp only [search, h]
  cases p.toRequest with
  | error error => rfl
  | ok r =>
    simp only [bind, Except.bind]
    cases s.engine.search r <;> rfl

theorem answer_search {path : String} {r : Request} (hpath : s.resource? path = some .search)
    (hask : SearchParameters.AskFor ps r) (id : String) :
    s.answer id ⟨.get, path, ps⟩ = ending id ((s.engine.search r).map fun result => result.toJson (r.target s.base)) := by
  obtain ⟨p, hpairs, hrequest⟩ := hask
  simp only [answer, hpath, read, search_eq_ending hpairs, hrequest]
  rfl

theorem toJson_of_isClientError_eq_false {e : QueryError} (h : e.isClientError = false) (id : String) :
    e.toJson id = failureReport id := by
  cases e with
  | internal contexts fault =>
    have hdecimal : Text.decimal 500 = "500" := by decide
    show errorDocument id "internal_error" (Text.decimal 500) _ _ = _
    rw [hdecimal]
    rfl
  | illFormed fault => cases h
  | unknownKey key => cases h
  | invalidCombination fault => cases h

theorem body_ending {id : String} {x : Except QueryError Json} (h : (ending id x).status = 500) :
    (ending id x).body = some (failureReport id) := by
  cases x with
  | ok document => cases h
  | error error =>
    cases hclient : error.isClientError with
    | true =>
      have hstatus : error.status = 400 := if_pos hclient
      cases hstatus.symm.trans h
    | false => exact congrArg some (toJson_of_isClientError_eq_false hclient id)

/-- **What failed is not told**: answers with the status 500 are the same but for the identifier. -/
theorem body_of_status {id : String} {r : HttpRequest} (hmethod : r.method = .get) (h : (s.answer id r).status = 500) :
    (s.answer id r).body = some (failureReport id) := by
  simp only [answer, hmethod] at h ⊢
  cases hpath : s.resource? r.path with
  | none => rw [hpath] at h; cases h
  | some resource =>
    rw [hpath] at h
    cases resource with
    | health => cases h
    | schema => cases h
    | search =>
      change (s.search id r.parameters).status = 500 at h
      show (s.search id r.parameters).body = _
      cases hpairs : SearchParameters.ofPairs? r.parameters with
      | none => rw [search, hpairs] at h; cases h
      | some p =>
        rw [search_eq_ending hpairs] at h ⊢
        exact body_ending h

end Service

/-! ## Both ways -/

/-- Whether a query that ended and an answer over HTTP say the same, each with an identifier of its own for a report: the
same page, ancestors and count; or the same error of the request; or that the search failed. -/
inductive SaysTheSame (id id' : String) : Outcome → HttpAnswer → Prop
  | found (data included count links links' : Json) :
    SaysTheSame id id'
      ⟨0, .obj [("data", data), ("included", included), ("meta", count), ("links", links)], ""⟩
      ⟨200, some (.obj [("data", data), ("included", included), ("meta", count), ("links", links')])⟩
  | rejected (code title detail diagnostics : String) :
    SaysTheSame id id' ⟨2, errorDocument id code "400" title detail, diagnostics⟩
      ⟨400, some (errorDocument id' code "400" title detail)⟩
  | failed (diagnostics : String) :
    SaysTheSame id id' ⟨1, Service.failureReport id, diagnostics⟩ ⟨500, some (Service.failureReport id')⟩

theorem SaysTheSame.status_of_code {id id' : String} {outcome : Outcome} {answer : HttpAnswer}
    (h : SaysTheSame id id' outcome answer) (hcode : outcome.code = 1) : answer.status = 500 := by
  cases h with
  | found => cases hcode
  | rejected => cases hcode
  | failed => rfl

/-- **One answer of the engine** ends both ways with the same, whatever the addresses in it are. -/
theorem saysTheSame_ending (quiet : Bool) (id id' : String) (x : Except QueryError SearchResult)
    (target target' : LinkTarget) :
    SaysTheSame id id' (Invocation.ending quiet id (x.map fun result => result.toJson target))
      (Service.ending id' (x.map fun result => result.toJson target')) := by
  cases x with
  | ok result => exact .found _ _ _ _ _
  | error error =>
    cases hclient : error.isClientError with
    | true =>
      have hcode : error.exitCode = 2 := if_pos hclient
      have hstatus : error.status = 400 := if_pos hclient
      show SaysTheSame id id' ⟨error.exitCode, error.toJson id, _⟩ ⟨error.status, some (error.toJson id')⟩
      rw [hcode, hstatus, QueryError.toJson_of_isClientError hclient, QueryError.toJson_of_isClientError hclient]
      exact .rejected _ _ _ _
    | false =>
      have hcode : error.exitCode = 1 := if_neg (ne_true_of_eq_false hclient)
      have hstatus : error.status = 500 := if_neg (ne_true_of_eq_false hclient)
      show SaysTheSame id id' ⟨error.exitCode, error.toJson id, _⟩ ⟨error.status, some (error.toJson id')⟩
      rw [hcode, hstatus, Service.toJson_of_isClientError_eq_false hclient,
        Service.toJson_of_isClientError_eq_false hclient]
      exact .failed _

/-- What is said of a request to a query, and to a service under a base for the same store and configuration. -/
structure Concord (files : Files) (config data : String) (c : Config) (s : Store) (base : String) (r : Request) :
    Prop where
  /-- Both can be asked, for something and in a space with a name. -/
  asked : ∀ quiet, (r.query config data quiet).CanBeGiven → Text.isAllBlank r.expression = false →
    (∀ space ∈ r.space, space ≠ "") →
      CommandLine.read (r.query config data quiet).arguments = .ok (r.query config data quiet) ∧
        SearchParameters.AskFor r.parameters r ∧
        ((Service.mount (.ofConfig s c) base).resource? ((Service.mount (.ofConfig s c) base).pathOf .search) =
          some .search ↔ (Service.mount (.ofConfig s c) base).isServed = true)
  /-- Both then say the same. -/
  alike : ∀ quiet id id' path ps, (Service.mount (.ofConfig s c) base).resource? path = some .search →
    SearchParameters.AskFor ps r →
      SaysTheSame id id' ((r.query config data quiet).run files id)
        ((Service.mount (.ofConfig s c) base).answer id' ⟨.get, path, ps⟩)
  /-- What was found is shown by both. -/
  shown : ∀ quiet id id' path ps result, (Service.mount (.ofConfig s c) base).resource? path = some .search →
    SearchParameters.AskFor ps r → (Engine.ofConfig s c).search r = .ok result →
      ∃ printed returned, (r.query config data quiet).run files id = ⟨0, printed, ""⟩ ∧
        (Service.mount (.ofConfig s c) base).answer id' ⟨.get, path, ps⟩ = ⟨200, some returned⟩ ∧
        result.ShownBy printed ∧ result.ShownBy returned
  /-- And what failed is told by no answer of any service. -/
  concealed : ∀ (service : Service) id request, request.method = .get → (service.answer id request).status = 500 →
    (service.answer id request).body = some (Service.failureReport id)

namespace Invocation

variable {files : Files} {config data : String} {c : Config} {s : Store}

/-- **The command line and the service answer alike.** -/
theorem query_concords_with_service (hconfig : loadConfig files config = .ok c) (hdata : loadStore files data = .ok s)
    (base : String) (r : Request) : Concord files config data c s base r where
  asked quiet hgiven hexpression hspace := by
    obtain ⟨-, -, -, -, hoffset, hlimit⟩ := id hgiven
    exact ⟨CommandLine.read_arguments hgiven, SearchParameters.askFor_parameters hexpression hspace hoffset hlimit,
      Service.resource?_pathOf_iff _⟩
  alike quiet id id' path ps hpath hask := by
    rw [run_query hconfig r quiet id hdata, Service.answer_search hpath hask]
    exact saysTheSame_ending quiet id id' _ _ _
  shown quiet id id' path ps result hpath hask hfound := by
    have hsearch : (Service.mount (.ofConfig s c) base).engine.search r = .ok result := hfound
    rw [run_query hconfig r quiet id hdata, Service.answer_search hpath hask, hfound, hsearch]
    exact ⟨_, _, rfl, rfl, result.shownBy_toJson _, result.shownBy_toJson _⟩
  concealed service id request hmethod hstatus := Service.body_of_status hmethod hstatus

/-- The same filter as in `requestIn`, without the ancestors. -/
def flatRequest : Request :=
  ⟨({ Engine.workWithAncestors with treeView := false } : Filter.Document).text .compact, some "a", none, some 5⟩

theorem search_flatRequest : ∃ result, (Engine.ofConfig Engine.circle Engine.strictly).search flatRequest = .ok result ∧
    Hierarchy.ids result.items = ["left"] ∧ result.total = 1 := by
  have hread : Filter.Document.ofText flatRequest.expression = .ok { Engine.workWithAncestors with treeView := false } :=
    Filter.Document.ofText_text (by decide +kernel) (by decide +kernel) .compact
  have hfound : ((Engine.ofConfig Engine.circle Engine.strictly).search flatRequest).toOption.map
      (fun result => (Hierarchy.ids result.items, result.total)) = some (["left"], 1) := by
    rw [Engine.search, hread]
    decide +kernel
  obtain ⟨result, hresult, hshown⟩ := Option.map_eq_some_iff.1 hfound
  obtain ⟨hids, htotal⟩ := Prod.mk.inj hshown
  exact ⟨result, Outcome.toOption_eq_some.1 hresult, hids, htotal⟩

/-- A walk to the ancestors that fails, and without the ancestors a page that is found, each asked for in both ways. -/
theorem query_concords_with_service_circle :
    loadConfig circleFiles "strict.toml" = .ok Engine.strictly ∧
      loadStore circleFiles "circle.json" = .ok Engine.circle ∧
      (Service.mount (.ofConfig Engine.circle Engine.strictly) "/api/").pathOf .search = "/api/search" ∧
      (((requestIn "a").query "strict.toml" "circle.json" true).run circleFiles "id").code = 1 ∧
      ((Service.mount (.ofConfig Engine.circle Engine.strictly) "/api/").answer "id"
        ⟨.get, "/api/search", (requestIn "a").parameters⟩).status = 500 ∧
      ∃ (result : SearchResult) (printed returned : Json), Hierarchy.ids result.items = ["left"] ∧ result.total = 1 ∧
        (flatRequest.query "strict.toml" "circle.json" true).run circleFiles "id" = ⟨0, printed, ""⟩ ∧
        (Service.mount (.ofConfig Engine.circle Engine.strictly) "/api/").answer "id"
          ⟨.get, "/api/search", flatRequest.parameters⟩ = ⟨200, some returned⟩ ∧
        result.ShownBy printed ∧ result.ShownBy returned := by
  have hbase : (Service.mount (.ofConfig Engine.circle Engine.strictly) "/api/").pathOf .search = "/api/search" := by
    show (if Service.normalBase "/api/" = "/" then _ else Service.normalBase "/api/" ++ _) = _
    decide +kernel
  have hserved : (Service.mount (.ofConfig Engine.circle Engine.strictly) "/api/").isServed = true := by
    decide +kernel
  have hcode : (((requestIn "a").query "strict.toml" "circle.json" true).run circleFiles "id").code = 1 := by
    rw [run_query loadConfig_circleFiles _ _ _ loadStore_circleFiles, Engine.search_eq_accept_bind, accept_requestIn]
    decide +kernel
  have hconcord := query_concords_with_service loadConfig_circleFiles loadStore_circleFiles "/api/" (requestIn "a")
  obtain ⟨-, hask, hpath⟩ := hconcord.asked true (by decide +kernel) (by decide +kernel) (by decide)
  have hsame := hconcord.alike true "id" "id" _ _ (hbase ▸ hpath.2 hserved) hask
  have hflat := query_concords_with_service loadConfig_circleFiles loadStore_circleFiles "/api/" flatRequest
  obtain ⟨-, haskFlat, -⟩ := hflat.asked true (by decide +kernel) (by decide +kernel) (by decide)
  obtain ⟨result, hfound, hids, htotal⟩ := search_flatRequest
  obtain ⟨printed, returned, hshown⟩ :=
    hflat.shown true "id" "id" _ _ result (hbase ▸ hpath.2 hserved) haskFlat hfound
  exact ⟨loadConfig_circleFiles, loadStore_circleFiles, hbase, hcode, hsame.status_of_code hcode, result, printed, returned,
    hids, htotal, hshown⟩

end Invocation
end Backlog
