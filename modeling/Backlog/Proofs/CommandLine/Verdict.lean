import Backlog.CommandLine.Run
import Backlog.Proofs.CommandLine.Arguments
import Backlog.Proofs.Dataset.Normal
import Backlog.Proofs.Search.Failure
/-!
# Verdict — a check and a query reject the same filters

A query reads the filter of its request, compiles it, and shows a page of the matches.  A check against the same dataset
reads and compiles the filter too, and then looks for references that nobody declared, which never fails.  So there is
one verdict on a filter, `Engine.accept`, which both have to pass first, and all of its errors are errors of the request
(`isClientError_of_accept`).  What is left of a query after it can only fail on the way to the ancestors
(`search_of_accept`), and that is told by another code (`check_rejects_as_query`).
-/
namespace Backlog

open Backlog.Filter (Document Compiled)

def errorDocument (id code status title detail : String) : Json :=
  .obj [("errors", .arr [.obj [("id", .str id), ("code", .str code), ("status", .str status), ("title", .str title),
    ("detail", .str detail)]])]

theorem QueryError.toJson_of_isClientError {e : QueryError} (h : e.isClientError = true) (id : String) :
    e.toJson id = errorDocument id e.code "400" e.title e.clientDetail := by
  have hstatus : e.status = 400 := if_pos h
  have hdecimal : Text.decimal 400 = "400" := by decide
  show errorDocument id e.code (Text.decimal e.status) e.title e.clientDetail = _
  rw [hstatus, hdecimal]

/-! ## The verdict on a filter -/

namespace Engine

variable {e : Engine} {s : Store} {c : Config} {r : Request} {d : Document} {k : Compiled} {error : QueryError}

def accept (e : Engine) (r : Request) : Except QueryError (Document × Compiled) := do
  let d ← Document.ofText r.expression
  return (d, ← e.compile d r.space)

theorem accept_eq_ok_iff :
    e.accept r = .ok (d, k) ↔ Document.ofText r.expression = .ok d ∧ e.compile d r.space = .ok k := by
  rw [accept, Outcome.bind_eq_ok]
  constructor
  · rintro ⟨d', hd, h⟩
    obtain ⟨k', hk, h⟩ := Outcome.bind_eq_ok.1 h
    cases h
    exact ⟨hd, hk⟩
  · rintro ⟨hd, hk⟩
    exact ⟨d, hd, Outcome.bind_eq_ok.2 ⟨k, hk, rfl⟩⟩

/-- **A filter that is rejected** is so for an error of the request. -/
theorem isClientError_of_accept (h : (ofConfig s c).accept r = .error error) : error.isClientError = true := by
  rcases Outcome.bind_eq_error.1 h with hread | ⟨d, hd, hcompile⟩
  · obtain ⟨fault, rfl⟩ := Document.of_ofText_eq_error hread
    rfl
  · rw [Outcome.bind_pure_eq_error] at hcompile
    rcases kind_of_compile hd hcompile with ⟨key, rfl⟩ | ⟨fault, rfl⟩
    · rfl
    · rfl

theorem search_eq_accept_bind (e : Engine) (r : Request) :
    e.search r = e.accept r >>= fun accepted =>
      e.runCompiled accepted.2 (.ofRequest e.settings r.offset r.limit) := by
  rw [search, accept]
  cases Document.ofText r.expression with
  | error error => rfl
  | ok d =>
    show e.compile d r.space >>= _ = (e.compile d r.space >>= fun k => pure (d, k)) >>= _
    cases e.compile d r.space <;> rfl

/-- Whether ancestors are wanted for the page of a request and one of them cannot be reached or loaded. -/
def WalkFails (e : Engine) (r : Request) : Prop :=
  ∃ d k fault, e.accept r = .ok (d, k) ∧ d.treeView = true ∧
    Hierarchy.IsObstacle e.store e.settings.maxTreeDepth
      (e.itemsOn k (.ofRequest e.settings r.offset r.limit)) fault

/-- **A search for a filter that is accepted** has a result, or the walk to the ancestors fails. -/
theorem search_of_accept (h : (ofConfig s c).accept r = .ok (d, k)) :
    (∃ result, (ofConfig s c).search r = .ok result) ∧ ¬(ofConfig s c).WalkFails r ∨
      (∃ fault, (ofConfig s c).search r = .error (.internal [] fault)) ∧ (ofConfig s c).WalkFails r := by
  obtain ⟨hd, hk⟩ := accept_eq_ok_iff.1 h
  cases hsearch : (ofConfig s c).search r with
  | ok result =>
    refine .inl ⟨⟨result, rfl⟩, ?_⟩
    rintro ⟨d', k', fault, haccept, htree, hobstacle⟩
    obtain ⟨hd', hk'⟩ := accept_eq_ok_iff.1 haccept
    obtain ⟨fault', hfault⟩ := search_of_isObstacle hd' hk' htree hobstacle
    cases hsearch.symm.trans hfault
  | error error =>
    -- nothing but the walk is left after the verdict, and what it fails at is an obstacle
    rw [search_eq_accept_bind, h] at hsearch
    obtain ⟨-, fault, -, rfl⟩ := runCompiled_eq_error.1 hsearch
    refine .inr ⟨⟨fault, rfl⟩, ?_⟩
    have hfails : (ofConfig s c).search r = .error (.internal [] fault) := by
      rw [search_eq_accept_bind, h]
      exact hsearch
    obtain ⟨-, d', k', hd', hk', htree, hobstacle⟩ := isObstacle_of_search hfails
    exact ⟨d', k', fault, accept_eq_ok_iff.2 ⟨hd', hk'⟩, htree, hobstacle⟩

end Engine

/-! ## Runs -/

def Request.query (r : Request) (config data : String) (quiet : Bool) : Invocation :=
  ⟨quiet, config, .query data r.expression r.space r.offset r.limit⟩

def Request.check (r : Request) (config : String) (data : Option String) (quiet : Bool) : Invocation :=
  ⟨quiet, config, .check r.expression data r.space⟩

namespace Invocation

variable {files : Files} {config data : String} {c : Config} {s : Store}

def ending (quiet : Bool) (id : String) : Except QueryError Json → Outcome
  | .ok document => ⟨0, document, ""⟩
  | .error e => ⟨e.exitCode, e.toJson id, if quiet then "" else e.advice.text ++ "\n"⟩

theorem run_eq_ending {i : Invocation} {x : Except QueryError Json} (hconfig : loadConfig files i.config = .ok c)
    (h : perform files c i.command = x.mapError .ofError) (id : String) : i.run files id = ending i.quiet id x := by
  simp only [run, hconfig, bind, Except.bind, h]
  cases x <;> rfl

variable (hconfig : loadConfig files config = .ok c) (r : Request) (quiet : Bool) (id : String)
include hconfig

theorem run_query (hdata : loadStore files data = .ok s) :
    (r.query config data quiet).run files id =
      ending quiet id (((Engine.ofConfig s c).search r).map fun result => result.toJson (r.target c.linkBase)) := by
  refine run_eq_ending hconfig ?_ id
  simp only [Request.query, perform, hdata, bind, Except.bind]
  cases (Engine.ofConfig s c).search r <;> rfl

/-- **A check against a dataset** ends with the verdict on the filter. -/
theorem run_check (hdata : loadStore files data = .ok s) :
    (r.check config (some data) quiet).run files id =
      ending quiet id (((Engine.ofConfig s c).accept r).map fun accepted =>
        checkDocument accepted.1.treeView (Filter.warnings s accepted.1 r.space)) := by
  refine run_eq_ending hconfig ?_ id
  rw [Engine.accept]
  simp only [Request.check, perform, hdata]
  cases Document.ofText r.expression with
  | error e => rfl
  | ok d =>
    simp only [bind, Except.bind, Except.mapError, Engine.check]
    cases (Engine.ofConfig s c).compile d r.space <;> rfl

theorem run_check_alone :
    (r.check config none quiet).run files id =
      ending quiet id ((Document.ofText r.expression).map fun d => checkDocument d.treeView []) := by
  refine run_eq_ending hconfig ?_ id
  simp only [Request.check, perform]
  cases Document.ofText r.expression <;> rfl

omit hconfig

/-! ## A check and a query -/

/-- What is said of a request by a check against a dataset, a check on its own and a query, each of them told to be quiet
or not and with an identifier of its own for a report. -/
structure RejectsAlike (files : Files) (config data : String) (c : Config) (s : Store) (r : Request) : Prop where
  /-- All three can be asked for. -/
  asked : ∀ quiet, (r.query config data quiet).CanBeGiven →
    ∀ i ∈ [r.query config data quiet, r.check config (some data) quiet, r.check config none quiet],
      CommandLine.read i.arguments = .ok i
  /-- The check rejects the request exactly when the query does. -/
  rejected_iff : ∀ quiet quiet' id id', ((r.check config (some data) quiet).run files id).code = 2 ↔
    ((r.query config data quiet').run files id').code = 2
  /-- Both then report the same error. -/
  reported : ∀ quiet quiet' id id', ((r.check config (some data) quiet).run files id).code = 2 →
    ∃ code title detail,
      ((r.check config (some data) quiet).run files id).document = errorDocument id code "400" title detail ∧
      ((r.query config data quiet').run files id').document = errorDocument id' code "400" title detail
  /-- Otherwise the check succeeds and tells whether ancestors are wanted. -/
  accepted : ∀ quiet id, ((r.check config (some data) quiet).run files id).code ≠ 2 →
    ∃ d, Document.ofText r.expression = .ok d ∧
      (r.check config (some data) quiet).run files id = ⟨0, .obj [("valid", .bool true), ("tree_view", .bool d.treeView),
        ("warnings", Json.ofTexts (Filter.warnings s d r.space))], ""⟩
  /-- And the query succeeds, unless the walk to the ancestors fails. -/
  shown : ∀ quiet quiet' id id', ((r.check config (some data) quiet).run files id).code ≠ 2 →
    ((r.query config data quiet').run files id').code = 0 ∧ ¬(Engine.ofConfig s c).WalkFails r ∨
      ((r.query config data quiet').run files id').code = 1 ∧ (Engine.ofConfig s c).WalkFails r
  /-- A check that succeeds against a dataset succeeds without it. -/
  alone : ∀ quiet quiet' id id', ((r.check config (some data) quiet).run files id).code = 0 →
    ((r.check config none quiet').run files id').code = 0

section

variable {r : Request}

theorem canBeGiven_check {quiet : Bool} (h : (r.query config data quiet).CanBeGiven) {file : Option String}
    (hfile : ∀ path ∈ file, path = data) : (r.check config file quiet).CanBeGiven := by
  obtain ⟨hconfig, hdata, hfilter, hspace, -⟩ := h
  exact ⟨hconfig, hfilter, fun path hpath => hfile path hpath ▸ hdata, hspace⟩

theorem asked_of_canBeGiven {quiet : Bool} (h : (r.query config data quiet).CanBeGiven) :
    ∀ i ∈ [r.query config data quiet, r.check config (some data) quiet, r.check config none quiet],
      CommandLine.read i.arguments = .ok i := by
  intro i hi
  refine CommandLine.read_arguments ?_
  simp only [List.mem_cons, List.not_mem_nil, or_false] at hi
  rcases hi with rfl | rfl | rfl
  · exact h
  · exact canBeGiven_check h fun path hpath => (Option.some.inj hpath).symm
  · exact canBeGiven_check h nofun

theorem ending_of_isClientError {error : QueryError} (h : error.isClientError = true) (quiet : Bool) (id : String) :
    (ending quiet id (.error error)).code = 2 ∧
      (ending quiet id (.error error)).document = errorDocument id error.code "400" error.title error.clientDetail :=
  ⟨if_pos h, QueryError.toJson_of_isClientError h id⟩

variable (hconfig : loadConfig files config = .ok c) (hdata : loadStore files data = .ok s)
include hconfig hdata

theorem rejectsAlike_of_error {error : QueryError} (h : (Engine.ofConfig s c).accept r = .error error) :
    RejectsAlike files config data c s r := by
  have hending := ending_of_isClientError (Engine.isClientError_of_accept h)
  have hcheck : ∀ quiet id, (r.check config (some data) quiet).run files id = ending quiet id (.error error) := by
    intro quiet id
    rw [run_check hconfig r quiet id hdata, h]
    rfl
  have hquery : ∀ quiet id, (r.query config data quiet).run files id = ending quiet id (.error error) := by
    intro quiet id
    rw [run_query hconfig r quiet id hdata, Engine.search_eq_accept_bind, h]
    rfl
  have hcode : ∀ quiet id, ((r.check config (some data) quiet).run files id).code = 2 := by
    intro quiet id
    rw [hcheck, (hending quiet id).1]
  refine ⟨fun quiet => asked_of_canBeGiven, ?_, ?_, ?_, ?_, ?_⟩
  · intro quiet quiet' id id'
    rw [hcode, hquery, (hending quiet' id').1]
  · intro quiet quiet' id id' _
    refine ⟨error.code, error.title, error.clientDetail, ?_, ?_⟩
    · rw [hcheck, (hending quiet id).2]
    · rw [hquery, (hending quiet' id').2]
  · exact fun quiet id hother => absurd (hcode quiet id) hother
  · exact fun quiet _ id _ hother => absurd (hcode quiet id) hother
  · intro quiet _ id _ hzero
    cases hzero.symm.trans (hcode quiet id)

theorem rejectsAlike_of_ok {d : Document} {k : Compiled} (h : (Engine.ofConfig s c).accept r = .ok (d, k)) :
    RejectsAlike files config data c s r := by
  obtain ⟨hd, -⟩ := Engine.accept_eq_ok_iff.1 h
  have hcheck : ∀ quiet id, (r.check config (some data) quiet).run files id =
      ⟨0, checkDocument d.treeView (Filter.warnings s d r.space), ""⟩ := by
    intro quiet id
    rw [run_check hconfig r quiet id hdata, h]
    rfl
  have hquery : ∀ quiet id, ((r.query config data quiet).run files id).code = 0 ∧ ¬(Engine.ofConfig s c).WalkFails r ∨
      ((r.query config data quiet).run files id).code = 1 ∧ (Engine.ofConfig s c).WalkFails r := by
    intro quiet id
    rw [run_query hconfig r quiet id hdata]
    rcases Engine.search_of_accept h with ⟨⟨result, hresult⟩, hwalk⟩ | ⟨⟨fault, hfault⟩, hwalk⟩
    · exact .inl ⟨by rw [hresult]; rfl, hwalk⟩
    · exact .inr ⟨by rw [hfault]; rfl, hwalk⟩
  refine ⟨fun quiet => asked_of_canBeGiven, ?_, ?_, ?_, fun _ quiet' _ id' _ => hquery quiet' id', ?_⟩
  · intro quiet quiet' id id'
    rw [hcheck]
    refine iff_of_false nofun fun hcode => ?_
    rcases hquery quiet' id' with ⟨hzero, -⟩ | ⟨hone, -⟩
    · cases hzero.symm.trans hcode
    · cases hone.symm.trans hcode
  · intro quiet quiet' id id' hcode
    rw [hcheck] at hcode
    cases hcode
  · exact fun quiet id _ => ⟨d, hd, hcheck quiet id⟩
  · intro quiet quiet' id id' _
    rw [run_check_alone hconfig, hd]
    rfl

/-- **A check and a query reject the same filters**, and with the same error.  Whatever a check accepts is accepted by the
query, which then fails only if the walk to the ancestors does; and it is accepted without the dataset, too. -/
theorem check_rejects_as_query (r : Request) : RejectsAlike files config data c s r := by
  cases h : (Engine.ofConfig s c).accept r with
  | error error => exact rejectsAlike_of_error hconfig hdata h
  | ok accepted => exact rejectsAlike_of_ok hconfig hdata h

end

/-! ## Items in a circle -/

theorem loadStore_of_text {path : String} (h : files path = .text s.toDataset.text) : loadStore files path = .ok s := by
  rw [loadStore, h]
  simp only [Dataset.ofText?_text, Store.ofDataset_toDataset]

/-- A file with items in a circle, and one with a configuration that refuses names without a meaning. -/
def circleFiles : Files
  | "circle.json" => .text Engine.circle.toDataset.text
  | "strict.toml" => .text "[query]\nstrict_keys = true\n"
  | _ => .missing

def requestIn (space : String) : Request :=
  ⟨Engine.workWithAncestors.text .compact, some space, none, some 5⟩

theorem loadConfig_circleFiles : loadConfig circleFiles "strict.toml" = .ok Engine.strictly := by
  decide +kernel

theorem loadStore_circleFiles : loadStore circleFiles "circle.json" = .ok Engine.circle :=
  loadStore_of_text rfl

theorem accept_requestIn (e : Engine) (space : String) :
    e.accept (requestIn space) = (e.compile Engine.workWithAncestors (some space)).map (Engine.workWithAncestors, ·) := by
  have hread : Document.ofText (requestIn space).expression = .ok Engine.workWithAncestors :=
    Document.ofText_text (by decide +kernel) (by decide +kernel) .compact
  rw [Engine.accept, hread]
  rfl

/-- The filter is refused in a space without the group, and in the other the walk to the ancestors fails. -/
theorem check_rejects_as_query_circle :
    loadConfig circleFiles "strict.toml" = .ok Engine.strictly ∧
      loadStore circleFiles "circle.json" = .ok Engine.circle ∧
      (∃ code title detail, (((requestIn "b").query "strict.toml" "circle.json" true).run circleFiles "id").document =
        errorDocument "id" code "400" title detail) ∧
      (((requestIn "a").query "strict.toml" "circle.json" true).run circleFiles "id").code = 1 ∧
      (Engine.ofConfig Engine.circle Engine.strictly).WalkFails (requestIn "a") := by
  have hconfig := loadConfig_circleFiles
  have hdata := loadStore_circleFiles
  have hrejected : (((requestIn "b").check "strict.toml" (some "circle.json") true).run circleFiles "").code = 2 := by
    rw [run_check hconfig _ _ _ hdata, accept_requestIn]
    decide +kernel
  have haccepted : (((requestIn "a").check "strict.toml" (some "circle.json") true).run circleFiles "").code = 0 := by
    rw [run_check hconfig _ _ _ hdata, accept_requestIn]
    decide +kernel
  have hfails : (((requestIn "a").query "strict.toml" "circle.json" true).run circleFiles "id").code ≠ 0 := by
    rw [run_query hconfig _ _ _ hdata, Engine.search_eq_accept_bind, accept_requestIn]
    decide +kernel
  have hb := check_rejects_as_query hconfig hdata (requestIn "b")
  have ha := check_rejects_as_query hconfig hdata (requestIn "a")
  obtain ⟨code, title, detail, -, hreport⟩ := hb.reported true true "" "id" hrejected
  refine ⟨hconfig, hdata, ⟨code, title, detail, hreport⟩, ?_⟩
  rcases ha.shown true true "" "id" (by rw [haccepted]; decide) with ⟨hshown, -⟩ | hwalk
  · exact absurd hshown hfails
  · exact hwalk

end Invocation
end Backlog
