import Backlog.Proofs.Filter.Memoryless
import Backlog.Proofs.Outcome
/-!
# Scope — the spaces that a request is about

The scope in which a filter is compiled follows from the filter, the space of its request and the conversion of values;
no store has a part in it (`Document.scopeUnder`).  Compilation finds the scope first and then compiles the condition in
it, so it is one computation after the other (`Resolver.compile_eq_bind`): whatever is known of scopes and of conditions
each for itself is known of compiled filters.
-/
namespace Backlog
namespace Filter

theorem Scope.ofList_cons (space : String) (spaces : List String) :
    ofList (space :: spaces) = (ofList spaces).insert space := by
  refine congrArg Scope.mk (StringSet.ext_contains fun k => ?_)
  rw [ofList, StringSet.contains_insert, StringSet.contains_ofList, StringSet.contains_ofList, List.contains_cons,
    Bool.beq_comm]

theorem Scope.contains_spaces_ofList {spaces : List String} {space : String} :
    (ofList spaces).spaces.contains space = true ↔ space ∈ spaces := by
  rw [ofList, StringSet.contains_ofList, List.contains_iff_mem]

theorem Scope.ofList_eq_iff {spaces spaces' : List String} :
    ofList spaces = ofList spaces' ↔ ∀ space, space ∈ spaces ↔ space ∈ spaces' := by
  constructor
  · intro h space
    rw [← contains_spaces_ofList, h, contains_spaces_ofList]
  · intro h
    refine congrArg mk (StringSet.ext_contains fun space => ?_)
    rw [Bool.eq_iff_iff, StringSet.contains_ofList, StringSet.contains_ofList, List.contains_iff_mem,
      List.contains_iff_mem, h]

theorem Comparison.requestedSpaces_of_ne_space {c : Comparison} (h : c.field ≠ Key.space.name) :
    c.requestedSpaces = [] := by
  rw [requestedSpaces, bne_iff_ne.2 h]
  rfl

theorem Node.requestedSpaces_comparison {c : Comparison} (h : c.field ≠ Key.space.name) :
    (comparison c).comparisons.flatMap Comparison.requestedSpaces = [] :=
  (List.flatMap_singleton _ c).trans (Comparison.requestedSpaces_of_ne_space h)

namespace Document

/-- The values under which a request names spaces: the one that it is confined to, and those that comparisons of its
filter ask for. -/
def namedSpaces (d : Document) (request : Option String) : List String :=
  request.toList ++ d.root.comparisons.flatMap Comparison.requestedSpaces

def scopeUnder (d : Document) (convert : Converter) (request : Option String) : Except QueryError Scope :=
  ((d.namedSpaces request).mapM (convert Key.space.name .identifier)).map .ofList

end Document

namespace Resolver

variable {r : Resolver} {d : Document}

theorem scopeUnder_none : d.scopeUnder r.convert none = r.collectScope d.root := by
  rw [Document.scopeUnder, Document.namedSpaces, Option.toList_none, List.nil_append, collectScope]
  show Except.map _ (List.mapM r.convertSpace _) = _
  cases (d.root.comparisons.flatMap Comparison.requestedSpaces).mapM r.convertSpace <;> rfl

theorem scopeUnder_some (raw : String) :
    d.scopeUnder r.convert (some raw) =
      r.convertSpace raw >>= fun space => r.collectScope d.root >>= fun named => .ok (named.insert space) := by
  rw [Document.scopeUnder, Document.namedSpaces, Option.toList_some, List.singleton_append, List.mapM_cons, collectScope]
  show Except.map _ (r.convertSpace raw >>= fun space => List.mapM r.convertSpace _ >>= _) = _
  cases r.convertSpace raw with
  | error e => rfl
  | ok space =>
    cases (d.root.comparisons.flatMap Comparison.requestedSpaces).mapM r.convertSpace with
    | error e => rfl
    | ok spaces => exact congrArg Except.ok (Scope.ofList_cons space spaces)

def confine (r : Resolver) (request : Option String) (p : Predicate) : Predicate :=
  match request.map r.convertSpace with
  | some (.ok space) => .and [.leaf ⟨.space, .eq space⟩, p]
  | _ => p

theorem confine_some {raw space : String} (h : r.convertSpace raw = .ok space) (p : Predicate) :
    r.confine (some raw) p = .and [.leaf ⟨.space, .eq space⟩, p] := by
  rw [confine, Option.map_some, h]

/-- **Compilation** finds the scope and then compiles the condition in it. -/
theorem compile_eq_bind (r : Resolver) (d : Document) (request : Option String) :
    r.compile d request = d.scopeUnder r.convert request >>= fun scope =>
      (r.nodePredicate scope d.root).map fun p => ⟨r.confine request p, scope, d.treeView⟩ := by
  rw [compile_eq_documentCompiled]
  unfold documentCompiled
  cases request with
  | none =>
    rw [scopeUnder_none]
    exact bind_congr fun scope => Outcome.bind_pure_eq_map _ _
  | some raw =>
    rw [scopeUnder_some]
    dsimp only
    cases hraw : r.convertSpace raw with
    | error e => rfl
    | ok space =>
      cases r.collectScope d.root with
      | error e => rfl
      | ok named =>
        simp only [confine_some hraw]
        exact Outcome.bind_pure_eq_map (r.nodePredicate (named.insert space) d.root) _

theorem scope_of_compile {request : Option String} {k : Compiled} (h : r.compile d request = .ok k) :
    d.scopeUnder r.convert request = .ok k.scope := by
  rw [compile_eq_bind] at h
  obtain ⟨scope, hscope, h⟩ := Outcome.bind_eq_ok.1 h
  obtain ⟨p, -, rfl⟩ := Outcome.map_eq_ok.1 h
  exact hscope

end Resolver
end Filter
end Backlog
