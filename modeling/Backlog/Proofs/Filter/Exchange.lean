import Backlog.Proofs.Filter.Soundness
/-!
# Exchange — one condition in the place of another

A condition may stand anywhere in a filter.  `Node.Exchanged` says that one filter is another with one condition in the
place of another, and what such an exchange does is said by two lemmas.  What matches a condition follows from what
matches its parts, in a given scope, so parts that match the same can be exchanged (`matcher_eq_of_exchanged`).  The scope
is collected from the whole filter, so it is another matter: the spaces that the new part asks for come in the place of
those that the old part asks for (`Exchanged.namedSpaces_eq`).
-/
namespace Backlog
namespace Filter

/-- Two conditions of which the second is the first with `m'` in the place of one `m`. -/
inductive Node.Exchanged (m m' : Node) : Node → Node → Prop
  | here : Exchanged m m' m m'
  | inside {n n' : Node} (connective : Connective) (before after : List Node) (negate : Bool)
    (part : Exchanged m m' n n') :
    Exchanged m m' (.combinator connective (before ++ n :: after) negate)
      (.combinator connective (before ++ n' :: after) negate)

namespace Node

/-! ## The spaces that are asked for -/

theorem comparisonsOfAll_append :
    ∀ ns ns' : List Node, comparisonsOfAll (ns ++ ns') = comparisonsOfAll ns ++ comparisonsOfAll ns'
  | [], _ => rfl
  | n :: ns, ns' => by
    rw [List.cons_append, comparisonsOfAll, comparisonsOfAll, comparisonsOfAll_append ns ns', List.append_assoc]

theorem Exchanged.comparisons_eq {m m' n n' : Node} (h : Exchanged m m' n n') :
    ∃ before after, n.comparisons = before ++ m.comparisons ++ after ∧
      n'.comparisons = before ++ m'.comparisons ++ after := by
  induction h with
  | here => exact ⟨[], [], by rw [List.nil_append, List.append_nil], by rw [List.nil_append, List.append_nil]⟩
  | inside connective before after negate _ ih =>
    -- the comparisons of the siblings go to the outside of those that stand around the part already
    obtain ⟨inner, outer, hn, hn'⟩ := ih
    refine ⟨comparisonsOfAll before ++ inner, outer ++ comparisonsOfAll after, ?_, ?_⟩
    · rw [comparisons, comparisonsOfAll_append, comparisonsOfAll, hn]
      simp only [List.append_assoc]
    · rw [comparisons, comparisonsOfAll_append, comparisonsOfAll, hn']
      simp only [List.append_assoc]

end Node

/-- **The spaces that an exchanged part asks for** come in the place of those that it was exchanged for. -/
theorem Node.Exchanged.namedSpaces_eq {m m' : Node} {d d' : Document} (h : Exchanged m m' d.root d'.root)
    (request : Option String) :
    ∃ before after, d.namedSpaces request = before ++ m.comparisons.flatMap Comparison.requestedSpaces ++ after ∧
      d'.namedSpaces request = before ++ m'.comparisons.flatMap Comparison.requestedSpaces ++ after := by
  obtain ⟨before, after, hd, hd'⟩ := h.comparisons_eq
  refine ⟨request.toList ++ before.flatMap Comparison.requestedSpaces, after.flatMap Comparison.requestedSpaces, ?_, ?_⟩
  · rw [Document.namedSpaces, hd, List.flatMap_append, List.flatMap_append]
    simp only [List.append_assoc]
  · rw [Document.namedSpaces, hd', List.flatMap_append, List.flatMap_append]
    simp only [List.append_assoc]

/-- Whether the values of a comparison are compared as they are, and not as names of something else. -/
def Comparison.isDirect (c : Comparison) : Bool :=
  match Key.ofName? c.field with
  | none | some .label | some .iterationName | some .labelName | some .typeGroupName => false
  | some _ => true

namespace Resolver

/-! ## What matches -/

variable {r : Resolver} {scope : Scope}

def matcher (r : Resolver) (scope : Scope) (n : Node) : Except QueryError (WorkItem → Bool) :=
  (r.nodePredicate scope n).map Predicate.isMatch

def joinedMatchers (negate : Bool) : Connective → List (WorkItem → Bool) → WorkItem → Bool
  | .and, accepts, item => negate != accepts.all (· item)
  | .or, accepts, item => negate != accepts.any (· item)

theorem nodePredicates_eq_mapM (ns : List Node) : r.nodePredicates scope ns = ns.mapM (r.nodePredicate scope) := by
  induction ns with
  | nil => rw [nodePredicates, List.mapM_nil]
  | cons n ns ih => rw [nodePredicates, List.mapM_cons, ih]

theorem isMatch_joined (connective : Connective) (negate : Bool) (ps : List Predicate) :
    ((joined connective ps).negateIf negate).isMatch =
      joinedMatchers negate connective (ps.map Predicate.isMatch) := by
  funext item
  rw [Predicate.isMatch_negateIf]
  cases connective with
  | and =>
    rw [joined, joinedMatchers, Predicate.isMatch_and, List.all_map]
    rfl
  | or =>
    rw [joined, joinedMatchers, Predicate.isMatch_or, List.any_map]
    rfl

/-- **What matches joined conditions** follows from what matches each of them. -/
theorem matcher_combinator (connective : Connective) (ns : List Node) (negate : Bool) :
    r.matcher scope (.combinator connective ns negate) =
      (ns.mapM (r.matcher scope)).map (joinedMatchers negate connective) := by
  have heach : ns.mapM (r.matcher scope) = (r.nodePredicates scope ns).map (List.map Predicate.isMatch) := by
    rw [nodePredicates_eq_mapM]
    exact Outcome.mapM_map_result Predicate.isMatch ns
  rw [heach, matcher, nodePredicate]
  cases r.nodePredicates scope ns with
  | error e => rfl
  | ok ps => exact congrArg Except.ok (isMatch_joined connective negate ps)

/-- **Parts that match the same can be exchanged**, and parts that are refused for the same reason. -/
theorem matcher_eq_of_exchanged {m m' n n' : Node} (h : Node.Exchanged m m' n n')
    (hparts : r.matcher scope m = r.matcher scope m') : r.matcher scope n = r.matcher scope n' := by
  induction h with
  | here => exact hparts
  | inside connective before after negate _ ih =>
    rw [matcher_combinator, matcher_combinator, List.mapM_append, List.mapM_append, List.mapM_cons, List.mapM_cons, ih]

/-! ## Negation -/

theorem resolvedPredicate_negate (c : Comparison) (negate : Bool) (s : Resolution) :
    r.resolvedPredicate scope { c with negate } s = r.resolvedPredicate scope c s := by
  cases s <;> rfl

theorem comparisonPredicate_negated {c : Comparison} (hplain : c.negate = false) (hvalue : c.value ≠ .null) :
    r.comparisonPredicate scope { c with negate := true } = (r.comparisonPredicate scope c).map .not := by
  unfold comparisonPredicate
  simp only [hplain, hvalue, resolvedPredicate_negate, decide_false, Bool.and_false]
  cases r.resolution scope c.field with
  | error e => rfl
  | ok s =>
    show (r.resolvedPredicate scope c s >>= fun p => pure _) = Except.map _ (r.resolvedPredicate scope c s >>= fun p => pure _)
    cases r.resolvedPredicate scope c s <;> rfl

/-- **Negating a comparison** and negating a combinator that joins nothing else is the same to what matches. -/
theorem matcher_negated {c : Comparison} (hplain : c.negate = false) (hvalue : c.value ≠ .null)
    (connective : Connective) :
    r.matcher scope (Node.comparison c).negated =
      r.matcher scope (Node.combinator connective [.comparison c] false).negated := by
  rw [Node.negated, Node.negated, matcher_combinator, List.mapM_cons, List.mapM_nil, matcher, matcher, nodePredicate,
    nodePredicate, comparisonPredicate_negated hplain hvalue]
  cases r.comparisonPredicate scope c with
  | error e => rfl
  | ok p =>
    refine congrArg Except.ok (funext fun item => ?_)
    rw [Predicate.isMatch_not]
    cases connective with
    | and => simp [joinedMatchers]
    | or => simp [joinedMatchers]

/-! ## Conditions without names -/

theorem comparisonPredicate_eq_of_isDirect {c : Comparison} (h : c.isDirect = true) (scope scope' : Scope) :
    r.comparisonPredicate scope c = r.comparisonPredicate scope' c := by
  unfold Comparison.isDirect at h
  unfold comparisonPredicate resolution
  cases hkey : Key.ofName? c.field with
  | none =>
    rw [hkey] at h
    cases h
  | some key =>
    rw [hkey] at h
    cases key <;> first | rfl | cases h

/-- **A condition without names** means the same in every scope. -/
theorem nodePredicate_eq_of_isDirect {n : Node} (h : ∀ c ∈ n.comparisons, c.isDirect = true) (scope scope' : Scope) :
    r.nodePredicate scope n = r.nodePredicate scope' n :=
  nodePredicate_congr n fun c hc => comparisonPredicate_eq_of_isDirect (h c hc) scope scope'

end Resolver

/-! ## The scope of an exchange -/

/-- **Exchanging a negated comparison for a negated combinator** leaves the scope of a filter as it is exactly if the
spaces that the plain comparison asks for are in it anyway. -/
theorem scope_eq_iff_of_exchanged {c : Comparison} {connective : Connective} {d d' : Document}
    (h : Node.Exchanged (Node.comparison c).negated (Node.combinator connective [.comparison c] false).negated d.root
      d'.root) (request : Option String) :
    d'.scope request = d.scope request ↔
      ∀ v ∈ c.requestedSpaces, (d.scope request).spaces.contains (Conversion.identifier v) = true := by
  obtain ⟨before, after, hd, hd'⟩ := h.namedSpaces_eq request
  have hnone : (Node.comparison c).negated.comparisons.flatMap Comparison.requestedSpaces = [] := by
    simp [Node.negated, Node.comparisons, Comparison.requestedSpaces]
  have hall : (Node.combinator connective [.comparison c] false).negated.comparisons.flatMap
      Comparison.requestedSpaces = c.requestedSpaces := by
    simp [Node.negated, Node.comparisons, Node.comparisonsOfAll]
  rw [hnone, List.append_nil] at hd
  rw [hall] at hd'
  rw [Document.scope_eq_ofList, Document.scope_eq_ofList, hd, hd', Scope.ofList_eq_iff]
  simp only [Scope.contains_spaces_ofList, List.map_append, List.mem_append]
  constructor
  · intro hsame v hv
    exact (hsame _).1 (.inl (.inr (List.mem_map_of_mem hv)))
  · intro hin space
    refine ⟨?_, Or.imp_left .inl⟩
    rintro ((hbefore | hasked) | hafter)
    · exact .inl hbefore
    · obtain ⟨v, hv, rfl⟩ := List.mem_map.1 hasked
      exact hin v hv
    · exact .inr hafter

end Filter
end Backlog
