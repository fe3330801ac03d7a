import Backlog.Proofs.Filter.Spelling
import Mathlib.Data.List.Nodup
/-!
# Undeclared — one warning for each reference that is not declared

Warnings are told apart by their texts, and no text says two things: warnings about different references are different
(`Reference.warning_injective`), so that nothing is hidden by leaving out texts that were there before
(`eraseDups_map`).  What is left is the list of the references that are not declared, each once, in the order in which
they occur first (`Catalog.warns_about_each`).

References occur in the request first and then in the comparisons.  The place of a comparison is the way to it through
the conditions around it, and comparisons are visited in ascending order of their places (`pairwise_places`), none of
them left out (`mem_places`).
-/
namespace Backlog
namespace Filter

/-! ## The places of comparisons -/

namespace Node

/-- The comparison at a place: the numbers of the children that lead to it, the outermost first. -/
def comparisonAt? : List Nat → Node → Option Comparison
  | [], comparison c => some c
  | i :: place, combinator _ children _ => children[i]?.bind (comparisonAt? place)
  | _, _ => none

mutual

def places : Node → List (List Nat)
  | comparison _ => [[]]
  | combinator _ children _ => placesFrom 0 children

/-- The places of the comparisons of several children, of which the first has the number `i`. -/
def placesFrom (i : Nat) : List Node → List (List Nat)
  | [] => []
  | n :: ns => (places n).map (i :: ·) ++ placesFrom (i + 1) ns

end

mutual

theorem map_comparisonAt?_places :
    ∀ n : Node, (n.places.map fun place => comparisonAt? place n) = n.comparisons.map some
  | comparison c => by
    rw [places, comparisons]
    rfl
  | combinator connective children negate => by
    rw [places, comparisons]
    exact map_comparisonAt?_placesFrom connective negate [] children

theorem map_comparisonAt?_placesFrom (connective : Connective) (negate : Bool) :
    ∀ before ns : List Node,
      ((placesFrom before.length ns).map fun place =>
        comparisonAt? place (combinator connective (before ++ ns) negate)) = (comparisonsOfAll ns).map some
  | before, [] => by
    rw [placesFrom, comparisonsOfAll]
    rfl
  | before, n :: ns => by
    have hn : ∀ place, comparisonAt? (before.length :: place) (combinator connective (before ++ n :: ns) negate) =
        comparisonAt? place n := fun place => by
      rw [comparisonAt?, List.getElem?_append_right (Nat.le_refl _), Nat.sub_self]
      rfl
    have hns := map_comparisonAt?_placesFrom connective negate (before ++ [n]) ns
    rw [List.length_append, List.length_singleton, List.append_assoc, List.singleton_append] at hns
    rw [placesFrom, comparisonsOfAll, List.map_append, List.map_append, hns, List.map_map,
      ← map_comparisonAt?_places n]
    exact congrArg (· ++ _) (List.map_congr_left fun place _ => hn place)

end

theorem exists_cons_of_mem_placesFrom {place : List Nat} :
    ∀ {ns : List Node} {i : Nat}, place ∈ placesFrom i ns → ∃ j rest, place = j :: rest ∧ i ≤ j
  | [], _, h => by
    rw [placesFrom] at h
    cases h
  | n :: ns, i, h => by
    rw [placesFrom, List.mem_append, List.mem_map] at h
    rcases h with ⟨rest, -, rfl⟩ | h
    · exact ⟨i, rest, rfl, Nat.le_refl i⟩
    · obtain ⟨j, rest, hplace, hij⟩ := exists_cons_of_mem_placesFrom h
      exact ⟨j, rest, hplace, Nat.le_of_succ_le hij⟩

mutual

/-- **Comparisons are visited** in ascending order of their places. -/
theorem pairwise_places : ∀ n : Node, n.places.Pairwise (· < ·)
  | comparison c => by
    rw [places]
    exact List.pairwise_singleton _ _
  | combinator _ children _ => by
    rw [places]
    exact pairwise_placesFrom 0 children

theorem pairwise_placesFrom (i : Nat) : ∀ ns : List Node, (placesFrom i ns).Pairwise (· < ·)
  | [] => by
    rw [placesFrom]
    exact List.Pairwise.nil
  | n :: ns => by
    rw [placesFrom, List.pairwise_append]
    refine ⟨?_, pairwise_placesFrom (i + 1) ns, ?_⟩
    · refine (pairwise_places n).map _ fun a b hab => ?_
      exact List.cons_lt_cons_iff.2 (.inr ⟨rfl, hab⟩)
    · -- the places in the first child start with its number, and those in later ones with a larger number
      intro place hplace later hlater
      obtain ⟨rest, -, rfl⟩ := List.mem_map.1 hplace
      obtain ⟨j, rest', rfl, hij⟩ := exists_cons_of_mem_placesFrom hlater
      exact List.cons_lt_cons_iff.2 (.inl hij)

end

theorem mem_placesFrom {place : List Nat} {n : Node} :
    ∀ {ns : List Node} {i j : Nat}, ns[j]? = some n → place ∈ n.places → (i + j) :: place ∈ placesFrom i ns
  | [], _, _, h, _ => by cases h
  | m :: ns, i, 0, h, hplace => by
    cases h
    rw [placesFrom, Nat.add_zero]
    exact List.mem_append_left _ (List.mem_map_of_mem hplace)
  | m :: ns, i, j + 1, h, hplace => by
    rw [placesFrom, ← Nat.add_assoc, Nat.add_right_comm]
    exact List.mem_append_right _ (mem_placesFrom h hplace)

theorem mem_places {c : Comparison} :
    ∀ {place : List Nat} {n : Node}, comparisonAt? place n = some c → place ∈ n.places
  | [], comparison _, _ => by
    rw [places]
    exact List.mem_singleton_self _
  | i :: place, combinator _ children _, h => by
    obtain ⟨n, hchild, hn⟩ := Option.bind_eq_some_iff.1 h
    have hmem := mem_placesFrom (i := 0) hchild (mem_places hn)
    rw [Nat.zero_add] at hmem
    rwa [places]
  | [], combinator .., h => by cases h
  | _ :: _, comparison _, h => by cases h

theorem mem_places_iff {place : List Nat} {n : Node} : place ∈ n.places ↔ ∃ c, comparisonAt? place n = some c := by
  constructor
  · intro h
    have hmem : comparisonAt? place n ∈ n.comparisons.map some := by
      rw [← map_comparisonAt?_places]
      exact List.mem_map_of_mem h
    obtain ⟨c, -, hc⟩ := List.mem_map.1 hmem
    exact ⟨c, hc.symm⟩
  · rintro ⟨c, h⟩
    exact mem_places h

theorem mem_comparisons_iff {c : Comparison} {n : Node} :
    c ∈ n.comparisons ↔ ∃ place, comparisonAt? place n = some c := by
  have hmem : c ∈ n.comparisons ↔ some c ∈ n.comparisons.map some := by simp
  rw [hmem, ← map_comparisonAt?_places, List.mem_map]
  exact ⟨fun ⟨place, _, h⟩ => ⟨place, h⟩, fun ⟨place, h⟩ => ⟨place, mem_places h, h⟩⟩

theorem flatMap_comparisons {α : Type} (f : Comparison → List α) (n : Node) :
    n.comparisons.flatMap f = n.places.flatMap fun place => (comparisonAt? place n).elim [] f := by
  have hsome : n.comparisons.flatMap f = (n.comparisons.map some).flatMap fun c => c.elim [] f := by
    rw [List.flatMap_map]
    rfl
  rw [hsome, ← map_comparisonAt?_places, List.flatMap_map]

end Node

/-! ## What is referred to -/

/-- What a comparison refers to: the texts of its value, as spaces or as types by its field, unless it compares parts of
texts. -/
inductive Comparison.RefersTo (c : Comparison) : Reference → Prop
  | space {id : String} (hwhole : c.operator ≠ .substr) (hfield : c.field = "space") (hid : id ∈ c.value.allTexts) :
    RefersTo c (.space id)
  | type {id : String} (hwhole : c.operator ≠ .substr) (hfield : c.field = "type" ∨ c.field = "workitemtype")
    (hid : id ∈ c.value.allTexts) : RefersTo c (.type id)

theorem Comparison.mem_references_iff {c : Comparison} {ref : Reference} : ref ∈ c.references ↔ c.RefersTo ref := by
  have hspace : Key.ofName? c.field = some .space ↔ "space" = c.field := Key.ofName?_eq_some_iff
  have htype : Key.ofName? c.field = some .type ↔ "type" = c.field := Key.ofName?_eq_some_iff
  have hworkItemType : Key.ofName? c.field = some .workItemType ↔ "workitemtype" = c.field := Key.ofName?_eq_some_iff
  constructor
  · intro h
    unfold references at h
    split at h
    · cases h
    · next hwhole =>
      split at h
      · next hkey =>
        obtain ⟨id, hid, rfl⟩ := List.mem_map.1 h
        exact .space hwhole (hspace.1 hkey).symm hid
      · next hkey =>
        obtain ⟨id, hid, rfl⟩ := List.mem_map.1 h
        exact .type hwhole (.inl (htype.1 hkey).symm) hid
      · next hkey =>
        obtain ⟨id, hid, rfl⟩ := List.mem_map.1 h
        exact .type hwhole (.inr (hworkItemType.1 hkey).symm) hid
      · cases h
  · intro h
    cases h with
    | space hwhole hfield hid =>
      rw [references, if_neg hwhole, hspace.2 hfield.symm]
      exact List.mem_map_of_mem hid
    | type hwhole hfield hid =>
      rw [references, if_neg hwhole]
      rcases hfield with hfield | hfield
      · rw [htype.2 hfield.symm]
        exact List.mem_map_of_mem hid
      · rw [hworkItemType.2 hfield.symm]
        exact List.mem_map_of_mem hid

/-- Whether a request refers to something, with its space or in a comparison at some place of its filter. -/
def Document.RefersTo (d : Document) (request : Option String) (ref : Reference) : Prop :=
  (∃ id ∈ request, ref = .space id) ∨ ∃ place c, d.root.comparisonAt? place = some c ∧ c.RefersTo ref

theorem Document.mem_references_iff {d : Document} {request : Option String} {ref : Reference} :
    ref ∈ d.references request ↔ d.RefersTo request ref := by
  rw [references, List.mem_append, List.mem_flatMap, RefersTo]
  refine or_congr ?_ ?_
  · simp [eq_comm]
  · simp only [Node.mem_comparisons_iff, Comparison.mem_references_iff]
    exact ⟨fun ⟨c, ⟨place, h⟩, href⟩ => ⟨place, c, h, href⟩, fun ⟨place, c, h, href⟩ => ⟨c, ⟨place, h⟩, href⟩⟩

namespace Catalog

/-- What a catalog lacks: a space, or a type in the space of the request if there is one, that it does not declare
though it declares others. -/
def Lacks (c : Catalog) (request : Option String) : Reference → Prop
  | .space id => c.spaces ≠ [] ∧ ∀ s ∈ c.spaces, s.id ≠ id
  | .type id => c.types ≠ [] ∧ ∀ t ∈ c.types, t.id = id → ∃ space ∈ request, space ≠ t.space

theorem allows_eq_false_iff {c : Catalog} {request : Option String} {ref : Reference} :
    c.allows request ref = false ↔ c.Lacks request ref := by
  cases ref with
  | space id => simp [allows, Lacks]
  | type id => cases request <;> simp [allows, Lacks]

end Catalog

/-! ## Each once -/

section

variable {α β : Type} [DecidableEq α] [DecidableEq β]

theorem nodup_eraseDups : ∀ l : List α, l.eraseDups.Nodup
  | [] => List.nodup_nil
  | a :: l => by
    rw [List.eraseDups_cons, List.nodup_cons, List.mem_eraseDups]
    exact ⟨by simp, nodup_eraseDups _⟩
termination_by l => l.length
decreasing_by exact Nat.lt_succ_of_le (List.length_filter_le _ _)

/-- **Repetitions show in what is said** exactly where they show in what it is said about. -/
theorem eraseDups_map {f : α → β} (hf : Function.Injective f) : ∀ l : List α, (l.map f).eraseDups = l.eraseDups.map f
  | [] => rfl
  | a :: l => by
    have hrest : (l.map f).filter (fun b => !b == f a) = (l.filter fun b => !b == a).map f := by
      rw [List.filter_map]
      refine congrArg (List.map f) (List.filter_congr fun b _ => ?_)
      simp [hf.eq_iff]
    rw [List.map_cons, List.eraseDups_cons, List.eraseDups_cons, List.map_cons, hrest, eraseDups_map hf]
termination_by l => l.length
decreasing_by exact Nat.lt_succ_of_le (List.length_filter_le _ _)

theorem pairwise_idxOf_eraseDups :
    ∀ (l : List α) (p : α → Bool), (l.filter p).eraseDups.Pairwise fun a b => l.idxOf a < l.idxOf b
  | [], p => List.Pairwise.nil
  | a :: l, p => by
    -- what differs from the first element stands one further from the start than without it
    have hshift : ∀ q : α → Bool, q a = false →
        (l.filter q).eraseDups.Pairwise fun b c => (a :: l).idxOf b < (a :: l).idxOf c := by
      intro q hq
      have hne : ∀ b ∈ (l.filter q).eraseDups, a ≠ b := by
        rintro b hb rfl
        rw [List.mem_eraseDups, List.mem_filter, hq] at hb
        cases hb.2
      refine (pairwise_idxOf_eraseDups l q).imp_of_mem fun {b c} hb hc hbc => ?_
      rw [List.idxOf_cons_ne l (hne b hb), List.idxOf_cons_ne l (hne c hc)]
      exact Nat.succ_lt_succ hbc
    cases hp : p a with
    | false =>
      rw [List.filter_cons_of_neg (by simp [hp])]
      exact hshift p hp
    | true =>
      rw [List.filter_cons_of_pos hp, List.eraseDups_cons, List.filter_filter, List.pairwise_cons]
      refine ⟨fun b hb => ?_, hshift _ (by simp)⟩
      rw [List.mem_eraseDups, List.mem_filter] at hb
      have hne : a ≠ b := by
        rintro rfl
        simp at hb
      rw [List.idxOf_cons_self, List.idxOf_cons_ne l hne]
      exact Nat.succ_pos _

end

/-! ## The warnings -/

/-- What is said of the warnings about a request: that they are about these references. -/
structure Catalog.WarnsAbout (c : Catalog) (d : Document) (request : Option String) (refs : List Reference) : Prop where
  /-- There is one warning for each of them, in their order, -/
  warnings_eq : c.warnings d request = refs.map (Reference.warning request)
  /-- and no warning is repeated. -/
  nodup_warnings : (c.warnings d request).Nodup
  /-- None of the references is repeated, -/
  nodup : refs.Nodup
  /-- and they are all that the request refers to and the catalog lacks. -/
  mem_iff : ∀ ref, ref ∈ refs ↔ d.RefersTo request ref ∧ c.Lacks request ref
  /-- They stand in the order in which they occur first. -/
  ordered : refs.Pairwise fun a b => (d.references request).idxOf a < (d.references request).idxOf b
  /-- References occur in the request first, and then in the comparisons in the order of their places, where they are
  the texts of a value from left to right. -/
  occurrences : ∃ places : List (List Nat), places.Pairwise (· < ·) ∧
    (∀ place, place ∈ places ↔ ∃ comparison, d.root.comparisonAt? place = some comparison) ∧
      d.references request = request.toList.map .space ++
        places.flatMap fun place => (d.root.comparisonAt? place).elim [] Comparison.references

/-- **There is one warning about each reference** that is not declared, and no other. -/
theorem Catalog.warns_about_each (c : Catalog) (d : Document) (request : Option String) :
    ∃ refs, c.WarnsAbout d request refs := by
  refine ⟨(c.undeclared d request).eraseDups, ?_, ?_, nodup_eraseDups _, fun ref => ?_, ?_, ?_⟩
  · exact eraseDups_map (Reference.warning_injective request) _
  · exact nodup_eraseDups _
  · rw [List.mem_eraseDups, undeclared, List.mem_filter, Document.mem_references_iff, Bool.not_eq_true',
      allows_eq_false_iff]
  · exact pairwise_idxOf_eraseDups _ _
  · refine ⟨d.root.places, Node.pairwise_places _, fun place => Node.mem_places_iff, ?_⟩
    rw [Document.references, Node.flatMap_comparisons]

/-- A text that looks like the end of a warning hides nothing, and what is named twice is warned about once. -/
example :
    (Catalog.mk [⟨"a", "A"⟩] []).warnings
      ⟨.combinator .or [.comparison ⟨"space", .ne, .text "c' is not declared in the dataset", true⟩,
        .comparison ⟨"space", .isIn, .texts ["b", "a", "c"], false⟩, .comparison ⟨"type", .eq, .text "c", false⟩] true,
        false⟩ (some "c") =
      ["Space 'c' is not declared in the dataset",
        "Space 'c' is not declared in the dataset' is not declared in the dataset",
        "Space 'b' is not declared in the dataset"] := by
  decide +kernel

end Filter
end Backlog
