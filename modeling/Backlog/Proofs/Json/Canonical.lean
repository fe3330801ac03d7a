import Backlog.Json.Embedding
import Backlog.Proofs.Json.RoundTrip
/-!
# Canonical — what reading a text does to a value beside reading it

Two things happen to a value after its text is read.  Embedded texts are replaced by the values they stand for, which
changes nothing in a value without any (`expand?_eq_some`), and members are sorted by their names.  Where no name occurs
twice, sorting only changes the order (`perm_sortMembers`), and what is looked up by name does not depend on the order
(`lookup_eq_of_perm`).
-/
namespace Backlog
namespace Json

/-! ## The order of members -/

theorem perm_insertMember {name : String} (v : Json) :
    ∀ {ms : List (String × Json)}, name ∉ ms.map Prod.fst → (insertMember name v ms).Perm ((name, v) :: ms)
  | [], _ => .refl _
  | (n, w) :: ms, h => by
    obtain ⟨hn, hms⟩ := not_or.1 (fun he => h (List.mem_cons.2 he))
    rw [insertMember]
    split
    · exact .refl _
    · exact ((perm_insertMember v hms).cons _).trans (.swap _ _ _)

theorem perm_foldl_insertMember :
    ∀ ms sorted : List (String × Json), ((sorted ++ ms).map Prod.fst).Nodup →
      (ms.foldl (fun sorted (n, v) => insertMember n v sorted) sorted).Perm (sorted ++ ms)
  | [], sorted, _ => by simp
  | (n, v) :: ms, sorted, hd => by
    have hn : n ∉ sorted.map Prod.fst := fun h => by
      rw [List.map_append, List.nodup_append] at hd
      exact hd.2.2 n h n List.mem_cons_self rfl
    have hp : (insertMember n v sorted ++ ms).Perm (sorted ++ (n, v) :: ms) :=
      ((perm_insertMember v hn).append_right ms).trans List.perm_middle.symm
    exact (perm_foldl_insertMember ms _ ((hp.map Prod.fst).nodup_iff.2 hd)).trans hp

/-- **Sorting members** whose names are distinct only changes their order. -/
theorem perm_sortMembers {ms : List (String × Json)} (h : (ms.map Prod.fst).Nodup) : (sortMembers ms).Perm ms :=
  perm_foldl_insertMember ms [] h

theorem lookup_eq_of_perm {k : String} {ms ns : List (String × Json)} (hp : ms.Perm ns) :
    (ms.map Prod.fst).Nodup → ms.lookup k = ns.lookup k := by
  induction hp with
  | nil => exact fun _ => rfl
  | cons m _ ih =>
    intro hd
    rw [List.lookup_cons, List.lookup_cons, ih (List.nodup_cons.1 hd).2]
  | swap m n ms =>
    intro hd
    have hne : n.1 ≠ m.1 := fun he => (List.nodup_cons.1 hd).1 (he ▸ List.mem_cons_self)
    rw [List.lookup_cons, List.lookup_cons, List.lookup_cons, List.lookup_cons]
    by_cases hm : k = m.1
    · have hn : (k == n.1) = false := beq_eq_false_iff_ne.2 fun hn => hne (hn.symm.trans hm)
      rw [hn]
    · rw [beq_eq_false_iff_ne.2 hm]
  | trans hp _ ih ih' =>
    intro hd
    exact (ih hd).trans (ih' ((hp.map Prod.fst).nodup_iff.1 hd))

/-! ## Embedded texts -/

mutual

def isPlain : Json → Bool
  | .arr items => arePlain items
  | .obj members => !isEmbedding members && arePlainMembers members
  | .null => true
  | .bool _ => true
  | .num _ => true
  | .str _ => true

def arePlain : List Json → Bool
  | [] => true
  | v :: vs => isPlain v && arePlain vs

def arePlainMembers : List (String × Json) → Bool
  | [] => true
  | (_, v) :: ms => isPlain v && arePlainMembers ms

end

mutual

/-- **A value without embedded texts** stands for itself. -/
theorem expand?_eq_some (read : String → Option Json) : ∀ v : Json, v.isPlain = true → expand? read v = some v
  | .arr items, h => by
    rw [expand?, expandItems?_eq_some read items h]
    rfl
  | .obj members, h => by
    obtain ⟨hembedding, hmembers⟩ := Bool.and_eq_true_iff.1 h
    rw [Bool.not_eq_true'] at hembedding
    rw [expand?, hembedding, if_neg Bool.false_ne_true, expandMembers?_eq_some read members hmembers]
    rfl
  | .null, _ => rfl
  | .bool _, _ => rfl
  | .num _, _ => rfl
  | .str _, _ => rfl

theorem expandItems?_eq_some (read : String → Option Json) :
    ∀ vs : List Json, arePlain vs = true → expandItems? read vs = some vs
  | [], _ => rfl
  | v :: vs, h => by
    obtain ⟨hv, hvs⟩ := Bool.and_eq_true_iff.1 h
    rw [expandItems?, expand?_eq_some read v hv, expandItems?_eq_some read vs hvs]
    rfl

theorem expandMembers?_eq_some (read : String → Option Json) :
    ∀ ms : List (String × Json), arePlainMembers ms = true → expandMembers? read ms = some ms
  | [], _ => rfl
  | (n, v) :: ms, h => by
    obtain ⟨hv, hms⟩ := Bool.and_eq_true_iff.1 h
    rw [expandMembers?, expand?_eq_some read v hv, expandMembers?_eq_some read ms hms]
    rfl

end

/-- **The text of a plain value** reads back as a text that may hold others. -/
theorem readEmbedded?_render (layout : Layout) {v : Json} (h : v.isNatural = true) (hdepth : v.depth ≤ maxDepth)
    (hplain : v.isPlain = true) : readEmbedded? (String.ofList (v.render layout)) = some v := by
  rw [readEmbedded?, readLevels?, read?_render layout h hdepth, Option.bind_some, expand?_eq_some _ v hplain]

end Json
end Backlog
