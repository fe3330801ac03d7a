import Backlog.Store
/-!
# Order — the order in which matches are found

Search results stand in the order of creation, and items that were created at the same moment in the order of their
identifiers.  On items with different identifiers that order is strict and total, so a set of stored items can be listed
in it in one way only, and `Store.matchesOf` is that list (`pairwise_matchesOf`, `mem_matchesOf`).
-/
namespace Backlog

theorem Timestamp.lt_or_eq_or_gt (a b : Timestamp) : a.fields < b.fields ∨ a = b ∨ b.fields < a.fields := by
  by_cases h : a.fields < b.fields
  · exact .inl h
  by_cases h' : b.fields < a.fields
  · exact .inr (.inr h')
  · exact .inr (.inl (ext_fields (List.le_antisymm (List.not_lt.1 h') (List.not_lt.1 h))))

namespace WorkItem

theorem precedes_iff {a b : WorkItem} :
    a.precedes b = true ↔ a.createdAt.fields < b.createdAt.fields ∨ a.createdAt = b.createdAt ∧ a.id < b.id := by
  have hfields : a.createdAt.fields = b.createdAt.fields ↔ a.createdAt = b.createdAt :=
    ⟨Timestamp.ext_fields, fun h => h ▸ rfl⟩
  simp [precedes, hfields]

theorem precedes_irrefl (a : WorkItem) : ¬a.precedes a = true := fun h => by
  rcases precedes_iff.1 h with h | ⟨-, h⟩
  · exact List.lt_irrefl _ h
  · exact String.lt_irrefl _ h

theorem precedes_trans {a b c : WorkItem} (hab : a.precedes b = true) (hbc : b.precedes c = true) :
    a.precedes c = true := by
  rw [precedes_iff] at hab hbc ⊢
  rcases hab with hab | ⟨hab, hab'⟩ <;> rcases hbc with hbc | ⟨hbc, hbc'⟩
  · exact .inl (List.lt_trans hab hbc)
  · exact .inl (hbc ▸ hab)
  · exact .inl (hab ▸ hbc)
  · exact .inr ⟨hab.trans hbc, String.lt_trans hab' hbc'⟩

/-- **Of two items with different identifiers one precedes the other.** -/
theorem precedes_or_precedes {a b : WorkItem} (h : a.id ≠ b.id) : a.precedes b = true ∨ b.precedes a = true := by
  rw [precedes_iff, precedes_iff]
  rcases Timestamp.lt_or_eq_or_gt a.createdAt b.createdAt with hlt | hc | hgt
  · exact .inl (.inl hlt)
  · by_cases hid : a.id < b.id
    · exact .inl (.inr ⟨hc, hid⟩)
    · exact .inr (.inr ⟨hc.symm, lt_of_not_lt_of_ne hid h⟩)
  · exact .inr (.inl hgt)

/-- **The order leaves no choice**: two lists in order that have the same members are the same list. -/
theorem eq_of_pairwise_of_mem_iff {as bs : List WorkItem} (ha : as.Pairwise fun a b => a.precedes b = true)
    (hb : bs.Pairwise fun a b => a.precedes b = true) (h : ∀ x, x ∈ as ↔ x ∈ bs) : as = bs := by
  have hnodup : ∀ {xs : List WorkItem}, (xs.Pairwise fun a b => a.precedes b = true) → xs.Nodup := by
    intro xs hxs
    refine hxs.imp fun {a b} hab he => ?_
    subst he
    exact precedes_irrefl a hab
  have hperm : as.Perm bs := (List.perm_ext_iff_of_nodup (hnodup ha) (hnodup hb)).2 (fun {x} => h x)
  refine hperm.eq_of_pairwise (fun a b _ _ hab hba => ?_) ha hb
  exact (precedes_irrefl a (precedes_trans hab hba)).elim

/-! ## Sorting -/

theorem perm_insertInOrder (a : WorkItem) : ∀ bs : List WorkItem, (insertInOrder a bs).Perm (a :: bs)
  | [] => .refl _
  | b :: bs => by
    rw [insertInOrder]
    split
    · exact .refl _
    · exact ((perm_insertInOrder a bs).cons b).trans (.swap a b bs)

theorem pairwise_insertInOrder (a : WorkItem) :
    ∀ bs : List WorkItem, (∀ b ∈ bs, a.id ≠ b.id) → (bs.Pairwise fun a b => a.precedes b = true) →
      (insertInOrder a bs).Pairwise fun a b => a.precedes b = true
  | [], _, _ => List.pairwise_singleton _ _
  | b :: bs, hne, hs => by
    obtain ⟨hb, hbs⟩ := List.pairwise_cons.1 hs
    rw [insertInOrder]
    split
    · next hab =>
      refine List.pairwise_cons.2 ⟨fun x hx => ?_, hs⟩
      rcases List.mem_cons.1 hx with rfl | hx
      · exact hab
      · exact precedes_trans hab (hb x hx)
    · next hab =>
      have hba := (precedes_or_precedes (hne b List.mem_cons_self)).resolve_left hab
      refine List.pairwise_cons.2 ⟨fun x hx => ?_, ?_⟩
      · rcases List.mem_cons.1 ((perm_insertInOrder a bs).mem_iff.1 hx) with rfl | hx
        · exact hba
        · exact hb x hx
      · exact pairwise_insertInOrder a bs (fun x hx => hne x (List.mem_cons_of_mem _ hx)) hbs

/-- Sorting inserts one item after the other; what is sorted so far and what is still to come have different
identifiers. -/
theorem perm_pairwise_foldl_insertInOrder :
    ∀ items sorted : List WorkItem, ((sorted ++ items).map WorkItem.id).Nodup →
      (sorted.Pairwise fun a b => a.precedes b = true) →
      (items.foldl (fun sorted a => insertInOrder a sorted) sorted).Perm (sorted ++ items) ∧
        (items.foldl (fun sorted a => insertInOrder a sorted) sorted).Pairwise fun a b => a.precedes b = true
  | [], sorted, _, hs => by simpa using hs
  | a :: items, sorted, hd, hs => by
    rw [List.foldl_cons]
    have hp : (insertInOrder a sorted ++ items).Perm (sorted ++ a :: items) :=
      ((perm_insertInOrder a sorted).append_right items).trans List.perm_middle.symm
    have hne : ∀ b ∈ sorted, a.id ≠ b.id := fun b hb he => by
      rw [List.map_append, List.nodup_append] at hd
      exact hd.2.2 b.id (List.mem_map_of_mem hb) a.id (by simp) he.symm
    obtain ⟨hperm, hpair⟩ := perm_pairwise_foldl_insertInOrder items (insertInOrder a sorted)
      ((hp.map WorkItem.id).nodup_iff.2 hd) (pairwise_insertInOrder a sorted hne hs)
    exact ⟨hperm.trans hp, hpair⟩

/-- **Sorting** lists the same items in their order, which has to be strict on them. -/
theorem sort_spec {items : List WorkItem} (h : (items.map WorkItem.id).Nodup) :
    (sort items).Perm items ∧ (sort items).Pairwise fun a b => a.precedes b = true :=
  perm_pairwise_foldl_insertInOrder items [] h .nil

end WorkItem

namespace Store

theorem nodup_ids (s : Store) : (s.items.entries.map WorkItem.id).Nodup :=
  s.items.nodup_keys

theorem nodup_ids_filter (s : Store) (p : WorkItem → Bool) : ((s.items.entries.filter p).map WorkItem.id).Nodup :=
  s.nodup_ids.sublist (List.filter_sublist.map WorkItem.id)

theorem mem_matchesOf {s : Store} {p : Predicate} {item : WorkItem} :
    item ∈ s.matchesOf p ↔ item ∈ s.items.entries ∧ p.isMatch item = true := by
  rw [matchesOf, (WorkItem.sort_spec (s.nodup_ids_filter p.isMatch)).1.mem_iff, List.mem_filter]

theorem length_matchesOf_le (s : Store) (p : Predicate) : (s.matchesOf p).length ≤ s.items.entries.length := by
  rw [matchesOf, (WorkItem.sort_spec (s.nodup_ids_filter p.isMatch)).1.length_eq]
  exact List.length_filter_le _ _

theorem pairwise_matchesOf (s : Store) (p : Predicate) :
    (s.matchesOf p).Pairwise fun a b => a.precedes b = true :=
  (WorkItem.sort_spec (s.nodup_ids_filter p.isMatch)).2

end Store
end Backlog
