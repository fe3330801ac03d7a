/-!
# Registry — entries under their own keys, in order

Everything that is stored by an identifier is stored under the identifier it carries.  A registry holds at most one
entry per key and lists its entries in ascending order of their keys, so two registries that answer every look-up alike
are the same registry, whatever happened to them before (`ext_get?`).  A string is its own key: a registry of strings is
a finite set of strings (`StringSet`).
-/
namespace Backlog

/-- A kind of entry that carries its key. -/
class Keyed (α : Type) where
  key : α → String

open Keyed (key)

theorem lt_of_not_lt_of_ne {a b : String} (h : ¬a < b) (hne : a ≠ b) : b < a := by
  apply Decidable.byContradiction
  intro hba
  exact hne (String.le_antisymm (String.not_lt.1 hba) (String.not_lt.1 h))

/-- Entries in ascending order of their keys, each key once. -/
structure Registry (α : Type) [Keyed α] where
  entries : List α
  sorted : entries.Pairwise fun a b => key a < key b

namespace Registry

variable {α : Type} [Keyed α]

/-- A list of entries with one more: in front of the first larger key, or in the place of its own. -/
def insertEntry (a : α) : List α → List α
  | [] => [a]
  | b :: bs =>
    if key a < key b then a :: b :: bs
    else if key a = key b then a :: bs
    else b :: insertEntry a bs

theorem mem_insertEntry {a x : α} : ∀ {bs : List α}, x ∈ insertEntry a bs → x = a ∨ x ∈ bs
  | [], h => by simpa [insertEntry] using h
  | b :: bs, h => by
    unfold insertEntry at h
    split at h
    · simpa using h
    · split at h
      · rcases List.mem_cons.1 h with h | h
        · exact .inl h
        · exact .inr (List.mem_cons_of_mem _ h)
      · rcases List.mem_cons.1 h with h | h
        · exact .inr (h ▸ List.mem_cons_self)
        · rcases mem_insertEntry h with h | h
          · exact .inl h
          · exact .inr (List.mem_cons_of_mem _ h)

theorem sorted_insertEntry (a : α) :
    ∀ {bs : List α}, (bs.Pairwise fun a b => key a < key b) → (insertEntry a bs).Pairwise fun a b => key a < key b
  | [], _ => by simp [insertEntry]
  | b :: bs, h => by
    have ⟨hb, hbs⟩ := List.pairwise_cons.1 h
    unfold insertEntry
    split
    · next hab =>
      refine List.pairwise_cons.2 ⟨fun x hx => ?_, h⟩
      rcases List.mem_cons.1 hx with rfl | hx
      · exact hab
      · exact String.lt_trans hab (hb x hx)
    · split
      · next hab => exact List.pairwise_cons.2 ⟨fun x hx => hab ▸ hb x hx, hbs⟩
      · next h1 h2 =>
        refine List.pairwise_cons.2 ⟨fun x hx => ?_, sorted_insertEntry a hbs⟩
        rcases mem_insertEntry hx with rfl | hx
        · exact lt_of_not_lt_of_ne h1 h2
        · exact hb x hx

def empty : Registry α := ⟨[], .nil⟩

def insert (r : Registry α) (a : α) : Registry α :=
  ⟨insertEntry a r.entries, sorted_insertEntry a r.sorted⟩

/-- A registry of entries inserted one after the other. -/
def ofList (as : List α) : Registry α :=
  as.foldl insert empty

def get? (r : Registry α) (k : String) : Option α :=
  r.entries.find? fun a => key a == k

def contains (r : Registry α) (k : String) : Bool :=
  r.entries.any fun a => key a == k

def isEmpty (r : Registry α) : Bool :=
  r.entries.isEmpty

instance : Inhabited (Registry α) := ⟨empty⟩

instance [DecidableEq α] : DecidableEq (Registry α) := fun r s =>
  if h : r.entries = s.entries then isTrue (by cases r; cases s; cases h; rfl) else isFalse (fun e => h (e ▸ rfl))

@[ext]
theorem ext_entries {r s : Registry α} (h : r.entries = s.entries) : r = s := by
  cases r; cases s; cases h; rfl

theorem contains_eq_isSome (r : Registry α) (k : String) : r.contains k = (r.get? k).isSome := by
  unfold contains get?
  induction r.entries with
  | nil => rfl
  | cons a as ih => by_cases h : key a = k <;> simp [h, ih]

/-- **Looking up after an insertion** finds the new entry under its key and the old ones under all others. -/
theorem find?_insertEntry (a : α) (k : String) :
    ∀ {bs : List α}, (bs.Pairwise fun a b => key a < key b) →
      (insertEntry a bs).find? (fun b => key b == k) = if key a = k then some a else bs.find? fun b => key b == k
  | [], _ => by by_cases h : key a = k <;> simp [insertEntry, h]
  | b :: bs, hs => by
    have ⟨_, hbs⟩ := List.pairwise_cons.1 hs
    unfold insertEntry
    split
    · by_cases h : key a = k <;> simp [List.find?_cons, h]
    · next hlt =>
      split
      · next he => by_cases h : key a = k <;> simp_all
      · next hne =>
        rw [List.find?_cons, List.find?_cons, find?_insertEntry a k hbs]
        by_cases hb : key b = k
        · have ha : key a ≠ k := fun h => hne (h.trans hb.symm)
          simp only [hb, ha, beq_self_eq_true, if_false]
        · simp only [hb, beq_eq_false_iff_ne.2, ne_eq, not_false_eq_true]

theorem get?_insert (r : Registry α) (a : α) (k : String) :
    (r.insert a).get? k = if key a = k then some a else r.get? k :=
  find?_insertEntry a k r.sorted

theorem contains_insert (r : Registry α) (a : α) (k : String) :
    (r.insert a).contains k = (key a == k || r.contains k) := by
  rw [contains_eq_isSome, contains_eq_isSome, get?_insert]
  by_cases h : key a = k <;> simp [h]

theorem contains_insert_of_contains {r : Registry α} {k : String} (a : α) (h : r.contains k = true) :
    (r.insert a).contains k = true := by
  rw [contains_insert, h, Bool.or_true]

theorem get?_empty (k : String) : (empty : Registry α).get? k = none := rfl

theorem get?_foldl_insert (k : String) :
    ∀ (as : List α) (r : Registry α),
      (as.foldl insert r).get? k = (as.filter fun a => key a == k).getLast?.or (r.get? k)
  | [], r => rfl
  | a :: as, r => by
    rw [List.foldl_cons, get?_foldl_insert k as, get?_insert]
    by_cases h : key a = k
    · rw [List.filter_cons_of_pos (by simpa using h), List.getLast?_cons, if_pos h]
      cases (as.filter fun a => key a == k).getLast? <;> rfl
    · rw [List.filter_cons_of_neg (by simpa using h), if_neg h]

/-- **The last entry with a key** is the one that is found. -/
theorem get?_ofList (as : List α) (k : String) :
    (ofList as).get? k = (as.filter fun a => key a == k).getLast? := by
  rw [ofList, get?_foldl_insert, get?_empty, Option.or_none]

theorem key_of_get? {r : Registry α} {k : String} {a : α} (h : r.get? k = some a) : key a = k := by
  simpa using List.find?_some h

theorem mem_of_get? {r : Registry α} {k : String} {a : α} (h : r.get? k = some a) : a ∈ r.entries :=
  List.mem_of_find?_eq_some h

theorem get?_key_of_mem {r : Registry α} {a : α} (h : a ∈ r.entries) : r.get? (key a) = some a := by
  unfold get?
  have hs := r.sorted
  revert h hs
  generalize r.entries = bs
  induction bs with
  | nil => intro h; cases h
  | cons b bs ih =>
    intro h hs
    have ⟨hb, hbs⟩ := List.pairwise_cons.1 hs
    rcases List.mem_cons.1 h with rfl | h
    · simp
    · have hne : key b ≠ key a := fun e => String.lt_irrefl _ (e ▸ hb a h)
      simp [hne, ih h hbs]

theorem get?_eq_some_iff {r : Registry α} {k : String} {a : α} : r.get? k = some a ↔ a ∈ r.entries ∧ key a = k :=
  ⟨fun h => ⟨mem_of_get? h, key_of_get? h⟩, fun ⟨hm, hk⟩ => hk ▸ get?_key_of_mem hm⟩

theorem eq_of_key_eq {r : Registry α} {a b : α} (ha : a ∈ r.entries) (hb : b ∈ r.entries) (h : key a = key b) : a = b := by
  have hget := get?_key_of_mem ha
  rw [h, get?_key_of_mem hb] at hget
  exact (Option.some.inj hget).symm

theorem mem_insert_iff {r : Registry α} {a b : α} : b ∈ (r.insert a).entries ↔ b = a ∨ b ∈ r.entries ∧ key b ≠ key a := by
  have hstored : ∀ r : Registry α, b ∈ r.entries ↔ r.get? (key b) = some b := fun r => by
    rw [get?_eq_some_iff, and_iff_left rfl]
  rw [hstored, get?_insert, hstored]
  by_cases h : key a = key b
  · simp [h, eq_comm]
  · have hne : b ≠ a := fun he => h (he ▸ rfl)
    simp [h, hne, Ne.symm h]

/-- What does not accept any entry with a key is not changed by an insertion under that key. -/
theorem filter_insertEntry {a : α} {p : α → Bool} (hp : ∀ b, key b = key a → p b = false) :
    ∀ bs : List α, (insertEntry a bs).filter p = bs.filter p
  | [] => by simp [insertEntry, hp a rfl]
  | b :: bs => by
    unfold insertEntry
    split
    · simp [hp a rfl]
    · split
      · next he => simp [hp a rfl, hp b he.symm]
      · rw [List.filter_cons, List.filter_cons, filter_insertEntry hp bs]

theorem nodup_keys (r : Registry α) : (r.entries.map key).Nodup := by
  refine List.pairwise_map.2 (r.sorted.imp ?_)
  intro a b hlt he
  exact String.lt_irrefl _ (he ▸ hlt)

theorem eq_of_mem_iff :
    ∀ {as bs : List α}, (as.Pairwise fun a b => key a < key b) → (bs.Pairwise fun a b => key a < key b) →
      (∀ x, x ∈ as ↔ x ∈ bs) → as = bs
  | [], [], _, _, _ => rfl
  | [], b :: bs, _, _, h => absurd ((h b).2 List.mem_cons_self) (by simp)
  | a :: as, [], _, _, h => absurd ((h a).1 List.mem_cons_self) (by simp)
  | a :: as, b :: bs, ha, hb, h => by
    have ⟨ha', has⟩ := List.pairwise_cons.1 ha
    have ⟨hb', hbs⟩ := List.pairwise_cons.1 hb
    have hab : a = b := by
      rcases List.mem_cons.1 ((h a).1 List.mem_cons_self) with rfl | ham
      · rfl
      rcases List.mem_cons.1 ((h b).2 List.mem_cons_self) with rfl | hbm
      · rfl
      exact absurd (String.lt_trans (hb' a ham) (ha' b hbm)) (String.lt_irrefl _)
    subst hab
    refine congrArg _ (eq_of_mem_iff has hbs fun x => ⟨fun hx => ?_, fun hx => ?_⟩)
    · rcases List.mem_cons.1 ((h x).1 (List.mem_cons_of_mem _ hx)) with rfl | hx'
      · exact absurd (ha' x hx) (String.lt_irrefl _)
      · exact hx'
    · rcases List.mem_cons.1 ((h x).2 (List.mem_cons_of_mem _ hx)) with rfl | hx'
      · exact absurd (hb' x hx) (String.lt_irrefl _)
      · exact hx'

theorem ext_get? {r s : Registry α} (h : ∀ k, r.get? k = s.get? k) : r = s := by
  refine ext_entries (eq_of_mem_iff r.sorted s.sorted fun x => ?_)
  constructor
  · exact fun hx => mem_of_get? ((h (key x)) ▸ get?_key_of_mem hx)
  · exact fun hx => mem_of_get? ((h (key x)).symm ▸ get?_key_of_mem hx)

theorem insert_insert (r : Registry α) (a : α) : (r.insert a).insert a = r.insert a := by
  refine ext_get? fun k => ?_
  rw [get?_insert, get?_insert]
  split <;> rfl

end Registry

/-! ## Sets of strings -/

instance : Keyed String := ⟨fun s => s⟩

abbrev StringSet := Registry String

namespace StringSet

def union (s t : StringSet) : StringSet :=
  t.entries.foldl Registry.insert s

theorem contains_iff_mem {s : StringSet} {k : String} : s.contains k = true ↔ k ∈ s.entries := by
  simp [Registry.contains, Keyed.key]

theorem contains_insert (s : StringSet) (a k : String) :
    (Registry.insert s a).contains k = (a == k || s.contains k) :=
  Registry.contains_insert s a k

theorem contains_foldl_insert (k : String) :
    ∀ (as : List String) (s : StringSet), (as.foldl Registry.insert s).contains k = (as.contains k || s.contains k)
  | [], s => by simp
  | a :: as, s => by
    rw [List.foldl_cons, contains_foldl_insert k as, contains_insert, List.contains_cons, Bool.or_left_comm,
      ← Bool.or_assoc, Bool.or_comm (k == a), Bool.beq_comm (a := k)]
    simp [Bool.or_comm]

theorem contains_ofList (as : List String) (k : String) :
    (Registry.ofList as : StringSet).contains k = as.contains k := by
  rw [Registry.ofList, contains_foldl_insert]
  simp [Registry.contains, Registry.empty]

theorem contains_union (s t : StringSet) (k : String) :
    (s.union t).contains k = (t.entries.contains k || s.contains k) :=
  contains_foldl_insert k t.entries s

theorem ext_contains {s t : StringSet} (h : ∀ k, s.contains k = t.contains k) : s = t := by
  refine Registry.ext_get? fun k => ?_
  have hk := h k
  rw [Registry.contains_eq_isSome, Registry.contains_eq_isSome] at hk
  cases hs : s.get? k with
  | none =>
    cases ht : t.get? k with
    | none => rfl
    | some b => simp [hs, ht] at hk
  | some a =>
    cases ht : t.get? k with
    | none => simp [hs, ht] at hk
    | some b => exact congrArg some ((Registry.key_of_get? hs).trans (Registry.key_of_get? ht).symm)

theorem insert_comm (s : StringSet) (a b : String) :
    (Registry.insert s a).insert b = (Registry.insert s b).insert a := by
  refine ext_contains fun k => ?_
  simp only [contains_insert, Bool.or_left_comm]

end StringSet
end Backlog
