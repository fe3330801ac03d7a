import Backlog.Proofs.Text.Trimming
import Backlog.Uuid
/-!
# Uuid — the shapes in which a UUID is written, and no others

The reader of UUIDs counts characters and looks at some of them.  What it accepts is said here without counting: a text
`Writes` some digits if it is one of the four shapes of these digits, and the reader gives the digits in lower case of
exactly the texts that write thirty-two of them (`digits?_eq_some_iff`).  In particular it reads the stored form of what
it has read (`digits?_render`).
-/
namespace Backlog
namespace Text

theorem hexValue?_isSome_iff {c : Char} : (hexValue? c).isSome = true ↔
    48 ≤ c.toNat ∧ c.toNat ≤ 57 ∨ 97 ≤ c.toNat ∧ c.toNat ≤ 102 ∨ 65 ≤ c.toNat ∧ c.toNat ≤ 70 := by
  have hdigit : c.isDigit = true ↔ 48 ≤ c.toNat ∧ c.toNat ≤ 57 := by simp [Char.isDigit, UInt32.le_iff_toNat_le]
  have hlower : ('a' ≤ c && c ≤ 'f') = true ↔ 97 ≤ c.toNat ∧ c.toNat ≤ 102 := by
    simp [Char.le_def, UInt32.le_iff_toNat_le]
  have hupper : ('A' ≤ c && c ≤ 'F') = true ↔ 65 ≤ c.toNat ∧ c.toNat ≤ 70 := by
    simp [Char.le_def, UInt32.le_iff_toNat_le]
  rw [← hdigit, ← hlower, ← hupper]
  unfold hexValue?
  split
  · next h => simp [h]
  · next h =>
    split
    · next h' => simp [h']
    · next h' =>
      split
      · next h'' => simp [h'']
      · next h'' => simp [h, h', h'']

theorem isBlank_of_hexValue? {c : Char} (h : (hexValue? c).isSome = true) : isBlank c = false := by
  rw [hexValue?_isSome_iff] at h
  simp [isBlank, blankRanges]
  omega

theorem hexValue?_toLower {c : Char} (h : (hexValue? c).isSome = true) : (hexValue? c.toLower).isSome = true := by
  rw [hexValue?_isSome_iff] at h ⊢
  rw [toNat_toLower]
  split <;> omega

end Text

namespace Uuid

/-- The digits of a UUID, in either case. -/
structure IsDigits (ds : List Char) : Prop where
  length : ds.length = 32
  hex : ∀ d ∈ ds, (Text.hexValue? d).isSome = true

/-- The texts that write some digits as a UUID. -/
inductive Writes (ds : List Char) : List Char → Prop
  | plain : Writes ds ds
  | hyphenated : Writes ds (render ds)
  | braced : Writes ds ('\x7b' :: (render ds ++ ['\x7d']))
  | urn (head : List Char) (hhead : head.map Char.toLower = urnHead) : Writes ds (head ++ render ds)

theorem IsDigits.map_toLower {ds : List Char} (h : IsDigits ds) : IsDigits (ds.map Char.toLower) := by
  refine ⟨(List.length_map _).trans h.length, fun d hd => ?_⟩
  obtain ⟨c, hc, rfl⟩ := List.mem_map.1 hd
  exact Text.hexValue?_toLower (h.hex c hc)

theorem plain?_eq_some_iff {cs ds : List Char} : plain? cs = some ds ↔ IsDigits cs ∧ cs.map Char.toLower = ds := by
  unfold plain?
  split
  · next h =>
    rw [Bool.and_eq_true, decide_eq_true_eq, List.all_eq_true] at h
    exact ⟨fun hds => ⟨⟨h.1, h.2⟩, Option.some.inj hds⟩, fun ⟨_, hds⟩ => congrArg some hds⟩
  · next h =>
    rw [Bool.and_eq_true, decide_eq_true_eq, List.all_eq_true] at h
    exact ⟨nofun, fun ⟨hcs, _⟩ => absurd ⟨hcs.length, hcs.hex⟩ h⟩

/-! ## The hyphens -/

section

variable {a b c d e : List Char} (ha : a.length = 8) (hb : b.length = 4) (hc : c.length = 4) (hd : d.length = 4)
include ha hb hc hd

theorem render_groups :
    render (a ++ (b ++ (c ++ (d ++ e)))) = a ++ '-' :: (b ++ '-' :: (c ++ '-' :: (d ++ '-' :: e))) := by
  simp [render, List.drop_append, List.drop_of_length_le, ha, hb, hc, hd]

theorem hyphenated?_groups (he : e.length = 12) (w x y z : Char) :
    hyphenated? (a ++ w :: (b ++ x :: (c ++ y :: (d ++ z :: e)))) =
      if w = '-' ∧ x = '-' ∧ y = '-' ∧ z = '-' then plain? (a ++ (b ++ (c ++ (d ++ e)))) else none := by
  simp [hyphenated?, List.drop_append, List.drop_of_length_le, ha, hb, hc, hd, he]

end

theorem exists_group {n m : Nat} {cs : List Char} (h : cs.length = n + m) :
    ∃ a r, cs = a ++ r ∧ a.length = n ∧ r.length = m := by
  refine ⟨cs.take n, cs.drop n, (List.take_append_drop n cs).symm, ?_, ?_⟩
  · rw [List.length_take, h]
    omega
  · rw [List.length_drop, h]
    omega

theorem exists_group_before {n m : Nat} {cs : List Char} (h : cs.length = n + (m + 1)) :
    ∃ a w r, cs = a ++ w :: r ∧ a.length = n ∧ r.length = m := by
  obtain ⟨a, r, rfl, ha, hr⟩ := exists_group h
  obtain ⟨w, r, rfl⟩ := List.exists_cons_of_length_eq_add_one hr
  exact ⟨a, w, r, rfl, ha, Nat.add_right_cancel hr⟩

theorem length_render {ds : List Char} (h : ds.length = 32) : (render ds).length = 36 := by
  simp [render, h]

theorem hyphenated?_render {ds : List Char} (h : ds.length = 32) : hyphenated? (render ds) = plain? ds := by
  obtain ⟨a, r, rfl, ha, hr⟩ := exists_group (n := 8) (m := 24) h
  obtain ⟨b, r, rfl, hb, hr⟩ := exists_group (n := 4) (m := 20) hr
  obtain ⟨c, r, rfl, hc, hr⟩ := exists_group (n := 4) (m := 16) hr
  obtain ⟨d, e, rfl, hd, he⟩ := exists_group (n := 4) (m := 12) hr
  rw [render_groups ha hb hc hd, hyphenated?_groups ha hb hc hd he, if_pos ⟨rfl, rfl, rfl, rfl⟩]

theorem exists_render_of_hyphenated? {cs ds : List Char} (h : hyphenated? cs = some ds) :
    ∃ written, IsDigits written ∧ render written = cs ∧ written.map Char.toLower = ds := by
  have hlength : cs.length = 8 + (27 + 1) := by
    unfold hyphenated? at h
    split at h
    · next hshape =>
      rw [Bool.and_eq_true, decide_eq_true_eq] at hshape
      exact hshape.1
    · cases h
  -- each of the four characters between the groups has to be a hyphen
  obtain ⟨a, w, r, rfl, ha, hr⟩ := exists_group_before hlength
  obtain ⟨b, x, r, rfl, hb, hr⟩ := exists_group_before (n := 4) (m := 22) hr
  obtain ⟨c, y, r, rfl, hc, hr⟩ := exists_group_before (n := 4) (m := 17) hr
  obtain ⟨d, z, e, rfl, hd, he⟩ := exists_group_before (n := 4) (m := 12) hr
  rw [hyphenated?_groups ha hb hc hd he] at h
  split at h
  · next hhyphens =>
    obtain ⟨rfl, rfl, rfl, rfl⟩ := hhyphens
    obtain ⟨hdigits, hds⟩ := plain?_eq_some_iff.1 h
    exact ⟨_, hdigits, render_groups ha hb hc hd, hds⟩
  · cases h

/-! ## The shapes -/

theorem eq_braced {cs : List Char} (hlength : cs.length = 38) (hhead : cs.head? = some '\x7b')
    (hlast : cs.getLast? = some '\x7d') : '\x7b' :: ((cs.drop 1).dropLast ++ ['\x7d']) = cs := by
  obtain ⟨r, rfl⟩ := List.head?_eq_some_iff.1 hhead
  obtain ⟨init, hinit⟩ := List.getLast?_eq_some_iff.1 hlast
  cases init with
  | nil =>
    rw [hinit] at hlength
    cases hlength
  | cons c init =>
    have hr : r = init ++ ['\x7d'] := (List.cons.inj hinit).2
    rw [List.drop_one, List.tail_cons, hr, List.dropLast_concat]

theorem Writes.digits?_eq {cs ds : List Char} (h : Writes ds cs) (hds : IsDigits ds) :
    digits? cs = some (ds.map Char.toLower) := by
  have hplain := plain?_eq_some_iff.2 ⟨hds, rfl⟩
  have hlength := length_render hds.length
  have hhyphens := hyphenated?_render hds.length
  cases h with
  | plain => rw [digits?, if_pos hds.length, hplain]
  | hyphenated => simp [digits?, hlength, hhyphens, hplain]
  | braced => simp [digits?, hlength, hhyphens, hplain, List.getLast?_cons]
  | urn head hhead =>
    have hhead' : head.length = 9 := by
      rw [← List.length_map Char.toLower, hhead]
      rfl
    simp [digits?, hlength, hhead', hhead, hhyphens, hplain]

theorem exists_writes_of_digits? {cs ds : List Char} (h : digits? cs = some ds) :
    ∃ written, IsDigits written ∧ Writes written cs ∧ written.map Char.toLower = ds := by
  unfold digits? at h
  split at h
  · obtain ⟨hcs, hds⟩ := plain?_eq_some_iff.1 h
    exact ⟨cs, hcs, .plain, hds⟩
  split at h
  · obtain ⟨written, hwritten, rfl, hds⟩ := exists_render_of_hyphenated? h
    exact ⟨written, hwritten, .hyphenated, hds⟩
  split at h
  · next hbraces =>
    obtain ⟨written, hwritten, hmiddle, hds⟩ := exists_render_of_hyphenated? h
    simp only [Bool.and_eq_true, decide_eq_true_eq, beq_iff_eq] at hbraces
    have hcs := eq_braced hbraces.1.1 hbraces.1.2 hbraces.2
    rw [← hmiddle] at hcs
    exact ⟨written, hwritten, hcs ▸ .braced, hds⟩
  split at h
  · next hurn =>
    obtain ⟨written, hwritten, hrest, hds⟩ := exists_render_of_hyphenated? h
    simp only [Bool.and_eq_true, decide_eq_true_eq, beq_iff_eq] at hurn
    have hcs := List.take_append_drop 9 cs
    rw [← hrest] at hcs
    exact ⟨written, hwritten, hcs ▸ .urn _ hurn.2, hds⟩
  · cases h

/-- **A UUID is read off exactly the texts that write it.** -/
theorem digits?_eq_some_iff {cs ds : List Char} :
    digits? cs = some ds ↔ ∃ written, IsDigits written ∧ Writes written cs ∧ written.map Char.toLower = ds := by
  refine ⟨exists_writes_of_digits?, ?_⟩
  rintro ⟨written, hwritten, hwrites, rfl⟩
  exact hwrites.digits?_eq hwritten

/-! ## The stored form -/

theorem digits?_render {cs ds : List Char} (h : digits? cs = some ds) : digits? (render ds) = some ds := by
  obtain ⟨written, hwritten, -, rfl⟩ := digits?_eq_some_iff.1 h
  refine digits?_eq_some_iff.2 ⟨_, hwritten.map_toLower, .hyphenated, ?_⟩
  rw [List.map_map]
  exact List.map_congr_left fun c _ => Text.toLower_toLower c

theorem forall_mem_render {P : Char → Prop} {ds : List Char} (hhyphen : P '-') (h : ∀ c ∈ ds, P c) :
    ∀ c ∈ render ds, P c := by
  have hfirst : ∀ c ∈ ds.take 8, P c := fun c hc => h c (List.mem_of_mem_take hc)
  have hrest (n : Nat) : ∀ c ∈ ds.drop n, P c := fun c hc => h c (List.mem_of_mem_drop hc)
  have hgroup (n : Nat) : ∀ c ∈ (ds.drop n).take 4, P c := fun c hc => hrest n c (List.mem_of_mem_take hc)
  simp only [render, List.forall_mem_append, List.forall_mem_cons]
  exact ⟨hfirst, hhyphen, hgroup 8, hhyphen, hgroup 12, hhyphen, hgroup 16, hhyphen, hrest 20⟩

theorem trim_render {cs ds : List Char} (h : digits? cs = some ds) : Text.trim (render ds) = render ds := by
  obtain ⟨written, hwritten, -, rfl⟩ := digits?_eq_some_iff.1 h
  refine Text.trim_eq_self (forall_mem_render (by decide) fun d hd => ?_)
  exact Text.isBlank_of_hexValue? (hwritten.map_toLower.hex d hd)

end Uuid
end Backlog
