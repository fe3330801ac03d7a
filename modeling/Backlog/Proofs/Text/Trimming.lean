import Backlog.Text.Blank
/-!
# Trimming — what is left of a text without the blanks at its ends

Trimming makes of every text one that neither begins nor ends with a blank, by taking off nothing but blanks at its ends
(`trim_eq_iff`).  Whether a text has blanks there does not depend on the case of its letters, so of two texts that are the
same but for case either both have blanks to lose or none has.
-/
namespace Backlog
namespace Text

variable {cs ds : List Char}

/-- Whether a text neither begins nor ends with a blank. -/
structure IsTrimmed (cs : List Char) : Prop where
  first : ∀ c ∈ cs.head?, isBlank c = false
  last : ∀ c ∈ cs.getLast?, isBlank c = false

theorem dropBlanks_of_head? (h : ∀ c ∈ cs.head?, isBlank c = false) : dropBlanks cs = cs := by
  cases cs with
  | nil => rfl
  | cons c cs => exact List.dropWhile_cons_of_neg (by simp [h c rfl])

theorem isBlank_of_head?_dropBlanks {c : Char} (h : c ∈ (dropBlanks cs).head?) : isBlank c = false := by
  have hnot := List.head?_dropWhile_not isBlank cs
  rw [dropBlanks, Option.mem_def] at h
  rwa [h] at hnot

theorem getLast?_of_getLast?_dropBlanks {c : Char} (h : c ∈ (dropBlanks cs).getLast?) : c ∈ cs.getLast? := by
  obtain ⟨blanks, hcs⟩ := List.dropWhile_suffix (l := cs) isBlank
  rw [Option.mem_def] at h ⊢
  rw [← hcs, List.getLast?_append]
  exact congrArg (Option.or · _) h

theorem isTrimmed_trim (cs : List Char) : IsTrimmed (trim cs) := by
  constructor
  · intro c hc
    rw [trim, List.head?_reverse] at hc
    have hfirst : c ∈ (dropBlanks cs).reverse.getLast? := getLast?_of_getLast?_dropBlanks hc
    rw [List.getLast?_reverse] at hfirst
    exact isBlank_of_head?_dropBlanks hfirst
  · intro c hc
    rw [trim, List.getLast?_reverse] at hc
    exact isBlank_of_head?_dropBlanks hc

theorem exists_blanks_of_dropBlanks (cs : List Char) :
    ∃ blanks, (∀ c ∈ blanks, isBlank c = true) ∧ blanks ++ dropBlanks cs = cs :=
  ⟨cs.takeWhile isBlank, List.all_eq_true.1 List.all_takeWhile, List.takeWhile_append_dropWhile⟩

theorem IsTrimmed.trim_append {before after : List Char} (h : IsTrimmed ds) (hbefore : ∀ c ∈ before, isBlank c = true)
    (hafter : ∀ c ∈ after, isBlank c = true) : trim (before ++ (ds ++ after)) = ds := by
  have hstart : dropBlanks (before ++ (ds ++ after)) = dropBlanks (ds ++ after) :=
    List.dropWhile_append_of_pos hbefore
  rw [trim, hstart]
  cases ds with
  | nil =>
    have hnothing : dropBlanks (after ++ []) = [] := List.dropWhile_append_of_pos hafter
    rw [List.append_nil] at hnothing
    rw [List.nil_append, hnothing]
    rfl
  | cons d ds =>
    have hend : dropBlanks (after.reverse ++ (d :: ds).reverse) = dropBlanks (d :: ds).reverse :=
      List.dropWhile_append_of_pos fun c hc => hafter c (List.mem_reverse.1 hc)
    have hkept : dropBlanks (d :: ds ++ after) = d :: ds ++ after := dropBlanks_of_head? h.first
    rw [hkept, List.reverse_append, hend, dropBlanks_of_head?, List.reverse_reverse]
    rw [List.head?_reverse]
    exact h.last

/-- **Trimming** takes off blanks at the ends until there are none. -/
theorem trim_eq_iff : trim cs = ds ↔ IsTrimmed ds ∧ ∃ before after, (∀ c ∈ before, isBlank c = true) ∧
    (∀ c ∈ after, isBlank c = true) ∧ before ++ (ds ++ after) = cs := by
  constructor
  · rintro rfl
    obtain ⟨before, hbefore, hcs⟩ := exists_blanks_of_dropBlanks cs
    obtain ⟨after, hafter, hrest⟩ := exists_blanks_of_dropBlanks (dropBlanks cs).reverse
    refine ⟨isTrimmed_trim cs, before, after.reverse, hbefore, fun c hc => hafter c (List.mem_reverse.1 hc), ?_⟩
    rw [trim, ← List.reverse_append, hrest, List.reverse_reverse, hcs]
  · rintro ⟨hds, before, after, hbefore, hafter, rfl⟩
    exact hds.trim_append hbefore hafter

theorem IsTrimmed.trim_eq (h : IsTrimmed cs) : trim cs = cs :=
  trim_eq_iff.2 ⟨h, [], [], nofun, nofun, List.append_nil cs⟩

/-! ## Case -/

theorem toNat_toLower (c : Char) :
    c.toLower.toNat = if 65 ≤ c.toNat ∧ c.toNat ≤ 90 then c.toNat + 32 else c.toNat := by
  have hupper : (c.val ≥ 'A'.val ∧ c.val ≤ 'Z'.val) ↔ 65 ≤ c.toNat ∧ c.toNat ≤ 90 := by
    simp only [ge_iff_le, UInt32.le_iff_toNat_le]
    rfl
  unfold Char.toLower
  split
  · next h =>
    have hrange := hupper.1 h
    rw [if_pos hrange]
    show (c.val + ('a'.val - 'A'.val)).toNat = c.val.toNat + 32
    rw [UInt32.toNat_add]
    exact Nat.mod_eq_of_lt (show c.toNat + 32 < 2 ^ 32 by omega)
  · next h => rw [if_neg (mt hupper.2 h)]

theorem toLower_toLower (c : Char) : c.toLower.toLower = c.toLower := by
  rw [← Char.toNat_inj, toNat_toLower c.toLower, toNat_toLower c]
  split
  · exact if_neg (by omega)
  · rfl

theorem isBlank_toLower (c : Char) : isBlank c.toLower = isBlank c := by
  simp only [isBlank, toNat_toLower]
  split
  · next h =>
    -- neither case of a letter is in any of the ranges
    rw [Bool.eq_iff_iff]
    simp [blankRanges]
    omega
  · rfl

theorem isTrimmed_map_toLower : IsTrimmed (cs.map Char.toLower) ↔ IsTrimmed cs := by
  have hend (end? : Option Char) : (∀ c ∈ end?.map Char.toLower, isBlank c = false) ↔ ∀ c ∈ end?, isBlank c = false := by
    simp [isBlank_toLower]
  constructor
  · rintro ⟨hfirst, hlast⟩
    rw [List.head?_map, hend] at hfirst
    rw [List.getLast?_map, hend] at hlast
    exact ⟨hfirst, hlast⟩
  · rintro ⟨hfirst, hlast⟩
    refine ⟨?_, ?_⟩
    · rwa [List.head?_map, hend]
    · rwa [List.getLast?_map, hend]

end Text
end Backlog
