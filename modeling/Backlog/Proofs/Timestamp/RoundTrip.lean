import Backlog.Timestamp
import Mathlib.Data.Nat.Digits.Defs
/-!
# RoundTrip — a moment that is written is read back

The text of a moment denotes that moment (`read?_text`), in every year and with every precision: also where the year
needs a sign, and where the second is a leap second.  Reading is lenient about the widths of the numbers.  It finds the
end of a number that is written with its full width by counting, of a year with a sign by the hyphen after it, and of a
fraction by the letter at the end.
-/
namespace Backlog
namespace DateTime

/-! ## Numbers -/

theorem dropBlanks_cons {c : Char} {cs : List Char} (h : Text.isBlank c = false) :
    Text.dropBlanks (c :: cs) = c :: cs :=
  List.dropWhile_cons_of_neg (by simp [h])

theorem dropBlanks_append {ds : List Char} (rest : List Char) (hds : ds.all Char.isDigit = true) (hne : ds ≠ []) :
    Text.dropBlanks (ds ++ rest) = ds ++ rest := by
  obtain ⟨d, ds, rfl⟩ := List.exists_cons_of_ne_nil hne
  exact dropBlanks_cons (Text.isBlank_of_isDigit (List.all_eq_true.1 hds d List.mem_cons_self))

theorem takeWhile_isDigit_append {ds rest : List Char} (hds : ds.all Char.isDigit = true)
    (hrest : ∀ c ∈ rest.head?, c.isDigit = false) : (ds ++ rest).takeWhile Char.isDigit = ds := by
  rw [List.takeWhile_append_of_pos (List.all_eq_true.1 hds)]
  cases rest with
  | nil => simp
  | cons c rest => simp [hrest c rfl]

theorem all_isDigit_padded (width n : Nat) : (padded width n).all Char.isDigit = true := by
  rw [padded, List.all_append, Text.all_isDigit_digits, Bool.and_true, List.all_eq_true]
  exact fun c hc => (List.eq_of_mem_replicate hc) ▸ rfl

theorem padded_ne_nil (width n : Nat) : padded width n ≠ [] :=
  List.append_ne_nil_of_right_ne_nil _ (Text.digits_ne_nil n)

theorem length_padded {width n : Nat} (hwidth : 0 < width) (h : n < 10 ^ width) : (padded width n).length = width := by
  have hdigits : (Text.digits n).length ≤ width := (Nat.length_toDigits_le_iff (by omega) hwidth).2 h
  rw [padded, List.length_append, List.length_replicate]
  omega

theorem ofDigitChars_padded (width n : Nat) : Nat.ofDigitChars 10 (padded width n) 0 = n := by
  rw [padded, Nat.ofDigitChars_append, Nat.ofDigitChars_replicate_zero, Nat.mul_zero]
  exact Nat.ofDigitChars_toDigits (by omega) (by omega)

/-- **A number of full width is read back**, whatever comes after it. -/
theorem number?_padded {width n : Nat} (rest : List Char) (hwidth : 0 < width) (h : n < 10 ^ width) :
    number? width (padded width n ++ rest) = some (n, rest) := by
  have hds := all_isDigit_padded width n
  have hlength := length_padded hwidth h
  have htake : (padded width n ++ rest).take width = padded width n := by
    rw [List.take_append_of_le_length (by omega), List.take_of_length_le (by omega)]
  have hdigits : (padded width n ++ []).takeWhile Char.isDigit = padded width n := takeWhile_isDigit_append hds nofun
  rw [List.append_nil] at hdigits
  have hempty : (padded width n).isEmpty = false := by simpa using padded_ne_nil width n
  unfold number?
  simp only [dropBlanks_append rest hds (padded_ne_nil width n), htake, hdigits, hempty, ofDigitChars_padded]
  simp

theorem longNumber?_padded (width n : Nat) {rest : List Char} (hrest : ∀ c ∈ rest.head?, c.isDigit = false) :
    longNumber? (padded width n ++ rest) = some (n, rest) := by
  have hempty : (padded width n).isEmpty = false := by simpa using padded_ne_nil width n
  unfold longNumber?
  simp only [takeWhile_isDigit_append (all_isDigit_padded width n) hrest, hempty, ofDigitChars_padded]
  simp

theorem year?_yearText (year : Int) (rest : List Char) :
    year? (yearText year ++ '-' :: rest) = some (year, '-' :: rest) := by
  have hend : ∀ c ∈ ('-' :: rest).head?, c.isDigit = false := fun c hc => Option.some.inj hc ▸ rfl
  unfold yearText
  split
  · next h =>
    have h : 0 ≤ year ∧ year ≤ 9999 := by simpa using h
    have hds := all_isDigit_padded 4 year.toNat
    have hnumber : number? 4 (padded 4 year.toNat ++ '-' :: rest) = some (year.toNat, '-' :: rest) :=
      number?_padded _ (by omega) (by omega)
    have hdrop := dropBlanks_append ('-' :: rest) hds (padded_ne_nil 4 year.toNat)
    obtain ⟨d, ds, hpadded⟩ := List.exists_cons_of_ne_nil (padded_ne_nil 4 year.toNat)
    have hd : d.isDigit = true := List.all_eq_true.1 hds d (hpadded ▸ List.mem_cons_self)
    rw [hpadded, List.cons_append] at hnumber hdrop ⊢
    unfold year?
    rw [hdrop]
    split
    · next he => cases (List.cons.inj he).1; cases hd
    · next he => cases (List.cons.inj he).1; cases hd
    · simp only [hnumber, Option.map_some, Int.ofNat_eq_natCast, Int.toNat_of_nonneg h.1]
  · split
    · next h =>
      rw [List.cons_append, year?, dropBlanks_cons (by decide)]
      simp only [longNumber?_padded 4 year.natAbs hend, Option.map_some]
      rw [Int.ofNat_eq_natCast, show -(year.natAbs : Int) = year by omega]
    · next h =>
      rw [List.cons_append, year?, dropBlanks_cons (by decide)]
      simp only [longNumber?_padded 4 year.natAbs hend, Option.map_some]
      rw [Int.ofNat_eq_natCast, show (year.natAbs : Int) = year by omega]

theorem mark?_cons {c : Char} (rest : List Char) (h : Text.isBlank c = false) : mark? c (c :: rest) = some rest := by
  rw [mark?, dropBlanks_cons h]
  simp

theorem nano?_padded {digits n : Nat} {rest : List Char} (hdigits : 0 < digits) (hnine : digits ≤ 9)
    (h : n < 10 ^ digits) (hrest : ∀ c ∈ rest.head?, c.isDigit = false) :
    nano? ('.' :: padded digits n ++ rest) = some (n * 10 ^ (9 - digits), rest) := by
  have hempty : (padded digits n).isEmpty = false := by simpa using padded_ne_nil digits n
  have hlength := length_padded hdigits h
  have htake : (padded digits n).take 9 = padded digits n := List.take_of_length_le (by omega)
  unfold nano?
  simp only [List.cons_append, takeWhile_isDigit_append (all_isDigit_padded digits n) hrest, hempty, htake,
    ofDigitChars_padded]
  simp [hlength]

/-- **The fraction is read back** that is written with as few digits as are exact. -/
theorem nano?_fractionText {nano : Nat} (h : nano < nanosPerSecond) {rest : List Char}
    (hrest : ∀ c ∈ rest.head?, c.isDigit = false ∧ c ≠ '.') :
    nano? (fractionText nano ++ rest) = some (nano, rest) := by
  have hdigit : ∀ c ∈ rest.head?, c.isDigit = false := fun c hc => (hrest c hc).1
  unfold nanosPerSecond at h
  unfold fractionText
  split
  · next hzero =>
    subst hzero
    cases rest with
    | nil => rfl
    | cons c rest =>
      rw [List.nil_append, nano?]
      exact fun _ he => (hrest c rfl).2 (List.cons.inj he).1
  split
  · rw [nano?_padded (by omega) (by omega) (by omega) hdigit]
    refine congrArg (fun n => some (n, rest)) ?_
    omega
  split
  · rw [nano?_padded (by omega) (by omega) (by omega) hdigit]
    refine congrArg (fun n => some (n, rest)) ?_
    omega
  · rw [nano?_padded (by omega) (by omega) (by omega) hdigit]
    refine congrArg (fun n => some (n, rest)) ?_
    omega

/-! ## Dates and times -/

theorem daysInMonth_le (year : Int) (month : Nat) : daysInMonth year month ≤ 31 := by
  unfold daysInMonth
  split
  · split <;> omega
  · split <;> omega

theorem shownSecond_spec {t : DateTime} (h : t.Exists) :
    t.shownSecond < 100 ∧
      (if t.shownSecond = 60 then
        (⟨t.year, t.month, t.day, t.hour, t.minute, 59, t.nano % nanosPerSecond + nanosPerSecond⟩ : DateTime)
      else ⟨t.year, t.month, t.day, t.hour, t.minute, t.shownSecond, t.nano % nanosPerSecond⟩) = t := by
  obtain ⟨-, -, -, -, -, -, -, -, hsecond, hnano, hleap⟩ := h
  unfold shownSecond
  split
  · next hge =>
    have hsecond := hleap hge
    have hmod : t.nano % nanosPerSecond + nanosPerSecond = t.nano := by
      rw [Nat.mod_eq_sub_mod hge, Nat.mod_eq_of_lt (by omega)]
      omega
    rw [hsecond, if_pos rfl, hmod, ← hsecond]
    exact ⟨by omega, rfl⟩
  · next hlt =>
    rw [if_neg (by omega), Nat.mod_eq_of_lt (by omega)]
    exact ⟨by omega, rfl⟩

/-- **A date and a time that are written are read back**, in UTC. -/
theorem readLocal?_text {t : DateTime} (h : t.Exists) : readLocal? t.text = some (t, 0, []) := by
  have hdays := daysInMonth_le t.year t.month
  obtain ⟨hsecond, ht⟩ := shownSecond_spec h
  have hnano : nano? (fractionText (t.nano % nanosPerSecond) ++ ['Z']) = some (t.nano % nanosPerSecond, ['Z']) :=
    nano?_fractionText (Nat.mod_lt _ (by decide)) fun c hc => Option.some.inj hc ▸ by decide
  obtain ⟨-, -, -, hmonth, -, hday, hhour, hminute, -⟩ := h
  have hoffset : offset? (Text.dropBlanks ['Z']) = some (0, []) := by decide
  have hnumber : ∀ {n : Nat} (rest : List Char), n < 100 → number? 2 (padded 2 n ++ rest) = some (n, rest) :=
    fun rest hn => number?_padded rest (by omega) hn
  rw [readLocal?, text, year?_yearText]
  simp only [bind, Option.bind, mark?_cons _ (show Text.isBlank '-' = false by decide),
    mark?_cons _ (show Text.isBlank ':' = false by decide), hnumber _ (show t.month < 100 by omega),
    hnumber _ (show t.day < 100 by omega), hnumber _ (show t.hour < 100 by omega),
    hnumber _ (show t.minute < 100 by omega), hnumber _ hsecond, hnano, hoffset, ht, beq_self_eq_true, Bool.true_or,
    if_true, pure]

theorem toUtc_zero {t : DateTime} (h : t.Exists) : t.toUtc 0 = t := by
  obtain ⟨-, -, -, -, -, -, hhour, hminute, -⟩ := h
  have hhours : (t.hour * 60 + t.minute) / 60 = t.hour := by omega
  have hminutes : (t.hour * 60 + t.minute) % 60 = t.minute := by omega
  simp only [toUtc, Int.sub_zero, Int.ofNat_eq_natCast, Int.toNat_natCast, hhours, hminutes]
  rw [if_neg (by omega), if_neg (by omega)]

end DateTime

theorem Timestamp.read?_text (t : Timestamp) : read? t.text = some t := by
  rw [read?, text, String.toList_ofList, DateTime.readLocal?_text t.exists_utc]
  simp only [DateTime.toUtc_zero t.exists_utc, ofUtc?, t.exists_utc, decide_true, Bool.true_and, dif_pos]
  rfl

end Backlog
