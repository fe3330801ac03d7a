import Backlog.Filter.Conversion
import Backlog.Proofs.Outcome
import Backlog.Proofs.Text.Numeral
import Backlog.Proofs.Uuid
/-!
# StoredForm — one stored form for each value

Conversion is to make texts comparable, so it has to give the same stored form to texts that stand for the same value and
different ones to all others.  What a text stands for depends on its kind: the digits of a UUID or else the identifier
itself, a number, or a word in whatever case (`valueOf`).  The stored form of a text stands for the same as the text
(`valueOf_of_standard`), and it depends on nothing else than that (`standard_congr`).  That it is stable, and that it
separates values, follows from these two for all kinds at once (`standard_isCanonical`).
-/
namespace Backlog
namespace Filter
namespace Conversion

variable {field field' raw a b v x y : String} {kind : FieldKind}

/-! ## What texts stand for -/

/-- Whether a text stands for a value of some kind. -/
def HasValue : FieldKind → String → Prop
  | .identifier, _ | .text, _ => True
  | .number, raw => ∃ n ≤ Text.maxWord, Text.IsNumeral (trimmed raw) n
  | .enumeration values, raw => ∃ v ∈ values, equalIgnoringCase v.toList (trimmed raw) = true

/-- Whether two texts stand for the same value of some kind. -/
def SameValue : FieldKind → String → String → Prop
  | .identifier, a, b => a = b ∨ ∃ ds ds', Uuid.IsDigits ds ∧ Uuid.IsDigits ds' ∧ Uuid.Writes ds (trimmed a) ∧
      Uuid.Writes ds' (trimmed b) ∧ equalIgnoringCase ds ds' = true
  | .text, a, b => a = b
  | .number, a, b => ∃ n, Text.IsNumeral (trimmed a) n ∧ Text.IsNumeral (trimmed b) n
  | .enumeration _, a, b => equalIgnoringCase (trimmed a) (trimmed b) = true

/-- What the stored form of a text depends on. -/
inductive Denoted
  | uuid (ds : List Char)
  | text (raw : String)
  | number (n : Option Nat)
  | word (cs : List Char)

def valueOf : FieldKind → String → Denoted
  | .identifier, raw => (Uuid.digits? (trimmed raw)).elim (.text raw) .uuid
  | .text, raw => .text raw
  | .number, raw => .number (Text.readWord? (trimmed raw))
  | .enumeration _, raw => .word ((trimmed raw).map Char.toLower)

theorem equalIgnoringCase_iff {a b : List Char} :
    equalIgnoringCase a b = true ↔ a.map Char.toLower = b.map Char.toLower :=
  beq_iff_eq

theorem identifier_eq_elim (raw : String) :
    identifier raw = (Uuid.digits? (trimmed raw)).elim raw fun ds => String.ofList (Uuid.render ds) := by
  unfold identifier
  cases Uuid.digits? (trimmed raw) <;> rfl

theorem standard_number_eq_ok :
    standard field .number raw = .ok v ↔ ∃ n, Text.readWord? (trimmed raw) = some n ∧ Text.decimal n = v := by
  unfold standard
  cases Text.readWord? (trimmed raw) <;> simp

theorem standard_enumeration_eq_ok {values : List String} : standard field (.enumeration values) raw = .ok v ↔
    (values.find? fun w => equalIgnoringCase w.toList (trimmed raw)) = some v := by
  unfold standard
  cases h : values.find? fun w => equalIgnoringCase w.toList (trimmed raw) <;> simp [h]

theorem digits?_trimmed_identifier (raw : String) :
    Uuid.digits? (trimmed (identifier raw)) = Uuid.digits? (trimmed raw) := by
  rw [identifier_eq_elim]
  cases h : Uuid.digits? (trimmed raw) with
  | none => exact h
  | some ds => rw [Option.elim_some, trimmed, String.toList_ofList, Uuid.trim_render h, Uuid.digits?_render h]

/-- A word that is found in a list has no blanks at its ends, since it differs by case only from a text that has none. -/
theorem trimmed_of_equalIgnoringCase (h : equalIgnoringCase v.toList (trimmed raw) = true) : trimmed v = v.toList := by
  have hraw : Text.IsTrimmed (trimmed raw) := Text.isTrimmed_trim raw.toList
  rw [← Text.isTrimmed_map_toLower, ← equalIgnoringCase_iff.1 h, Text.isTrimmed_map_toLower] at hraw
  exact hraw.trim_eq

/-- **The stored form of a text** stands for what the text stands for. -/
theorem valueOf_of_standard (h : standard field kind raw = .ok v) : valueOf kind v = valueOf kind raw := by
  cases kind with
  | identifier =>
    cases h
    rw [valueOf, valueOf, digits?_trimmed_identifier, identifier_eq_elim]
    cases Uuid.digits? (trimmed raw) <;> rfl
  | text =>
    cases h
    rfl
  | number =>
    obtain ⟨n, hn, rfl⟩ := standard_number_eq_ok.1 h
    have hfits : n ≤ Text.maxWord := (Text.readWord?_eq_some_iff.1 hn).2
    rw [valueOf, valueOf, hn, trimmed, Text.readWord?_trim_decimal hfits]
  | enumeration values =>
    -- entries with blanks at their ends are never found, so the one that is found can be looked up itself
    have hcase := List.find?_some (standard_enumeration_eq_ok.1 h)
    rw [valueOf, valueOf, trimmed_of_equalIgnoringCase hcase, equalIgnoringCase_iff.1 hcase]

theorem valueOf_identifier_eq_iff : valueOf .identifier a = valueOf .identifier b ↔
    a = b ∨ ∃ ds, Uuid.digits? (trimmed a) = some ds ∧ Uuid.digits? (trimmed b) = some ds := by
  rw [valueOf, valueOf]
  constructor
  · intro h
    cases ha : Uuid.digits? (trimmed a) with
    | none =>
      cases hb : Uuid.digits? (trimmed b) with
      | none =>
        rw [ha, hb] at h
        exact .inl (Denoted.text.inj h)
      | some ds =>
        rw [ha, hb] at h
        cases h
    | some ds =>
      cases hb : Uuid.digits? (trimmed b) with
      | none =>
        rw [ha, hb] at h
        cases h
      | some ds' =>
        rw [ha, hb] at h
        exact .inr ⟨ds, rfl, congrArg some (Denoted.uuid.inj h).symm⟩
  · rintro (rfl | ⟨ds, ha, hb⟩)
    · rfl
    · rw [ha, hb]
      rfl

/-- **Texts that stand for the same** have the same stored form. -/
theorem standard_congr (h : valueOf kind a = valueOf kind b) (ha : standard field kind a = .ok x) :
    standard field' kind b = .ok x := by
  cases kind with
  | identifier =>
    rcases valueOf_identifier_eq_iff.1 h with rfl | ⟨ds, hda, hdb⟩
    · exact ha
    · cases ha
      refine congrArg Except.ok ?_
      rw [identifier_eq_elim, identifier_eq_elim, hda, hdb]
      rfl
  | text =>
    cases h
    exact ha
  | number =>
    rw [standard_number_eq_ok] at ha ⊢
    rwa [← Denoted.number.inj h]
  | enumeration values =>
    rw [standard_enumeration_eq_ok] at ha ⊢
    simp only [equalIgnoringCase, ← Denoted.word.inj h]
    exact ha

theorem valueOf_eq_iff (ha : standard field kind a = .ok x) : valueOf kind a = valueOf kind b ↔ SameValue kind a b := by
  cases kind with
  | identifier =>
    refine valueOf_identifier_eq_iff.trans (or_congr_right ?_)
    simp only [Uuid.digits?_eq_some_iff, equalIgnoringCase_iff]
    constructor
    · rintro ⟨_, ⟨ds, hds, hwa, rfl⟩, ⟨ds', hds', hwb, hcase⟩⟩
      exact ⟨ds, ds', hds, hds', hwa, hwb, hcase.symm⟩
    · rintro ⟨ds, ds', hds, hds', hwa, hwb, hcase⟩
      exact ⟨_, ⟨ds, hds, hwa, rfl⟩, ⟨ds', hds', hwb, hcase.symm⟩⟩
  | text => exact ⟨Denoted.text.inj, congrArg Denoted.text⟩
  | number =>
    obtain ⟨n, hn, -⟩ := standard_number_eq_ok.1 ha
    obtain ⟨hna, hfits⟩ := Text.readWord?_eq_some_iff.1 hn
    rw [valueOf, valueOf, hn, Denoted.number.injEq, eq_comm, Text.readWord?_eq_some_iff, SameValue]
    constructor
    · exact fun hnb => ⟨n, hna, hnb.1⟩
    · rintro ⟨m, hma, hmb⟩
      exact ⟨hna.unique hma ▸ hmb, hfits⟩
  | enumeration values => rw [valueOf, valueOf, Denoted.word.injEq, SameValue, equalIgnoringCase_iff]

theorem exists_standard_iff : (∃ v, standard field kind raw = .ok v) ↔ HasValue kind raw := by
  cases kind with
  | identifier | text => exact ⟨fun _ => trivial, fun _ => ⟨_, rfl⟩⟩
  | number =>
    simp only [standard_number_eq_ok, Text.readWord?_eq_some_iff, HasValue]
    constructor
    · rintro ⟨_, n, ⟨hn, hfits⟩, -⟩
      exact ⟨n, hfits, hn⟩
    · rintro ⟨n, hfits, hn⟩
      exact ⟨_, n, ⟨hn, hfits⟩, rfl⟩
  | enumeration values =>
    simp only [standard_enumeration_eq_ok, HasValue]
    rw [← Option.isSome_iff_exists, List.find?_isSome]

/-! ## The form -/

/-- Whether stored forms of some kind are canonical: exactly the texts that stand for a value have one, it is its own
stored form, and two texts have the same exactly if they stand for the same value. -/
structure IsCanonical (kind : FieldKind) : Prop where
  exists_iff : ∀ field raw, (∃ v, standard field kind raw = .ok v) ↔ HasValue kind raw
  stable : ∀ field field' raw v, standard field kind raw = .ok v → standard field' kind v = .ok v
  eq_iff : ∀ field field' a b x y, standard field kind a = .ok x → standard field' kind b = .ok y →
    (x = y ↔ SameValue kind a b)

/-- **Conversion gives canonical forms**, for the texts of every kind. -/
theorem standard_isCanonical (kind : FieldKind) : IsCanonical kind where
  exists_iff _ _ := exists_standard_iff
  stable _ _ _ _ h := standard_congr (valueOf_of_standard h).symm h
  eq_iff field field' a b x y ha hb := by
    rw [← valueOf_eq_iff ha]
    constructor
    · rintro rfl
      exact (valueOf_of_standard ha).symm.trans (valueOf_of_standard hb)
    · intro hsame
      exact Except.ok.inj ((standard_congr hsame ha).symm.trans hb)

theorem standard_isCanonical_boundaries :
    SameValue .identifier "\x7b6A1B2C3D-4E5F-4071-8293-A4B5C6D7E8F9\x7d " "6a1b2c3d4e5f40718293a4b5c6d7e8f9" ∧
      standard "id" .identifier (identifier "urn:uuid:6A1B2C3D-4E5F-4071-8293-A4B5C6D7E8F9") =
        .ok "6a1b2c3d-4e5f-4071-8293-a4b5c6d7e8f9" ∧
      HasValue .number "+018446744073709551615" ∧ ¬HasValue .number "18446744073709551616" := by
  refine ⟨?_, ?_, ?_, ?_⟩
  · have hbraced : standard "space" .identifier "\x7b6A1B2C3D-4E5F-4071-8293-A4B5C6D7E8F9\x7d " =
        .ok "6a1b2c3d-4e5f-4071-8293-a4b5c6d7e8f9" := Outcome.toOption_eq_some.1 (by decide +kernel)
    have hplain : standard "id" .identifier "6a1b2c3d4e5f40718293a4b5c6d7e8f9" =
        .ok "6a1b2c3d-4e5f-4071-8293-a4b5c6d7e8f9" := Outcome.toOption_eq_some.1 (by decide +kernel)
    exact ((standard_isCanonical .identifier).eq_iff _ _ _ _ _ _ hbraced hplain).1 rfl
  · have hurn : standard "space" .identifier "urn:uuid:6A1B2C3D-4E5F-4071-8293-A4B5C6D7E8F9" =
        .ok "6a1b2c3d-4e5f-4071-8293-a4b5c6d7e8f9" := Outcome.toOption_eq_some.1 (by decide +kernel)
    rw [Except.ok.inj hurn]
    exact (standard_isCanonical .identifier).stable "space" "id" _ _ hurn
  · have hlargest : standard "number" .number "+018446744073709551615" = .ok "18446744073709551615" :=
      Outcome.toOption_eq_some.1 (by decide +kernel)
    exact ((standard_isCanonical .number).exists_iff "number" _).1 ⟨_, hlargest⟩
  · rw [← (standard_isCanonical .number).exists_iff "number"]
    rintro ⟨v, hv⟩
    have hnone : (standard "number" .number "18446744073709551616").toOption = none := by decide +kernel
    rw [hv] at hnone
    cases hnone

end Conversion
end Filter
end Backlog
