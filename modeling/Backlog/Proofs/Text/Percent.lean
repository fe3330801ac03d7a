import Backlog.Text.Percent
/-!
# Percent — a query string says what was written into it

An encoded value consists of unreserved characters and percent signs, whatever the value is (`isPlain_percentEncode`).
So nothing in it is taken for a separator, and nothing but its percent signs has to be decoded, which gives back the
bytes of the value one by one (`formDecode_percentEncode`).  A query string is read field by field: the name ends before
the first equals sign, and the value before the next ampersand (`splitQuery_field`).
-/
namespace Backlog
namespace Text

theorem forall_byte {p : UInt8 → Prop} (h : ∀ n, n < 256 → p (UInt8.ofNat n)) (b : UInt8) : p b := by
  have hb := h b.toNat b.toNat_lt_size
  rwa [UInt8.ofNat_toNat] at hb

/-! ## Bytes of a text -/

theorem ofBytes_utf8 (s : String) : ofBytes (s.toList.flatMap String.utf8EncodeChar) = s := by
  have hbytes : (s.toList.flatMap String.utf8EncodeChar).toByteArray = s.toByteArray := by
    show s.toList.utf8Encode = s.toByteArray
    rw [← String.toByteArray_ofList, String.ofList_toList]
  rw [ofBytes, hbytes, String.fromUTF8?, dif_pos s.isValidUTF8]
  rfl

theorem formBytes_cons {c : Char} (hplus : c ≠ '+') (hpercent : c ≠ '%') (r : List Char) :
    formBytes (c :: r) = String.utf8EncodeChar c ++ formBytes r := by
  rw [formBytes]
  · exact hplus
  · exact fun a b r' h => absurd h hpercent

theorem formBytes_eq_utf8 : ∀ {cs : List Char}, (∀ c ∈ cs, c ≠ '+' ∧ c ≠ '%') →
    formBytes cs = cs.flatMap String.utf8EncodeChar
  | [], _ => rfl
  | c :: cs, h => by
    obtain ⟨⟨hplus, hpercent⟩, hcs⟩ := List.forall_mem_cons.1 h
    rw [formBytes_cons hplus hpercent, formBytes_eq_utf8 hcs, List.flatMap_cons]

theorem formDecode_eq_ofList {cs : List Char} (h : ∀ c ∈ cs, c ≠ '+' ∧ c ≠ '%') :
    formDecode cs = String.ofList cs := by
  have hcs := ofBytes_utf8 (String.ofList cs)
  rwa [String.toList_ofList, ← formBytes_eq_utf8 h] at hcs

/-! ## Encoded values -/

def isPlain (c : Char) : Bool :=
  c.isAlphanum || ['-', '_', '.', '~', '%'].contains c

theorem isPlain_hexUpper : ∀ n : Fin 16, isPlain (hexUpper n) = true := by
  decide

theorem isPlain_percentByte (b : UInt8) : ∀ c ∈ percentByte b, isPlain c = true := by
  intro c hc
  rw [percentByte] at hc
  split at hc
  · next hb =>
    rw [List.mem_singleton.1 hc]
    simp only [isUnreserved, Bool.or_eq_true, beq_iff_eq] at hb
    rcases hb with (((hb | hb) | hb) | hb) | hb <;> simp [isPlain, hb]
  · have hlt : b.toNat < 256 := b.toNat_lt_size
    have hhigh := isPlain_hexUpper ⟨b.toNat / 16, by omega⟩
    have hlow := isPlain_hexUpper ⟨b.toNat % 16, by omega⟩
    simp only [List.mem_cons, List.not_mem_nil, or_false] at hc
    rcases hc with rfl | rfl | rfl
    · rfl
    · exact hhigh
    · exact hlow

/-- **An encoded value is plain**, whatever the value is. -/
theorem isPlain_percentEncode {s : String} {c : Char} (hc : c ∈ (percentEncode s).toList) : isPlain c = true := by
  rw [percentEncode, String.toList_ofList, List.mem_flatMap] at hc
  obtain ⟨b, -, hc⟩ := hc
  exact isPlain_percentByte b c hc

theorem ne_of_isPlain {c mark : Char} (hc : isPlain c = true) (hmark : isPlain mark = false) : c ≠ mark := by
  rintro rfl
  cases hc.symm.trans hmark

/-- An unreserved byte is the one byte of its character, and that is no mark of the encoding. -/
theorem of_isUnreserved {b : UInt8} (h : isUnreserved b = true) :
    String.utf8EncodeChar (Char.ofNat b.toNat) = [b] ∧ Char.ofNat b.toNat ≠ '+' ∧ Char.ofNat b.toNat ≠ '%' :=
  forall_byte (p := fun b => isUnreserved b = true →
    String.utf8EncodeChar (Char.ofNat b.toNat) = [b] ∧ Char.ofNat b.toNat ≠ '+' ∧ Char.ofNat b.toNat ≠ '%')
    (by decide +kernel) b h

theorem formBytes_percentByte (b : UInt8) (r : List Char) : formBytes (percentByte b ++ r) = b :: formBytes r := by
  rw [percentByte]
  split
  · next hb =>
    obtain ⟨hbyte, hplus, hpercent⟩ := of_isUnreserved hb
    rw [List.singleton_append, formBytes_cons hplus hpercent, hbyte, List.singleton_append]
  · have hlt : b.toNat < 256 := b.toNat_lt_size
    have hhigh := (hexValue?_digit ⟨b.toNat / 16, by omega⟩).2
    have hlow := (hexValue?_digit ⟨b.toNat % 16, by omega⟩).2
    rw [List.cons_append, List.cons_append, List.singleton_append, formBytes]
    simp only [hhigh, hlow, Nat.div_add_mod, UInt8.ofNat_toNat]

theorem formBytes_flatMap_percentByte : ∀ bs : List UInt8, formBytes (bs.flatMap percentByte) = bs
  | [] => rfl
  | b :: bs => by rw [List.flatMap_cons, formBytes_percentByte, formBytes_flatMap_percentByte bs]

theorem formDecode_percentEncode (s : String) : formDecode (percentEncode s).toList = s := by
  rw [formDecode, percentEncode, String.toList_ofList, formBytes_flatMap_percentByte, ofBytes_utf8]

/-! ## Numbers -/

theorem isPlain_of_isDigit {c : Char} (h : c.isDigit = true) : isPlain c = true := by
  simp [isPlain, Char.isAlphanum, h]

theorem isPlain_decimal {n : Nat} {c : Char} (hc : c ∈ (decimal n).toList) : isPlain c = true := by
  rw [decimal, String.toList_ofList] at hc
  exact isPlain_of_isDigit (List.all_eq_true.1 (all_isDigit_digits n) c hc)

theorem formDecode_decimal (n : Nat) : formDecode (decimal n).toList = decimal n := by
  have hmarks : ∀ c ∈ (decimal n).toList, c ≠ '+' ∧ c ≠ '%' := by
    intro c hc
    rw [decimal, String.toList_ofList] at hc
    have hdigit := List.all_eq_true.1 (all_isDigit_digits n) c hc
    constructor <;> (rintro rfl; exact absurd hdigit (by decide))
  rw [formDecode_eq_ofList hmarks, String.ofList_toList]

/-! ## Fields -/

theorem splitQuery_append (cs rest : List Char) : splitQuery (cs ++ '&' :: rest) = splitQuery cs ++ splitQuery rest := by
  rw [splitQuery, splitAtEvery_append, List.filter_append, List.map_append]
  rfl

def field (name value : String) : List Char :=
  name.toList ++ '=' :: value.toList

theorem splitPair_field {name : String} (h : '=' ∉ name.toList) (value : String) :
    splitPair (field name value) = (name.toList, value.toList) := by
  have hname : ∀ c ∈ name.toList, (c != '=') = true := fun c hc => bne_iff_ne.2 fun he => h (he ▸ hc)
  rw [splitPair, field, List.takeWhile_append_of_pos hname, List.dropWhile_append_of_pos hname]
  simp

theorem mem_field {name value : String} {c : Char} (h : c ∈ field name value) :
    c ∈ name.toList ∨ c = '=' ∨ c ∈ value.toList := by
  rwa [field, List.mem_append, List.mem_cons] at h

def isUnmarked (name : String) : Bool :=
  name.toList.all fun c => !(['&', '=', '+', '%'].contains c)

theorem ne_of_isUnmarked {name : String} (h : isUnmarked name = true) {c : Char} (hc : c ∈ name.toList) :
    c ≠ '&' ∧ c ≠ '=' ∧ c ≠ '+' ∧ c ≠ '%' := by
  simpa using List.all_eq_true.1 h c hc

/-- **A field reads back**: an unmarked name as it is, and a plain value decoded. -/
theorem splitQuery_field {name value : String} (hname : isUnmarked name = true)
    (hvalue : ∀ c ∈ value.toList, isPlain c = true) :
    splitQuery (field name value) = [(name, formDecode value.toList)] := by
  have hpart : ∀ c ∈ field name value, c ≠ '&' := by
    intro c hc
    rcases mem_field hc with hc | rfl | hc
    · exact (ne_of_isUnmarked hname hc).1
    · decide
    · exact ne_of_isPlain (hvalue c hc) (by decide)
  have hequals : '=' ∉ name.toList := fun hc => (ne_of_isUnmarked hname hc).2.1 rfl
  have hmarks : ∀ c ∈ name.toList, c ≠ '+' ∧ c ≠ '%' := fun _ hc => (ne_of_isUnmarked hname hc).2.2
  have hnonempty : [field name value].filter (fun part => !part.isEmpty) = [field name value] := by
    simp [field]
  rw [splitQuery, splitAtEvery_eq_singleton hpart, hnonempty, List.map_singleton, splitPair_field hequals,
    formDecode_eq_ofList hmarks, String.ofList_toList]

theorem splitQuery_percentEncode (name value : String) (hname : isUnmarked name = true) :
    splitQuery (field name (percentEncode value)) = [(name, value)] := by
  rw [splitQuery_field hname fun _ hc => isPlain_percentEncode hc, formDecode_percentEncode]

theorem splitQuery_decimal (name : String) (n : Nat) (hname : isUnmarked name = true) :
    splitQuery (field name (decimal n)) = [(name, decimal n)] := by
  rw [splitQuery_field hname fun _ hc => isPlain_decimal hc, formDecode_decimal]

end Text
end Backlog
