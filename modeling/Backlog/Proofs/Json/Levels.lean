import Backlog.Json.Embedding
/-!
# Levels — a text holds shorter texts

What is read from a text has only strings that are shorter than the text (`isShort_of_read?`): each stands in it between
quotation marks, with an escape at least as long as what it spells.  So a text that is embedded in another is shorter,
and the levels at which `readEmbedded?` stops are never reached: it reads the value of the text and replaces what is
embedded by the values that it reads there (`readEmbedded?_eq`).
-/
namespace Backlog
namespace Json

mutual

/-- Whether the strings in a value, at every depth, have less than `n` characters. -/
def IsShort (n : Nat) : Json → Prop
  | .arr items => AreShort n items
  | .obj members => AreShortMembers n members
  | .str s => s.length < n
  | .null => True
  | .bool _ => True
  | .num _ => True

/-- Whether the strings in several values have less than `n` characters. -/
def AreShort (n : Nat) : List Json → Prop
  | [] => True
  | v :: vs => IsShort n v ∧ AreShort n vs

/-- Whether the strings in the values of members have less than `n` characters. -/
def AreShortMembers (n : Nat) : List (String × Json) → Prop
  | [] => True
  | (_, v) :: ms => IsShort n v ∧ AreShortMembers n ms

end

/-! ## What is left of a text -/

theorem length_skipBlanks_le (cs : List Char) : (skipBlanks cs).length ≤ cs.length :=
  (List.dropWhile_sublist _).length_le

theorem length_digitRun_le (cs : List Char) : (digitRun cs).2.length ≤ cs.length :=
  (List.dropWhile_sublist _).length_le

theorem length_of_map_cons {c : Char} {x : Option (List Char × List Char)} {n : Nat} {t r : List Char}
    (hx : ∀ {t r : List Char}, x = some (t, r) → t.length + r.length < n)
    (h : (x.map fun (s, t) => (c :: s, t)) = some (t, r)) : t.length + r.length < n + 1 := by
  obtain ⟨⟨s, rest⟩, hs, he⟩ := Option.map_eq_some_iff.1 h
  cases he
  have hlength := hx hs
  rw [List.length_cons]
  omega

/-- The characters of a string and what follows it are less than what both were read from. -/
theorem length_of_stringBody {cs t r : List Char} (h : stringBody cs = some (t, r)) :
    t.length + r.length < cs.length := by
  fun_induction stringBody cs generalizing t r with
  | case2 rest =>
    cases h
    rw [List.length_nil, Nat.zero_add]
    exact Nat.lt_succ_self _
  | case5 _ _ _ _ _ _ _ _ _ _ _ _ _ _ _ ih =>
    have hlength := length_of_map_cons ih h
    simp only [List.length_cons]
    omega
  | case9 _ _ _ _ _ _ _ _ _ ih =>
    have hlength := length_of_map_cons ih h
    simp only [List.length_cons]
    omega
  | case10 _ _ _ _ _ ih =>
    have hlength := length_of_map_cons ih h
    simp only [List.length_cons]
    omega
  | case13 _ _ _ _ _ _ ih => exact length_of_map_cons ih h
  | _ => cases h

theorem length_of_afterWord? {w cs r : List Char} (h : afterWord? w cs = some r) : r.length ≤ cs.length := by
  unfold afterWord? at h
  split at h
  · cases h
    exact (List.drop_sublist _ _).length_le
  · cases h

theorem length_of_wholePart {cs ds r : List Char} (h : wholePart cs = some (ds, r)) : r.length ≤ cs.length := by
  unfold wholePart at h
  split at h
  · cases h
    exact Nat.le_succ _
  · have hrun := length_digitRun_le cs
    split at h
    · cases h
    · rw [Option.some.inj h] at hrun
      exact hrun

theorem length_of_fractionPart {cs ds r : List Char} (h : fractionPart cs = some (ds, r)) : r.length ≤ cs.length := by
  unfold fractionPart at h
  split at h
  · next rest =>
    have hrun := length_digitRun_le rest
    split at h
    · cases h
    · rw [Option.some.inj h] at hrun
      exact Nat.le_succ_of_le hrun
  · cases h
    exact Nat.le_refl _

theorem length_of_exponentDigits {negative : Bool} {cs r : List Char} {e : Option Int}
    (h : exponentDigits negative cs = some (e, r)) : r.length ≤ cs.length := by
  have hrun := length_digitRun_le cs
  unfold exponentDigits at h
  split at h
  · cases h
  · next hdigits =>
    cases h
    rw [hdigits] at hrun
    exact hrun

theorem length_of_exponentPart {cs r : List Char} {e : Option Int} (h : exponentPart cs = some (e, r)) :
    r.length ≤ cs.length := by
  unfold exponentPart at h
  split at h
  · split at h
    · refine Nat.le_succ_of_le ?_
      split at h
      · exact Nat.le_succ_of_le (length_of_exponentDigits h)
      · exact Nat.le_succ_of_le (length_of_exponentDigits h)
      · exact length_of_exponentDigits h
    · cases h
      exact Nat.le_refl _
  · cases h
    exact Nat.le_refl _

theorem length_of_unsignedNumber {negative : Bool} {cs r : List Char} {n : Number}
    (h : unsignedNumber negative cs = some (n, r)) : r.length ≤ cs.length := by
  obtain ⟨⟨whole, r₁⟩, hwhole, h⟩ := Option.bind_eq_some_iff.1 h
  obtain ⟨⟨fraction, r₂⟩, hfraction, h⟩ := Option.bind_eq_some_iff.1 h
  obtain ⟨⟨exponent, r₃⟩, hexponent, h⟩ := Option.bind_eq_some_iff.1 h
  cases h
  exact Nat.le_trans (length_of_exponentPart hexponent)
    (Nat.le_trans (length_of_fractionPart hfraction) (length_of_wholePart hwhole))

theorem length_of_number {cs r : List Char} {n : Number} (h : number cs = some (n, r)) : r.length ≤ cs.length := by
  unfold number at h
  split at h
  · exact Nat.le_succ_of_le (length_of_unsignedNumber h)
  · exact length_of_unsignedNumber h

theorem length_of_string {cs r : List Char} {text : Option String}
    (h : Scrutiny.whole.string cs = some (text, r)) :
    (∃ s : String, text = some s ∧ s.length < cs.length) ∧ r.length < cs.length := by
  unfold Scrutiny.string at h
  split at h
  · next t rest ht =>
    have hlength := length_of_stringBody ht
    cases h
    refine ⟨⟨_, rfl, ?_⟩, by omega⟩
    rw [String.length_ofList]
    omega
  · cases h

theorem length_of_memberName {cs r : List Char} {name : Option String} (h : memberName .whole cs = some (name, r)) :
    r.length ≤ cs.length := by
  have hblanks := length_skipBlanks_le cs
  unfold memberName at h
  split at h
  · next rest hquote =>
    split at h
    · cases h
    · next name' rest' hname =>
      have hstring := (length_of_string hname).2
      have hrest := length_skipBlanks_le rest'
      split at h
      · next hcolon =>
        cases h
        rw [hquote, List.length_cons] at hblanks
        rw [hcolon, List.length_cons] at hrest
        omega
      · cases h
  · cases h

/-! ## The strings of a value -/

theorem isShort_of_word {n : Nat} {c : Char} {w cs r : List Char} {u v : Json}
    (h : ((afterWord? w cs).map fun t => (u, t)) = some (v, r)) (hu : u.IsShort n) :
    v.IsShort n ∧ r.length ≤ (c :: cs).length := by
  obtain ⟨t, ht, he⟩ := Option.map_eq_some_iff.1 h
  cases he
  exact ⟨hu, Nat.le_succ_of_le (length_of_afterWord? ht)⟩

theorem isShort_of_scalar {n : Nat} {cs r : List Char} {v : Json} (hn : cs.length ≤ n)
    (h : scalar .whole cs = some (v, r)) : v.IsShort n ∧ r.length ≤ cs.length := by
  unfold scalar at h
  split at h
  · obtain ⟨⟨text, t⟩, ht, he⟩ := Option.map_eq_some_iff.1 h
    cases he
    obtain ⟨⟨s, rfl, hs⟩, hrest⟩ := length_of_string ht
    rw [List.length_cons] at hn ⊢
    exact ⟨by rw [ofString, IsShort]; omega, by omega⟩
  · exact isShort_of_word h trivial
  · exact isShort_of_word h trivial
  · exact isShort_of_word h trivial
  · split at h
    · next t ht =>
      split at h
      · cases h
        exact ⟨trivial, length_of_number ht⟩
      · cases h
    · cases h

theorem areShortMembers_of_mapM {n : Nat} :
    ∀ {ms : List (Option String × Json)} {ns : List (String × Json)},
      (ms.mapM fun m => m.1.map fun name => (name, m.2)) = some ns → AreShort n (ms.map Prod.snd) → AreShortMembers n ns
  | [], ns, h, _ => by
    cases h
    trivial
  | m :: ms, ns, h, hshort => by
    rw [List.mapM_cons] at h
    obtain ⟨m', hm, h⟩ := Option.bind_eq_some_iff.1 h
    obtain ⟨ms', hms, h⟩ := Option.bind_eq_some_iff.1 h
    obtain ⟨name, -, rfl⟩ := Option.map_eq_some_iff.1 hm
    cases h
    exact ⟨hshort.1, areShortMembers_of_mapM hms hshort.2⟩

theorem isShort_ofMembers {n : Nat} {ms : List (Option String × Json)} (h : AreShort n (ms.map Prod.snd)) :
    (ofMembers ms).IsShort n := by
  unfold ofMembers
  split
  · next ns hns => exact areShortMembers_of_mapM hns h
  · trivial

section

variable {n count : Nat} {item : List Char → Option (Json × List Char)}
  (hitem : ∀ {cs v r}, cs.length ≤ n → item cs = some (v, r) → v.IsShort n ∧ r.length ≤ cs.length)
include hitem

theorem areShort_of_items :
    ∀ {count : Nat} {cs r : List Char} {vs : List Json}, cs.length ≤ n → items item count cs = some (vs, r) →
      AreShort n vs ∧ r.length ≤ cs.length
  | 0, _, _, _, _, h => by cases h
  | count + 1, cs, r, vs, hn, h => by
    rw [items] at h
    split at h
    · cases h
    · next v rest hv =>
      obtain ⟨hshort, hlength⟩ := hitem hn hv
      have hblanks := length_skipBlanks_le rest
      split at h
      · next rest' hcomma =>
        obtain ⟨⟨vs', t⟩, hvs, he⟩ := Option.map_eq_some_iff.1 h
        cases he
        rw [hcomma, List.length_cons] at hblanks
        obtain ⟨hshorts, hlengths⟩ := areShort_of_items (by omega) hvs
        exact ⟨⟨hshort, hshorts⟩, by omega⟩
      · next rest' hclose =>
        cases h
        rw [hclose, List.length_cons] at hblanks
        exact ⟨⟨hshort, trivial⟩, by omega⟩
      · cases h

theorem areShort_of_members :
    ∀ {count : Nat} {cs r : List Char} {ms : List (Option String × Json)}, cs.length ≤ n →
      members .whole item count cs = some (ms, r) → AreShort n (ms.map Prod.snd) ∧ r.length ≤ cs.length
  | 0, _, _, _, _, h => by cases h
  | count + 1, cs, r, ms, hn, h => by
    rw [members] at h
    split at h
    · cases h
    · next name rest hname =>
      have hbefore := length_of_memberName hname
      split at h
      · cases h
      · next v rest' hv =>
        obtain ⟨hshort, hlength⟩ := hitem (by omega) hv
        have hblanks := length_skipBlanks_le rest'
        split at h
        · next rest'' hcomma =>
          obtain ⟨⟨ms', t⟩, hms, he⟩ := Option.map_eq_some_iff.1 h
          cases he
          rw [hcomma, List.length_cons] at hblanks
          obtain ⟨hshorts, hlengths⟩ := areShort_of_members (by omega) hms
          exact ⟨⟨hshort, hshorts⟩, by omega⟩
        · next rest'' hclose =>
          cases h
          rw [hclose, List.length_cons] at hblanks
          exact ⟨⟨hshort, trivial⟩, by omega⟩
        · cases h

theorem isShort_of_arrayBody {cs r : List Char} {v : Json} (hn : cs.length ≤ n)
    (h : arrayBody item count cs = some (v, r)) : v.IsShort n ∧ r.length ≤ cs.length := by
  have hblanks := length_skipBlanks_le cs
  unfold arrayBody at h
  split at h
  · next rest hclose =>
    cases h
    rw [hclose, List.length_cons] at hblanks
    exact ⟨trivial, by omega⟩
  · obtain ⟨⟨vs, t⟩, hvs, he⟩ := Option.map_eq_some_iff.1 h
    cases he
    obtain ⟨hshorts, hlength⟩ := areShort_of_items hitem (by omega) hvs
    exact ⟨hshorts, by omega⟩

theorem isShort_of_objectBody {cs r : List Char} {v : Json} (hn : cs.length ≤ n)
    (h : objectBody .whole item count cs = some (v, r)) : v.IsShort n ∧ r.length ≤ cs.length := by
  have hblanks := length_skipBlanks_le cs
  unfold objectBody at h
  split at h
  · next rest hclose =>
    cases h
    rw [hclose, List.length_cons] at hblanks
    exact ⟨trivial, by omega⟩
  · obtain ⟨⟨ms, t⟩, hms, he⟩ := Option.map_eq_some_iff.1 h
    cases he
    obtain ⟨hshorts, hlength⟩ := areShort_of_members hitem (by omega) hms
    exact ⟨isShort_ofMembers hshorts, by omega⟩

end

/-- **What is read** at the start of a text has only strings that are shorter than the text. -/
theorem isShort_of_value {n count : Nat} :
    ∀ {depth : Nat} {cs r : List Char} {v : Json}, cs.length ≤ n → value .whole count depth cs = some (v, r) →
      v.IsShort n ∧ r.length ≤ cs.length
  | 0, cs, r, v, hn, h => by
    have hblanks := length_skipBlanks_le cs
    rw [value] at h
    split at h
    · cases h
    · cases h
    · obtain ⟨hshort, hlength⟩ := isShort_of_scalar (Nat.le_trans hblanks hn) h
      exact ⟨hshort, Nat.le_trans hlength hblanks⟩
  | depth + 1, cs, r, v, hn, h => by
    have hblanks := length_skipBlanks_le cs
    rw [value] at h
    split at h
    · next rest hopen =>
      have hrest : rest.length < cs.length := by rwa [hopen] at hblanks
      obtain ⟨hshort, hlength⟩ := isShort_of_arrayBody isShort_of_value (Nat.le_trans (Nat.le_of_lt hrest) hn) h
      exact ⟨hshort, Nat.le_trans hlength (Nat.le_of_lt hrest)⟩
    · next rest hopen =>
      have hrest : rest.length < cs.length := by rwa [hopen] at hblanks
      obtain ⟨hshort, hlength⟩ := isShort_of_objectBody isShort_of_value (Nat.le_trans (Nat.le_of_lt hrest) hn) h
      exact ⟨hshort, Nat.le_trans hlength (Nat.le_of_lt hrest)⟩
    · obtain ⟨hshort, hlength⟩ := isShort_of_scalar (Nat.le_trans hblanks hn) h
      exact ⟨hshort, Nat.le_trans hlength hblanks⟩

/-- **The strings of a text** are shorter than the text. -/
theorem isShort_of_read? {s : String} {v : Json} (h : read? s = some v) : v.IsShort s.length := by
  unfold read? readWith? at h
  split at h
  · next v' r hv =>
    split at h
    · cases h
      exact (isShort_of_value (Nat.le_refl _) hv).1
    · cases h
  · cases h

/-! ## As many levels as a text has characters -/

theorem embedded?_congr {n : Nat} {read read' : String → Option Json}
    (hread : ∀ s : String, s.length < n → read s = read' s) {ms : List (String × Json)} (h : AreShortMembers n ms) :
    embedded? read ms = embedded? read' ms := by
  unfold embedded?
  split
  · exact hread _ h.1
  · rfl

mutual

theorem expand?_congr {n : Nat} {read read' : String → Option Json}
    (hread : ∀ s : String, s.length < n → read s = read' s) :
    ∀ v : Json, v.IsShort n → expand? read v = expand? read' v
  | .arr items, h => by
    rw [expand?, expand?, expandItems?_congr hread items h]
  | .obj members, h => by
    rw [expand?, expand?, expandMembers?_congr hread members h, embedded?_congr hread h]
  | .null, _ => rfl
  | .bool _, _ => rfl
  | .num _, _ => rfl
  | .str _, _ => rfl

theorem expandItems?_congr {n : Nat} {read read' : String → Option Json}
    (hread : ∀ s : String, s.length < n → read s = read' s) :
    ∀ vs : List Json, AreShort n vs → expandItems? read vs = expandItems? read' vs
  | [], _ => rfl
  | v :: vs, h => by
    rw [expandItems?, expandItems?, expand?_congr hread v h.1, expandItems?_congr hread vs h.2]

theorem expandMembers?_congr {n : Nat} {read read' : String → Option Json}
    (hread : ∀ s : String, s.length < n → read s = read' s) :
    ∀ ms : List (String × Json), AreShortMembers n ms → expandMembers? read ms = expandMembers? read' ms
  | [], _ => rfl
  | (_, v) :: ms, h => by
    rw [expandMembers?, expandMembers?, expand?_congr hread v h.1, expandMembers?_congr hread ms h.2]

end

theorem readLevels?_eq :
    ∀ {levels levels' : Nat} {s : String}, s.length < levels → s.length < levels' →
      readLevels? levels s = readLevels? levels' s
  | levels + 1, levels' + 1, s, h, h' => by
    rw [readLevels?, readLevels?]
    cases hv : read? s with
    | none => rfl
    | some v =>
      -- what is embedded is shorter than the text, so there are levels enough for it, too
      have hlevels : ∀ t : String, t.length < s.length → readLevels? levels t = readLevels? levels' t := fun t ht =>
        readLevels?_eq (Nat.lt_of_lt_of_le ht (Nat.le_of_lt_succ h)) (Nat.lt_of_lt_of_le ht (Nat.le_of_lt_succ h'))
      exact expand?_congr hlevels v (isShort_of_read? hv)

/-- **The value of a text** is what is read from it, with the values of the texts it holds. -/
theorem readEmbedded?_eq (s : String) : readEmbedded? s = (read? s).bind (expand? readEmbedded?) := by
  rw [readEmbedded?, readLevels?]
  cases hv : read? s with
  | none => rfl
  | some v =>
    have hread : ∀ t : String, t.length < s.length → readLevels? s.length t = readEmbedded? t := fun t ht =>
      readLevels?_eq ht (Nat.lt_succ_self _)
    exact expand?_congr hread v (isShort_of_read? hv)

end Json
end Backlog
