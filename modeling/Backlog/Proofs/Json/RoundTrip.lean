import Backlog.Json.Printer
import Backlog.Json.Reader
/-!
# RoundTrip — what is written is read back

The reader undoes the printer: the text of a value, in any layout and before any text that a number cannot go on with,
reads as that value and leaves the rest, as a whole as well as for its known parts (`value_render`).  The numbers are confined to natural ones of 64 bits; of
strings nothing is asked.  The proof goes over the value as the printer does, and blanks are dealt with by two facts:
a layout begins with nothing but blanks, and whoever reads a value skips them.

The reader counts down the levels of nesting, and the items of each list.  The first bound is a condition on the value
(`depth`), the second holds of any text that is read as a whole, because each item has a character of its own.
-/
namespace Backlog
namespace Json

/-! ## Strings -/

theorem unit?_hexLower {n : Nat} (h : n < 0x20) :
    unit? '0' '0' (Text.hexLower (n / 16)) (Text.hexLower (n % 16)) = some n := by
  have hhigh := (Text.hexValue?_digit ⟨n / 16, by omega⟩).1
  have hlow := (Text.hexValue?_digit ⟨n % 16, by omega⟩).1
  have hzero : Text.hexValue? '0' = some 0 := by decide
  dsimp only at hhigh hlow
  rw [unit?, hhigh, hlow, hzero]
  show some _ = some n
  congr 1
  omega

theorem stringBody_escape (c : Char) (rest : List Char) :
    stringBody (escape c ++ rest) = (stringBody rest).map fun (s, t) => (c :: s, t) := by
  unfold escape
  iterate 7
    split
    · next h =>
      rw [eq_of_beq h]
      rfl
  split
  · next h =>
    have hhigh : isHighSurrogate c.toNat = false := by simp [isHighSurrogate]; omega
    have hlow : isLowSurrogate c.toNat = false := by simp [isLowSurrogate]; omega
    show stringBody
      ('\\' :: 'u' :: '0' :: '0' :: Text.hexLower (c.toNat / 16) :: Text.hexLower (c.toNat % 16) :: rest) = _
    rw [stringBody, unit?_hexLower h]
    simp only [hhigh, hlow, Bool.false_eq_true, if_false, Char.ofNat_toNat]
  · next hquote hslash _ _ _ _ _ h =>
    have hquote : c ≠ '"' := fun he => hquote (beq_iff_eq.2 he)
    have hslash : c ≠ '\\' := fun he => hslash (beq_iff_eq.2 he)
    rw [List.singleton_append, stringBody, if_neg h]
    · exact hquote
    · exact fun _ _ _ _ _ he => (hslash he).elim
    · exact fun _ _ he => (hslash he).elim

theorem stringBody_flatMap_escape (cs rest : List Char) :
    stringBody (cs.flatMap escape ++ '"' :: rest) = some (cs, rest) := by
  induction cs with
  | nil => rfl
  | cons c cs ih => rw [List.flatMap_cons, List.append_assoc, stringBody_escape, ih, Option.map_some]

/-- **A string that is written is read back**, whatever characters it has. -/
theorem string_renderString (s : Scrutiny) (n : String) (rest : List Char) :
    s.string (n.toList.flatMap escape ++ '"' :: rest) = some (some n, rest) := by
  unfold Scrutiny.string
  rw [stringBody_flatMap_escape]
  simp only [String.ofList_toList]

/-! ## Numbers -/

/-- A text that does not go on with what could belong to a number. -/
def Ends (rest : List Char) : Prop :=
  ∀ c ∈ rest.head?, c.isDigit = false ∧ c ≠ '.' ∧ c ≠ 'e' ∧ c ≠ 'E'

theorem ends_nil : Ends [] := nofun

theorem ends_cons {c : Char} {rest : List Char} (h : c.isDigit = false ∧ c ≠ '.' ∧ c ≠ 'e' ∧ c ≠ 'E') :
    Ends (c :: rest) := fun _ hc => Option.some.inj hc ▸ h

theorem ne_of_isDigit {c d : Char} (hc : c.isDigit = true) (hd : d.isDigit = false) : c ≠ d := fun he => by
  rw [he, hd] at hc
  cases hc

theorem isBlank_of_isDigit {c : Char} (h : c.isDigit = true) : isBlank c = false := by
  have hne : ∀ d : Char, d.isDigit = false → (c == d) = false := fun d hd => beq_eq_false_iff_ne.2 (ne_of_isDigit h hd)
  rw [isBlank, hne ' ' rfl, hne '\n' rfl, hne '\r' rfl, hne '\t' rfl]
  rfl

theorem exists_digits (n : Nat) : ∃ d ds, Text.digits n = d :: ds ∧ d.isDigit = true := by
  obtain ⟨d, ds, hds⟩ := List.exists_cons_of_ne_nil (Text.digits_ne_nil n)
  exact ⟨d, ds, hds, List.all_eq_true.1 (Text.all_isDigit_digits n) d (hds ▸ List.mem_cons_self)⟩

theorem ends_lead (layout : Layout) {c : Char} {rest : List Char}
    (h : c.isDigit = false ∧ c ≠ '.' ∧ c ≠ 'e' ∧ c ≠ 'E') : Ends (layout.lead ++ c :: rest) := by
  cases layout with
  | compact => exact ends_cons h
  | lines level => exact ends_cons (by decide)

theorem digitRun_append {ds rest : List Char} (hds : ds.all Char.isDigit = true) (hrest : Ends rest) :
    digitRun (ds ++ rest) = (ds, rest) := by
  have hds : ∀ c ∈ ds, Char.isDigit c = true := List.all_eq_true.1 hds
  rw [digitRun, List.takeWhile_append_of_pos hds, List.dropWhile_append_of_pos hds]
  cases rest with
  | nil => simp
  | cons c rest => simp [(hrest c rfl).1]

theorem head?_digits_ne {n : Nat} (h : 0 < n) : (Text.digits n).head? ≠ some '0' := by
  induction n using Nat.strongRecOn with
  | ind n ih =>
    rw [Text.digits, Nat.toDigits_eq_if (by omega)]
    split
    · next hlt =>
      have hall : ∀ d : Fin 10, 0 < d.val → [d.val.digitChar].head? ≠ some '0' := by decide
      exact hall ⟨n, hlt⟩ h
    · next hge =>
      have hhead : (Nat.toDigits 10 (n / 10)).head? ≠ some '0' := ih (n / 10) (by omega) (by omega)
      obtain ⟨d, ds, hds⟩ := List.exists_cons_of_ne_nil (Nat.toDigits_ne_nil : Nat.toDigits 10 (n / 10) ≠ [])
      rw [hds] at hhead ⊢
      exact hhead

theorem wholePart_digits (n : Nat) {rest : List Char} (h : Ends rest) :
    wholePart (Text.digits n ++ rest) = some (Text.digits n, rest) := by
  rcases Nat.eq_zero_or_pos n with rfl | hn
  · rfl
  · have hrun := digitRun_append (Text.all_isDigit_digits n) h
    have hhead := head?_digits_ne hn
    obtain ⟨d, ds, hds⟩ := List.exists_cons_of_ne_nil (Text.digits_ne_nil n)
    rw [hds] at hrun hhead ⊢
    rw [List.cons_append] at hrun ⊢
    rw [wholePart, hrun]
    exact fun _ he => hhead (congrArg some (List.cons.inj he).1)

theorem number_digits (n : Nat) (h : n ≤ Text.maxWord) {rest : List Char} (hrest : Ends rest) :
    number (Text.digits n ++ rest) = some (.integer n, rest) := by
  have hfraction : fractionPart rest = some ([], rest) := by
    cases rest with
    | nil => rfl
    | cons c rest =>
      rw [fractionPart]
      exact fun _ he => (hrest c rfl).2.1 (List.cons.inj he).1
  have hexponent : exponentPart rest = some (none, rest) := by
    cases rest with
    | nil => rfl
    | cons c rest =>
      obtain ⟨-, -, he, hE⟩ := hrest c rfl
      simp [exponentPart, he, hE]
  have hvalue : Number.ofLexeme false (Text.digits n) [] none = .integer n := by
    simp [Number.ofLexeme, Text.digits, h]
  have hunsigned : unsignedNumber false (Text.digits n ++ rest) = some (.integer n, rest) := by
    rw [unsignedNumber, wholePart_digits n hrest]
    simp [hfraction, hexponent, hvalue]
  obtain ⟨d, ds, hds, hd⟩ := exists_digits n
  rw [hds, List.cons_append] at hunsigned ⊢
  rw [number, hunsigned]
  exact fun _ he => ne_of_isDigit hd rfl (List.cons.inj he).1

/-! ## Blanks and first characters -/

theorem skipBlanks_cons {c : Char} {cs : List Char} (h : isBlank c = false) : skipBlanks (c :: cs) = c :: cs := by
  rw [skipBlanks, List.dropWhile_cons_of_neg (by simp [h])]

theorem skipBlanks_lead (layout : Layout) (cs : List Char) : skipBlanks (layout.lead ++ cs) = skipBlanks cs := by
  have hlead : ∀ c ∈ layout.lead, isBlank c = true := by
    cases layout with
    | compact => exact fun _ h => (List.not_mem_nil h).elim
    | lines level =>
      rw [Layout.lead, List.forall_mem_cons]
      exact ⟨rfl, fun c hc => (List.eq_of_mem_replicate hc) ▸ rfl⟩
  rw [skipBlanks, List.dropWhile_append_of_pos hlead, skipBlanks]

theorem skipBlanks_skipBlanks (cs : List Char) : skipBlanks (skipBlanks cs) = skipBlanks cs := by
  induction cs with
  | nil => rfl
  | cons c cs ih =>
    cases h : isBlank c with
    | true =>
      rw [skipBlanks, skipBlanks, List.dropWhile_cons_of_pos h]
      exact ih
    | false => rw [skipBlanks_cons h, skipBlanks_cons h]

theorem value_skipBlanks (s : Scrutiny) (count depth : Nat) (cs : List Char) :
    value s count depth (skipBlanks cs) = value s count depth cs := by
  cases depth <;> rw [value, value, skipBlanks_skipBlanks]

/-! ## Values -/

mutual

def isNatural : Json → Bool
  | .arr items => areNatural items
  | .obj members => areNaturalMembers members
  | .num (.integer (.ofNat n)) => n ≤ Text.maxWord
  | .num _ => false
  | .null => true
  | .bool _ => true
  | .str _ => true

def areNatural : List Json → Bool
  | [] => true
  | v :: vs => isNatural v && areNatural vs

def areNaturalMembers : List (String × Json) → Bool
  | [] => true
  | (_, v) :: ms => isNatural v && areNaturalMembers ms

end

mutual

def depth : Json → Nat
  | .arr items => depthOfItems items + 1
  | .obj members => depthOfMembers members + 1
  | .null => 0
  | .bool _ => 0
  | .num _ => 0
  | .str _ => 0

def depthOfItems : List Json → Nat
  | [] => 0
  | v :: vs => max (depth v) (depthOfItems vs)

def depthOfMembers : List (String × Json) → Nat
  | [] => 0
  | (_, v) :: ms => max (depth v) (depthOfMembers ms)

end

theorem areNatural_map {α : Type} {write : α → Json} (h : ∀ a, (write a).isNatural = true) :
    ∀ as : List α, areNatural (as.map write) = true
  | [] => rfl
  | a :: as => by
    rw [List.map_cons, areNatural, h a, areNatural_map h as]
    rfl

theorem Number.text_natural (n : Nat) : Number.text (.integer n) = Text.digits n := by
  have h : ¬(n : Int) < 0 := by omega
  simp [Number.text, h]

theorem exists_render (layout : Layout) {v : Json} (h : v.isNatural = true) :
    ∃ c cs, v.render layout = c :: cs ∧ isBlank c = false ∧ c ≠ ']' ∧ c ≠ '\x7d' := by
  cases v with
  | null => exact ⟨'n', _, rfl, by decide⟩
  | bool b => cases b <;> exact ⟨_, _, rfl, by decide⟩
  | str s => exact ⟨'"', _, rfl, by decide⟩
  | arr vs => cases vs <;> exact ⟨'[', _, rfl, by decide⟩
  | obj ms => cases ms <;> exact ⟨'\x7b', _, rfl, by decide⟩
  | num n =>
    match n, h with
    | .integer (.ofNat n), _ =>
      obtain ⟨d, ds, hds, hd⟩ := exists_digits n
      exact ⟨d, ds, (Number.text_natural n).trans hds, isBlank_of_isDigit hd, ne_of_isDigit hd rfl,
        ne_of_isDigit hd rfl⟩

theorem length_le_length_renderItems (layout : Layout) :
    ∀ vs : List Json, areNatural vs = true → vs.length ≤ (renderItems layout vs).length
  | [], _ => Nat.le_refl 0
  | [v], h => by
    obtain ⟨c, cs, hv, -⟩ := exists_render layout (Bool.and_eq_true_iff.1 h).1
    simp [renderItems, hv]
    omega
  | v :: w :: vs, h => by
    have hvs := length_le_length_renderItems layout (w :: vs) (Bool.and_eq_true_iff.1 h).2
    rw [renderItems]
    · simp only [List.length_append, List.length_cons] at hvs ⊢
      omega
    · nofun

theorem length_le_length_renderMembers (layout : Layout) :
    ∀ ms : List (String × Json), ms.length ≤ (renderMembers layout ms).length
  | [] => Nat.le_refl 0
  | [(n, v)] => by
    simp [renderMembers, renderString]
    omega
  | (n, v) :: m :: ms => by
    have hms := length_le_length_renderMembers layout (m :: ms)
    rw [renderMembers]
    · simp only [List.length_append, List.length_cons] at hms ⊢
      omega
    · nofun

theorem exists_renderItems (layout : Layout) {v : Json} (vs : List Json) (tail : List Char) (h : v.isNatural = true) :
    ∃ c r, skipBlanks (renderItems layout (v :: vs) ++ tail) = c :: r ∧ c ≠ ']' := by
  obtain ⟨c, cs, hv, hblank, hc, -⟩ := exists_render layout h
  cases vs with
  | nil =>
    refine ⟨c, cs ++ tail, ?_, hc⟩
    rw [renderItems, List.append_assoc, skipBlanks_lead, hv, List.cons_append, skipBlanks_cons hblank]
  | cons w vs =>
    refine ⟨c, cs ++ ',' :: renderItems layout (w :: vs) ++ tail, ?_, hc⟩
    rw [renderItems, List.append_assoc, List.append_assoc, skipBlanks_lead, hv, List.cons_append,
      skipBlanks_cons hblank, List.append_assoc]
    nofun

theorem exists_renderMembers (layout : Layout) (m : String × Json) (ms : List (String × Json)) (tail : List Char) :
    ∃ r, skipBlanks (renderMembers layout (m :: ms) ++ tail) = '"' :: r := by
  obtain ⟨n, v⟩ := m
  cases ms with
  | nil =>
    rw [renderMembers, List.append_assoc, List.append_assoc, List.append_assoc, skipBlanks_lead]
    exact ⟨_, skipBlanks_cons (by decide)⟩
  | cons m ms =>
    rw [renderMembers, List.append_assoc, List.append_assoc, List.append_assoc, List.append_assoc, skipBlanks_lead]
    · exact ⟨_, skipBlanks_cons (by decide)⟩
    · nofun

theorem value_lead (s : Scrutiny) (count depth : Nat) (layout : Layout) (cs : List Char) :
    value s count depth (layout.lead ++ cs) = value s count depth cs := by
  rw [← value_skipBlanks, skipBlanks_lead, value_skipBlanks]

theorem value_of_scalar {s : Scrutiny} {count depth : Nat} {c : Char} {cs : List Char} (hb : isBlank c = false)
    (harray : c ≠ '[') (hobject : c ≠ '\x7b') : value s count depth (c :: cs) = scalar s (c :: cs) := by
  have hfirst : ∀ {d : Char} {r : List Char}, c ≠ d → c :: cs = d :: r → False := fun hne he => hne (List.cons.inj he).1
  cases depth <;> rw [value, skipBlanks_cons hb] <;> split
  · next he => exact (hfirst harray he).elim
  · next he => exact (hfirst hobject he).elim
  · rfl
  · next he => exact (hfirst harray he).elim
  · next he => exact (hfirst hobject he).elim
  · rfl

theorem memberName_render (s : Scrutiny) (layout : Layout) (n : String) (cs : List Char) :
    ∃ r, memberName s (layout.lead ++ renderString n ++ layout.colon ++ cs) = some (some n, r) ∧
      skipBlanks r = skipBlanks cs := by
  have hcolon : ∃ r, layout.colon ++ cs = ':' :: r ∧ skipBlanks r = skipBlanks cs := by
    cases layout with
    | compact => exact ⟨cs, rfl, rfl⟩
    | lines level => exact ⟨' ' :: cs, rfl, rfl⟩
  obtain ⟨r, hcolon, hr⟩ := hcolon
  refine ⟨r, ?_, hr⟩
  rw [memberName, List.append_assoc, List.append_assoc, skipBlanks_lead, hcolon]
  have hstring := string_renderString s n (':' :: r)
  simp only [renderString, List.cons_append, List.append_assoc, List.nil_append]
  rw [skipBlanks_cons (by decide)]
  simp only [hstring]
  rw [skipBlanks_cons (by decide)]
  rfl

section

variable {item : List Char → Option (Json × List Char)} {count : Nat} {cs r rest : List Char} {c : Char}

theorem arrayBody_of_items (hitem : ∀ cs, item (skipBlanks cs) = item cs) {vs : List Json}
    (hhead : skipBlanks cs = c :: r) (hc : c ≠ ']') (h : items item count cs = some (vs, rest)) :
    arrayBody item count cs = some (.arr vs, rest) := by
  have hitems : items item count (skipBlanks cs) = some (vs, rest) := by
    cases count with
    | zero => cases h
    | succ count =>
      rw [items] at h ⊢
      rwa [hitem]
  rw [hhead] at hitems
  rw [arrayBody, hhead]
  split
  · next he => exact (hc (List.cons.inj he).1).elim
  · rw [hitems]
    rfl

theorem ofMembers_map (ms : List (String × Json)) : ofMembers (ms.map fun m => (some m.1, m.2)) = .obj ms := by
  have hmap : ms.mapM (fun m => some (m.1, m.2)) = some (ms.map id) := List.mapM_pure
  rw [ofMembers, List.mapM_map]
  simp only [Function.comp_def, Option.map_some, hmap, List.map_id]

theorem objectBody_of_members {s : Scrutiny} {ms : List (String × Json)} (hhead : skipBlanks cs = c :: r) (hc : c ≠ '\x7d')
    (h : members s item count cs = some (ms.map fun m => (some m.1, m.2), rest)) :
    objectBody s item count cs = some (.obj ms, rest) := by
  have hmembers : members s item count (skipBlanks cs) = some (ms.map fun m => (some m.1, m.2), rest) := by
    cases count with
    | zero => cases h
    | succ count =>
      rw [members, memberName] at h ⊢
      rwa [skipBlanks_skipBlanks]
  rw [hhead] at hmembers
  rw [objectBody, hhead]
  split
  · next he => exact (hc (List.cons.inj he).1).elim
  · rw [hmembers]
    exact congrArg (fun v => some (v, rest)) (ofMembers_map ms)

end

mutual

/-- **A value that is written is read back**, before any text that does not go on with a number. -/
theorem value_render (s : Scrutiny) (count : Nat) :
    ∀ (v : Json) (layout : Layout) {depth : Nat} {rest : List Char}, v.isNatural = true → v.depth ≤ depth →
      (v.render layout).length ≤ count → Ends rest →
        value s count depth (v.render layout ++ rest) = some (v, rest)
  | .null, _, depth, rest, _, _, _, _ => by
    cases depth <;> rfl
  | .bool true, _, depth, rest, _, _, _, _ => by
    cases depth <;> rfl
  | .bool false, _, depth, rest, _, _, _, _ => by
    cases depth <;> rfl
  | .str n, _, depth, rest, _, _, _, _ => by
    have hstring := string_renderString s n rest
    rw [render, renderString, List.cons_append, List.cons_append, List.append_assoc, List.singleton_append,
      value_of_scalar (by decide) (by decide) (by decide), scalar, hstring]
    rfl
  | .num (.integer (.ofNat n)), _, depth, rest, h, _, _, hrest => by
    rw [render, Int.ofNat_eq_natCast, Number.text_natural]
    have hnumber := number_digits n (of_decide_eq_true h) hrest
    obtain ⟨d, ds, hds, hd⟩ := exists_digits n
    rw [hds, List.cons_append] at hnumber ⊢
    rw [value_of_scalar (isBlank_of_isDigit hd) (ne_of_isDigit hd rfl) (ne_of_isDigit hd rfl), scalar, hnumber]
    · cases s <;> rfl
    -- a digit starts no other literal
    all_goals exact fun _ he => ne_of_isDigit hd rfl (List.cons.inj he).1
  | .arr [], _, depth + 1, rest, _, _, _, _ => rfl
  | .arr (v :: vs), layout, depth + 1, rest, h, hdepth, hcount, _ => by
    rw [render, List.length_cons, List.length_append] at hcount
    have hlength := length_le_length_renderItems layout.deeper (v :: vs) h
    have hclose : skipBlanks (layout.lead ++ ']' :: rest) = ']' :: rest := by
      rw [skipBlanks_lead, skipBlanks_cons (by decide)]
    have hvs := items_render s count (v :: vs) layout.deeper (k := count) (List.cons_ne_nil v vs) h
      (Nat.le_of_succ_le_succ hdepth) (by omega) (by omega) (ends_lead layout (by decide)) hclose
    obtain ⟨c, r, hhead, hc⟩ :=
      exists_renderItems layout.deeper vs (layout.lead ++ ']' :: rest) (Bool.and_eq_true_iff.1 h).1
    rw [render, List.cons_append, List.append_assoc, List.append_assoc, List.singleton_append]
    exact arrayBody_of_items (value_skipBlanks s count depth) hhead hc hvs
  | .obj [], _, depth + 1, rest, _, _, _, _ => rfl
  | .obj (m :: ms), layout, depth + 1, rest, h, hdepth, hcount, _ => by
    rw [render, List.length_cons, List.length_append] at hcount
    have hlength := length_le_length_renderMembers layout.deeper (m :: ms)
    have hclose : skipBlanks (layout.lead ++ '\x7d' :: rest) = '\x7d' :: rest := by
      rw [skipBlanks_lead, skipBlanks_cons (by decide)]
    have hms := members_render s count (m :: ms) layout.deeper (k := count) (List.cons_ne_nil m ms) h
      (Nat.le_of_succ_le_succ hdepth) (by omega) (by omega) (ends_lead layout (by decide)) hclose
    obtain ⟨r, hhead⟩ := exists_renderMembers layout.deeper m ms (layout.lead ++ '\x7d' :: rest)
    rw [render, List.cons_append, List.append_assoc, List.append_assoc, List.singleton_append]
    exact objectBody_of_members hhead (by decide) hms

theorem items_render (s : Scrutiny) (count : Nat) :
    ∀ (vs : List Json) (layout : Layout) {depth k : Nat} {tail rest : List Char}, vs ≠ [] → areNatural vs = true →
      depthOfItems vs ≤ depth → vs.length ≤ k → (renderItems layout vs).length ≤ count → Ends tail →
        skipBlanks tail = ']' :: rest →
          items (value s count depth) k (renderItems layout vs ++ tail) = some (vs, rest)
  | [v], layout, depth, k + 1, tail, rest, _, h, hdepth, _, hcount, htail, hclose => by
    rw [renderItems, List.length_append] at hcount
    have hv := value_render s count v layout (Bool.and_eq_true_iff.1 h).1 (Nat.le_trans (Nat.le_max_left _ _) hdepth)
      (by omega) htail
    rw [renderItems, items, List.append_assoc, value_lead, hv]
    simp only [hclose]
  | v :: w :: vs, layout, depth, k + 1, tail, rest, _, h, hdepth, hk, hcount, htail, hclose => by
    obtain ⟨hv, hvs⟩ := Bool.and_eq_true_iff.1 h
    rw [renderItems, List.length_append, List.length_append, List.length_cons] at hcount
    · have hends : Ends (',' :: (renderItems layout (w :: vs) ++ tail)) := ends_cons (by decide)
      have hv := value_render s count v layout hv (Nat.le_trans (Nat.le_max_left _ _) hdepth) (by omega) hends
      have hvs := items_render s count (w :: vs) layout (List.cons_ne_nil w vs) hvs
        (Nat.le_trans (Nat.le_max_right _ _) hdepth) (Nat.le_of_succ_le_succ hk) (by omega) htail hclose
      rw [renderItems, items, List.append_assoc, List.append_assoc, List.cons_append, value_lead, hv]
      · simp only
        rw [skipBlanks_cons (by decide)]
        simp only [hvs, Option.map_some]
      · nofun
    · nofun

theorem members_render (s : Scrutiny) (count : Nat) :
    ∀ (ms : List (String × Json)) (layout : Layout) {depth k : Nat} {tail rest : List Char}, ms ≠ [] →
      areNaturalMembers ms = true → depthOfMembers ms ≤ depth → ms.length ≤ k →
        (renderMembers layout ms).length ≤ count → Ends tail → skipBlanks tail = '\x7d' :: rest →
          members s (value s count depth) k (renderMembers layout ms ++ tail) =
            some (ms.map fun m => (some m.1, m.2), rest)
  | [(n, v)], layout, depth, k + 1, tail, rest, _, h, hdepth, _, hcount, htail, hclose => by
    rw [renderMembers, List.length_append] at hcount
    have hv := value_render s count v layout (Bool.and_eq_true_iff.1 h).1 (Nat.le_trans (Nat.le_max_left _ _) hdepth)
      (by omega) htail
    obtain ⟨r, hname, hr⟩ := memberName_render s layout n (v.render layout ++ tail)
    rw [renderMembers, List.append_assoc, members, hname]
    simp only
    rw [← value_skipBlanks, hr, value_skipBlanks, hv]
    simp only [hclose, List.map_cons, List.map_nil]
  | (n, v) :: m :: ms, layout, depth, k + 1, tail, rest, _, h, hdepth, hk, hcount, htail, hclose => by
    obtain ⟨hv, hms⟩ := Bool.and_eq_true_iff.1 h
    rw [renderMembers, List.length_append, List.length_append, List.length_cons] at hcount
    · have hends : Ends (',' :: (renderMembers layout (m :: ms) ++ tail)) := ends_cons (by decide)
      have hv := value_render s count v layout hv (Nat.le_trans (Nat.le_max_left _ _) hdepth) (by omega) hends
      have hms := members_render s count (m :: ms) layout (List.cons_ne_nil m ms) hms
        (Nat.le_trans (Nat.le_max_right _ _) hdepth) (Nat.le_of_succ_le_succ hk) (by omega) htail hclose
      obtain ⟨r, hname, hr⟩ :=
        memberName_render s layout n (v.render layout ++ ',' :: (renderMembers layout (m :: ms) ++ tail))
      rw [renderMembers, List.append_assoc, List.append_assoc, List.cons_append, members, hname]
      · simp only
        rw [← value_skipBlanks, hr, value_skipBlanks, hv]
        simp only
        rw [skipBlanks_cons (by decide)]
        simp only [hms, Option.map_some, List.map_cons]
      · nofun
    · nofun

end

/-! ## Whole texts -/

mutual

theorem depth_le_length_render : ∀ (v : Json) (layout : Layout), v.depth ≤ (v.render layout).length
  | .null, _ | .bool _, _ | .num _, _ | .str _, _ => Nat.zero_le _
  | .arr [], _ | .obj [], _ => Nat.le_succ 1
  | .arr (v :: vs), layout => by
    have hvs := depthOfItems_le_length_render (v :: vs) layout.deeper
    rw [render, depth, List.length_cons, List.length_append]
    omega
  | .obj (m :: ms), layout => by
    have hms := depthOfMembers_le_length_render (m :: ms) layout.deeper
    rw [render, depth, List.length_cons, List.length_append]
    omega

theorem depthOfItems_le_length_render :
    ∀ (vs : List Json) (layout : Layout), depthOfItems vs ≤ (renderItems layout vs).length
  | [], _ => Nat.zero_le _
  | [v], layout => by
    have hv := depth_le_length_render v layout
    rw [renderItems, List.length_append, depthOfItems, depthOfItems]
    omega
  | v :: w :: vs, layout => by
    have hv := depth_le_length_render v layout
    have hvs := depthOfItems_le_length_render (w :: vs) layout
    rw [renderItems, List.length_append, List.length_append, List.length_cons, depthOfItems]
    · omega
    · nofun

theorem depthOfMembers_le_length_render :
    ∀ (ms : List (String × Json)) (layout : Layout), depthOfMembers ms ≤ (renderMembers layout ms).length
  | [], _ => Nat.zero_le _
  | [(n, v)], layout => by
    have hv := depth_le_length_render v layout
    rw [renderMembers, List.length_append, depthOfMembers, depthOfMembers]
    omega
  | (n, v) :: m :: ms, layout => by
    have hv := depth_le_length_render v layout
    have hms := depthOfMembers_le_length_render (m :: ms) layout
    rw [renderMembers, List.length_append, List.length_append, List.length_cons, depthOfMembers]
    · omega
    · nofun

end

/-- What is written is read back as a whole text, if the reader goes as deep as the value. -/
theorem readWith?_render (s : Scrutiny) (layout : Layout) {v : Json} {depth : Nat} (h : v.isNatural = true)
    (hdepth : v.depth ≤ depth) : readWith? s depth (v.render layout) = some v := by
  have hv := value_render s (v.render layout).length v layout h hdepth (Nat.le_refl _) ends_nil
  rw [List.append_nil] at hv
  rw [readWith?, hv]
  rfl

/-- **The text of a value reads back**, in any layout, if it nests no deeper than a text may. -/
theorem read?_render (layout : Layout) {v : Json} (h : v.isNatural = true) (hdepth : v.depth ≤ maxDepth) :
    read? (String.ofList (v.render layout)) = some v := by
  rw [read?, String.toList_ofList, readWith?_render .whole layout h hdepth]

/-- **The text of a value reads back** where only known parts are looked at, however deep it nests. -/
theorem readLoosely?_render (layout : Layout) {v : Json} (h : v.isNatural = true) :
    readLoosely? (String.ofList (v.render layout)) = some v := by
  rw [readLoosely?, String.toList_ofList, readWith?_render .known layout h (depth_le_length_render v layout)]

end Json
end Backlog
