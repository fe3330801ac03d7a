/-!
# Parts — what a text consists of

`splitAtEvery` gives the parts of a text between the places that hold a separator: one part more than there are
separators, and joining the parts gives the text back.

`occursIn needle hay` asks whether `needle` stands somewhere in `hay`, character by character and letter case included.
The empty text stands in every text.  `occursIn_iff` ties the search to the relation it decides.
-/
namespace Backlog
namespace Text

/-! ## Between separators -/

def splitAtEvery (mark : Char) : List Char → List (List Char)
  | [] => [[]]
  | c :: r =>
    if c == mark then [] :: splitAtEvery mark r
    else match splitAtEvery mark r with
      | first :: rest => (c :: first) :: rest
      | [] => [[c]]

theorem splitAtEvery_ne_nil (mark : Char) : ∀ cs : List Char, splitAtEvery mark cs ≠ []
  | [] => List.cons_ne_nil _ _
  | c :: r => by
    rw [splitAtEvery]
    split
    · exact List.cons_ne_nil _ _
    · split <;> exact List.cons_ne_nil _ _

/-- **A separator divides** the parts of a text into those before it and those after it. -/
theorem splitAtEvery_append (mark : Char) (s : List Char) :
    ∀ r : List Char, splitAtEvery mark (r ++ mark :: s) = splitAtEvery mark r ++ splitAtEvery mark s
  | [] => by simp [splitAtEvery]
  | c :: r => by
    rw [List.cons_append, splitAtEvery, splitAtEvery, splitAtEvery_append mark s r]
    split
    · rfl
    · cases h : splitAtEvery mark r with
      | nil => exact absurd h (splitAtEvery_ne_nil mark r)
      | cons first rest => rfl

theorem splitAtEvery_eq_singleton {mark : Char} :
    ∀ {cs : List Char}, (∀ c ∈ cs, c ≠ mark) → splitAtEvery mark cs = [cs]
  | [], _ => rfl
  | c :: cs, h => by
    obtain ⟨hc, hcs⟩ := List.forall_mem_cons.1 h
    rw [splitAtEvery, splitAtEvery_eq_singleton hcs, if_neg (mt eq_of_beq hc)]

/-- What stands before the last separator and what stands after it can be told from the text. -/
theorem append_mark_inj {mark : Char} {cs cs' rest rest' : List Char} (hrest : ∀ c ∈ rest, c ≠ mark)
    (hrest' : ∀ c ∈ rest', c ≠ mark) (h : cs ++ mark :: rest = cs' ++ mark :: rest') : cs = cs' ∧ rest = rest' := by
  have hparts := congrArg (splitAtEvery mark) h
  rw [splitAtEvery_append, splitAtEvery_append, splitAtEvery_eq_singleton hrest, splitAtEvery_eq_singleton hrest']
    at hparts
  obtain ⟨-, hlast⟩ := List.append_inj' hparts rfl
  cases hlast
  exact ⟨List.append_cancel_right h, rfl⟩

/-! ## One text inside another -/

def occursInChars (needle : List Char) : List Char → Bool
  | [] => needle.isEmpty
  | c :: cs => needle.isPrefixOf (c :: cs) || occursInChars needle cs

def occursIn (needle hay : String) : Bool :=
  occursInChars needle.toList hay.toList

theorem occursInChars_iff (needle : List Char) : ∀ hay, occursInChars needle hay = true ↔ needle <:+: hay
  | [] => by simp [occursInChars]
  | c :: cs => by
    rw [occursInChars, Bool.or_eq_true, occursInChars_iff needle cs, List.isPrefixOf_iff_prefix, List.infix_cons_iff]

/-- **Searching decides whether one text is a part of the other.** -/
theorem occursIn_iff {needle hay : String} : occursIn needle hay = true ↔ needle.toList <:+: hay.toList :=
  occursInChars_iff needle.toList hay.toList

end Text
end Backlog
