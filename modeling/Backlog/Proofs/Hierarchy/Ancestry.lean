import Backlog.Hierarchy
/-!
# Ancestry — parents and ancestors

One item is the parent of another when the store answers so, and an ancestor when it is reached from the other over
parents.  An item has one parent at most, so where the parents lead to an item without a parent, the ancestors on the
way are all there are (`ParentChain.mem_iff`), no other way leads there (`ParentChain.unique`), and none of them is met
twice (`ParentChain.nodup`).
-/
namespace Backlog
namespace Hierarchy

/-- Whether the store answers that an item has this parent. -/
def IsParent (s : Store) (child parent : String) : Prop :=
  s.parentOf? child = .ok (some parent)

/-- Whether an item is reached from another one over parents. -/
def IsAncestor (s : Store) : (child ancestor : String) → Prop :=
  Relation.TransGen (IsParent s)

/-- All the ancestors of an item, the nearest first. -/
inductive ParentChain (s : Store) : (child : String) → (chain : List String) → Prop
  | top {id : String} (h : s.parentOf? id = .ok none) : ParentChain s id []
  | up {id parent : String} {above : List String} (h : IsParent s id parent) (hs : ParentChain s parent above) :
    ParentChain s id (parent :: above)

variable {s : Store} {id : String} {chain : List String}

theorem ParentChain.parentOf?_eq (h : ParentChain s id chain) : s.parentOf? id = .ok chain.head? := by
  cases h with
  | top h => exact h
  | up h _ => exact h

theorem ParentChain.mem_of_isParent {parent x : String} (hp : IsParent s x parent) (h : ParentChain s id chain)
    (hx : x ∈ id :: chain) : parent ∈ chain := by
  induction h with
  | top h =>
    rw [List.mem_singleton.1 hx, IsParent, h] at hp
    cases hp
  | up h _ ih =>
    rcases List.mem_cons.1 hx with rfl | hx
    · cases h.symm.trans hp
      exact List.mem_cons_self
    · exact List.mem_cons_of_mem _ (ih hx)

/-- **The chain of an item has all its ancestors, and nothing else.** -/
theorem ParentChain.mem_iff (h : ParentChain s id chain) (x : String) : x ∈ chain ↔ IsAncestor s id x := by
  constructor
  · intro hx
    induction h with
    | top _ => cases hx
    | up hp _ ih =>
      rcases List.mem_cons.1 hx with rfl | hx
      · exact .single hp
      · exact .trans (.single hp) (ih hx)
  · intro hx
    induction hx with
    | single hp => exact h.mem_of_isParent hp List.mem_cons_self
    | tail _ hp ih => exact h.mem_of_isParent hp (List.mem_cons_of_mem _ ih)

theorem ParentChain.unique {chain' : List String} (h : ParentChain s id chain) (h' : ParentChain s id chain') :
    chain = chain' := by
  induction h generalizing chain' with
  | top h =>
    cases h' with
    | top _ => rfl
    | up h' _ => cases h.symm.trans h'
  | up h _ ih =>
    cases h' with
    | top h' => cases h.symm.trans h'
    | up h' hs' =>
      cases h.symm.trans h'
      rw [ih hs']

theorem ParentChain.exists_above {x : String} (h : ParentChain s id chain) (hx : x ∈ id :: chain) :
    ∃ above, ParentChain s x above ∧ above.length ≤ chain.length := by
  induction h with
  | top h =>
    rw [List.mem_singleton.1 hx]
    exact ⟨[], .top h, Nat.le_refl 0⟩
  | up h hs ih =>
    rcases List.mem_cons.1 hx with rfl | hx
    · exact ⟨_, .up h hs, Nat.le_refl _⟩
    · obtain ⟨above, habove, hle⟩ := ih hx
      exact ⟨above, habove, Nat.le_succ_of_le hle⟩

/-- **A chain to the top does not come back**, neither to an item of its own nor to the one it starts from. -/
theorem ParentChain.nodup (h : ParentChain s id chain) : (id :: chain).Nodup := by
  induction h with
  | top _ => simp
  | up h hs ih =>
    refine List.nodup_cons.2 ⟨fun hid => ?_, ih⟩
    -- the chain of the item would be above the item, and so be longer than itself
    obtain ⟨above, habove, hle⟩ := hs.exists_above hid
    rw [habove.unique (.up h hs), List.length_cons] at hle
    exact Nat.not_succ_le_self _ hle

end Hierarchy
end Backlog
