import Backlog.Proofs.Hierarchy.Ancestry
import Backlog.Proofs.Store.Parents
import Mathlib.Data.List.Perm.Subperm
/-!
# Trail — where the parents above an item lead

Above every item there is a trail: the parents one after the other, as long as they are new (`Trail`).  A store has
finitely many links, so every trail has a last item (`exists_trail`).  The store has no parent for it, and the trail is
the chain of all ancestors; or one that is on the trail already, and the parents go round in a circle; or no answer.

The walk to the ancestors answers by the length of the trail and by what follows its last item (`Trail.ancestors_eq`).
It may take as many steps as it may find ancestors, and looks for a repetition before it counts, so a circle is seen as
one even if the trail is as long as allowed.
-/
namespace Backlog
namespace Hierarchy

variable {s : Store} {id last : String} {path chain : List String}

/-! ## Ascents -/

/-- From an item the parents lead over a path, the nearest first, up to its last item. -/
inductive Ascent (s : Store) : (id : String) → (path : List String) → (last : String) → Prop
  | here {id : String} : Ascent s id [] id
  | up {id parent last : String} {path : List String} (h : IsParent s id parent) (hs : Ascent s parent path last) :
    Ascent s id (parent :: path) last

theorem Ascent.concat {parent : String} (h : Ascent s id path last) (hp : IsParent s last parent) :
    Ascent s id (path ++ [parent]) parent := by
  induction h with
  | here => exact .up hp .here
  | up h _ ih => exact .up h (ih hp)

theorem Ascent.subset_sources (h : Ascent s id path last) : path ⊆ s.links.map Link.source := by
  induction h with
  | here => exact List.nil_subset _
  | up hp _ ih =>
    obtain ⟨l, hl, -, hsource, -⟩ := Store.hasParent_of_parentOf? hp
    exact List.cons_subset.2 ⟨List.mem_map.2 ⟨l, hl, hsource⟩, ih⟩

theorem Ascent.length_le (h : Ascent s id path last) (hnodup : path.Nodup) : path.length ≤ s.links.length := by
  have hle := (hnodup.subperm h.subset_sources).length_le
  rwa [List.length_map] at hle

/-! ## Chains as ascents to the top -/

theorem parentChain_iff : ParentChain s id chain ↔ ∃ last, Ascent s id chain last ∧ s.parentOf? last = .ok none := by
  constructor
  · intro h
    induction h with
    | top h => exact ⟨_, .here, h⟩
    | up h _ ih =>
      obtain ⟨last, hlast, htop⟩ := ih
      exact ⟨last, .up h hlast, htop⟩
  · rintro ⟨last, h, htop⟩
    induction h with
    | here => exact .top htop
    | up h _ ih => exact .up h (ih htop)

/-! ## Trails -/

/-- The trail above an item: an ascent to which there is no new parent to add. -/
structure Trail (s : Store) (id : String) (path : List String) (last : String) : Prop where
  ascent : Ascent s id path last
  nodup : (id :: path).Nodup
  ends : ∀ parent, IsParent s last parent → parent ∈ id :: path

theorem exists_trail_of_ascent {path : List String} {last : String} (h : Ascent s id path last)
    (hnodup : (id :: path).Nodup) : ∃ path last, Trail s id path last := by
  by_cases hends : ∀ parent, IsParent s last parent → parent ∈ id :: path
  · exact ⟨path, last, h, hnodup, hends⟩
  · obtain ⟨parent, hends⟩ := Classical.not_forall.1 hends
    obtain ⟨hp, hnew⟩ := Classical.not_imp.1 hends
    have hlonger : (id :: (path ++ [parent])).Nodup := by
      rw [← List.cons_append, List.nodup_append]
      exact ⟨hnodup, by simp, by grind⟩
    have hle := (h.concat hp).length_le (List.nodup_cons.1 hlonger).2
    exact exists_trail_of_ascent (h.concat hp) hlonger
termination_by s.links.length - path.length
decreasing_by
  rw [List.length_append, List.length_singleton] at hle ⊢
  omega

/-- **Every item has a trail**, since the items on it are sources of links. -/
theorem exists_trail (s : Store) (id : String) : ∃ path last, Trail s id path last :=
  exists_trail_of_ascent .here (by simp)

theorem ParentChain.exists_trail (h : ParentChain s id chain) :
    ∃ last, Trail s id chain last ∧ s.parentOf? last = .ok none := by
  obtain ⟨last, hlast, htop⟩ := parentChain_iff.1 h
  refine ⟨last, ⟨hlast, h.nodup, fun parent hp => ?_⟩, htop⟩
  cases hp.symm.trans htop

/-! ## The walk -/

section

variable {start current parent : String} {levels left : Nat} {met : List String}

theorem climb_of_error {e : StoreError} (h : s.parentOf? current = .error e) :
    climb s start levels left current met = .error (.store e) := by
  unfold climb
  rw [h]

theorem climb_of_none (h : s.parentOf? current = .ok none) : climb s start levels left current met = .ok [] := by
  unfold climb
  rw [h]

theorem climb_of_met (h : IsParent s current parent) (hmet : parent ∈ met) :
    climb s start levels left current met = .error (.cycle parent) := by
  rw [IsParent] at h
  unfold climb
  rw [h]
  dsimp only
  rw [if_pos (List.contains_iff_mem.2 hmet)]

theorem climb_of_new (h : IsParent s current parent) (hnew : parent ∉ met) :
    climb s start levels left current met = match left with
      | 0 => .error (.tooDeep start levels)
      | left + 1 => (climb s start levels left parent (parent :: met)).map (parent :: ·) := by
  have hunmet : ¬met.contains parent = true := fun h => hnew (List.contains_iff_mem.1 h)
  rw [IsParent] at h
  rw [climb.eq_def]
  dsimp only
  rw [h]
  dsimp only
  refine (if_neg hunmet).trans ?_
  cases left <;> rfl

/-- **The walk along an ascent** goes on from its last item, if there are levels enough. -/
theorem Ascent.climb_eq (h : Ascent s current path last) (hnodup : path.Nodup) (hnew : ∀ x ∈ path, x ∉ met) :
    climb s start levels left current met =
      if path.length ≤ left then
        (climb s start levels (left - path.length) last (path.reverse ++ met)).map (path ++ ·)
      else .error (.tooDeep start levels) := by
  induction h generalizing left met with
  | here => cases hclimb : climb s start levels left _ met <;> simp [hclimb, Except.map]
  | @up _ parent last path hp _ ih =>
    obtain ⟨hparent, hnodup⟩ := List.nodup_cons.1 hnodup
    obtain ⟨hunmet, hnew⟩ := List.forall_mem_cons.1 hnew
    have hstillNew : ∀ x ∈ path, x ∉ parent :: met := by
      intro x hx hmem
      rcases List.mem_cons.1 hmem with rfl | hmem
      · exact hparent hx
      · exact hnew x hx hmem
    rw [climb_of_new hp hunmet]
    cases left with
    | zero => simp
    | succ left =>
      dsimp only
      rw [ih hnodup hstillNew]
      by_cases hlength : path.length ≤ left
      · cases hclimb : climb s start levels (left - path.length) last (path.reverse ++ parent :: met) <;>
          simp [hlength, hclimb, Except.map]
      · simp [hlength, Except.map]

end

/-- **The walk answers by the trail**: by its length, and by what the store answers about its last item. -/
theorem Trail.ancestors_eq (h : Trail s id path last) (levels : Nat) :
    ancestors s levels id =
      if path.length ≤ levels then
        match s.parentOf? last with
        | .ok none => .ok path
        | .ok (some again) => .error (.cycle again)
        | .error e => .error (.store e)
      else .error (.tooDeep id levels) := by
  obtain ⟨hid, hnodup⟩ := List.nodup_cons.1 h.nodup
  have hnew : ∀ x ∈ path, x ∉ [id] := by
    intro x hx hmem
    exact hid (List.mem_singleton.1 hmem ▸ hx)
  rw [ancestors, h.ascent.climb_eq hnodup hnew]
  refine if_congr Iff.rfl ?_ rfl
  cases hp : s.parentOf? last with
  | error e =>
    rw [climb_of_error hp]
    rfl
  | ok parent =>
    cases parent with
    | none =>
      rw [climb_of_none hp]
      simp [Except.map]
    | some again =>
      have hmet : again ∈ path.reverse ++ [id] := by
        simpa [or_comm] using h.ends again hp
      rw [climb_of_met hp hmet]
      rfl

/-! ## The answers of the walk -/

/-- Whether the parents above an item go round: over the items of a path, all of them different, to one whose parent is
on the path or is the item itself. -/
def Circles (s : Store) (id : String) (path : List String) (again : String) : Prop :=
  ∃ last, Ascent s id path last ∧ (id :: path).Nodup ∧ IsParent s last again ∧ again ∈ id :: path

/-- Whether the parents above an item lead, over the items of a path, all of them different, to one about whose parent
the store has no answer. -/
def Breaks (s : Store) (id : String) (path : List String) (e : StoreError) : Prop :=
  ∃ last, Ascent s id path last ∧ (id :: path).Nodup ∧ s.parentOf? last = .error e

theorem Circles.ancestors_eq {again : String} (h : Circles s id path again) (levels : Nat) :
    ancestors s levels id = .error (if path.length ≤ levels then .cycle again else .tooDeep id levels) := by
  obtain ⟨last, hascent, hnodup, hp, hmem⟩ := h
  have htrail : Trail s id path last := ⟨hascent, hnodup, fun parent hparent => by cases hp.symm.trans hparent; exact hmem⟩
  rw [IsParent] at hp
  rw [htrail.ancestors_eq, hp, apply_ite Except.error]

theorem Breaks.ancestors_eq {e : StoreError} (h : Breaks s id path e) (levels : Nat) :
    ancestors s levels id = .error (if path.length ≤ levels then .store e else .tooDeep id levels) := by
  obtain ⟨last, hascent, hnodup, hp⟩ := h
  have htrail : Trail s id path last := ⟨hascent, hnodup, fun parent hparent => by cases hp.symm.trans hparent⟩
  rw [htrail.ancestors_eq, hp, apply_ite Except.error]

theorem ParentChain.ancestors_eq (h : ParentChain s id chain) (levels : Nat) :
    ancestors s levels id = if chain.length ≤ levels then .ok chain else .error (.tooDeep id levels) := by
  obtain ⟨last, htrail, htop⟩ := h.exists_trail
  rw [htrail.ancestors_eq, htop]

theorem parentChain_or_circles_or_breaks (s : Store) (id : String) :
    (∃ chain, ParentChain s id chain) ∨ (∃ path again, Circles s id path again) ∨ ∃ path e, Breaks s id path e := by
  obtain ⟨path, last, h⟩ := exists_trail s id
  cases hp : s.parentOf? last with
  | error e => exact .inr (.inr ⟨path, e, last, h.ascent, h.nodup, hp⟩)
  | ok parent =>
    cases parent with
    | none => exact .inl ⟨path, parentChain_iff.2 ⟨last, h.ascent, hp⟩⟩
    | some again => exact .inr (.inl ⟨path, again, last, h.ascent, h.nodup, hp, h.ends again hp⟩)

/-- **The walk finds the chain to the top**, exactly where there is one that is not longer than allowed. -/
theorem ancestors_eq_ok_iff {levels : Nat} :
    ancestors s levels id = .ok chain ↔ ParentChain s id chain ∧ chain.length ≤ levels := by
  constructor
  · intro h
    rcases parentChain_or_circles_or_breaks s id with ⟨chain', hchain⟩ | ⟨path, again, hcircles⟩ | ⟨path, e, hbreaks⟩
    · rw [hchain.ancestors_eq] at h
      split at h
      · next hlength =>
        cases h
        exact ⟨hchain, hlength⟩
      · cases h
    · cases (hcircles.ancestors_eq levels).symm.trans h
    · cases (hbreaks.ancestors_eq levels).symm.trans h
  · rintro ⟨hchain, hlength⟩
    rw [hchain.ancestors_eq, if_pos hlength]

/-- How the walk from an item answers, for every number of levels that are allowed. -/
structure WalkAnswers (s : Store) (id : String) : Prop where
  /-- It has a result exactly when the parents lead to the top in no more steps than allowed, and then it is the list
  of them. -/
  ok_iff : ∀ levels chain, ancestors s levels id = .ok chain ↔ ParentChain s id chain ∧ chain.length ≤ levels
  /-- A result has no item twice, nor the one that the walk starts from. -/
  nodup : ∀ levels chain, ancestors s levels id = .ok chain → (id :: chain).Nodup
  /-- A chain to the top that is longer than allowed is refused for its length. -/
  tooDeep : ∀ levels chain, ParentChain s id chain → levels < chain.length →
    ancestors s levels id = .error (.tooDeep id levels)
  /-- A circle is refused as one if there are no more ancestors before the repetition than allowed, and else for their
  number. -/
  circle : ∀ levels path again, Circles s id path again →
    ancestors s levels id = .error (if path.length ≤ levels then .cycle again else .tooDeep id levels)
  /-- Where the store has no answer the walk has none, unless there are too many ancestors before. -/
  broken : ∀ levels path e, Breaks s id path e →
    ancestors s levels id = .error (if path.length ≤ levels then .store e else .tooDeep id levels)
  /-- There is nothing else that the parents could lead to. -/
  exhaustive : (∃ chain, ParentChain s id chain) ∨ (∃ path again, Circles s id path again) ∨ ∃ path e, Breaks s id path e
  /-- A result stays as it is when more levels are allowed. -/
  more : ∀ levels levels' chain, ancestors s levels id = .ok chain → levels ≤ levels' →
    ancestors s levels' id = .ok chain

/-- **The walk to the ancestors** is complete: it ends on every store, whatever its links, and never leaves out what is
further up. -/
theorem walkAnswers (s : Store) (id : String) : WalkAnswers s id where
  ok_iff _ _ := ancestors_eq_ok_iff
  nodup _ _ h := (ancestors_eq_ok_iff.1 h).1.nodup
  tooDeep levels _ h hlong := by rw [h.ancestors_eq, if_neg (Nat.not_le.2 hlong)]
  circle levels _ _ h := h.ancestors_eq levels
  broken levels _ _ h := h.ancestors_eq levels
  exhaustive := parentChain_or_circles_or_breaks s id
  more levels levels' chain h hle := by
    obtain ⟨hchain, hlength⟩ := ancestors_eq_ok_iff.1 h
    exact ancestors_eq_ok_iff.2 ⟨hchain, Nat.le_trans hlength hle⟩

/-! ## A circle above a task -/

/-- A task below a story, which is below an area that is below the story; and an item that is its own parent. -/
def knot : Store :=
  .ofDataset ⟨[], [], [], [], [], [.parenting "up"],
    [⟨"1", "story", "task", "up"⟩, ⟨"2", "area", "story", "up"⟩, ⟨"3", "story", "area", "up"⟩,
      ⟨"4", "loop", "loop", "up"⟩], []⟩

theorem walkAnswers_knot :
    Circles knot "task" ["story", "area"] "story" ∧ ancestors knot 2 "task" = .error (.cycle "story") ∧
      ancestors knot 1 "task" = .error (.tooDeep "task" 1) ∧ ancestors knot 0 "loop" = .error (.cycle "loop") := by
  have htask : Circles knot "task" ["story", "area"] "story" := ⟨"area", .up rfl (.up rfl .here), by decide, rfl, by decide⟩
  have hloop : Circles knot "loop" [] "loop" := ⟨"loop", .here, by decide, rfl, by decide⟩
  exact ⟨htask, (walkAnswers knot "task").circle 2 _ _ htask, (walkAnswers knot "task").circle 1 _ _ htask,
    (walkAnswers knot "loop").circle 0 _ _ hloop⟩

end Hierarchy
end Backlog
