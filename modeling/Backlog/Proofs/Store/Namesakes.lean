import Backlog.Proofs.Filter.Soundness
import Backlog.Proofs.Store.Replay
/-!
# Namesakes — the groups with one name in one space

Groups are looked up in two ways: one takes the first group with a name in a space, the other takes all groups with a
name.  The two agree as long as a name has one group at most in every space.  A group that is saved takes the place of
its namesakes and is the only one from then on (`namesakes_saveGroup`), but a dataset comes into a store as it is, with
all the groups that it lists.  So what a run has saved is found alike in both ways, and what comes from the dataset is if
the dataset lists no namesakes (`looksUpGroups_run`).

A filter that is about no space in particular takes the second way, one that is about a space takes the first.  Where the
two ways agree, the members of the groups with a name in all spaces are those in each of the spaces together
(`ExpandsBySpaces`).
-/
namespace Backlog

open Filter.Resolver (groupsIn membersIn)

def Operation.savedGroup? (space name : String) : Operation → Option TypeGroup
  | saveGroup g => if g.space = space ∧ g.name = name then some g else none
  | _ => none

namespace Store

variable {s : Store} {o : Operation} {space name : String}

def namesakes (s : Store) (space name : String) : List TypeGroup :=
  s.groups.filter fun g => g.space == space && g.name == name

/-- Whether the two ways to look up a name find the same in a space. -/
def LookUpsAgree (s : Store) (space name : String) : Prop :=
  (s.groupsNamed name).filter (fun g => g.space == space) = (s.group? space name).toList

theorem group?_eq_head? (s : Store) (space name : String) : s.group? space name = (s.namesakes space name).head? :=
  List.head?_filter.symm

theorem filter_groupsNamed (s : Store) (space name : String) :
    (s.groupsNamed name).filter (fun g => g.space == space) = s.namesakes space name :=
  List.filter_filter

/-- **The two ways agree** where there are no namesakes. -/
theorem lookUpsAgree_iff : s.LookUpsAgree space name ↔ (s.namesakes space name).length ≤ 1 := by
  rw [LookUpsAgree, filter_groupsNamed, group?_eq_head?]
  match s.namesakes space name with
  | [] => simp
  | [g] => simp
  | g :: h :: gs => simp

/-! ## Operations -/

/-- **A group that is saved has no namesakes** afterwards, and others keep theirs. -/
theorem namesakes_saveGroup (s : Store) (group : TypeGroup) :
    (s.saveGroup group).namesakes space name =
      if group.space = space ∧ group.name = name then [group] else s.namesakes space name := by
  rw [namesakes, saveGroup, List.filter_append, List.filter_filter]
  split
  · next hgroup =>
    obtain ⟨rfl, rfl⟩ := hgroup
    simp [sameGroup]
  · next hgroup =>
    -- what the saved group replaces is not what is asked for
    have hkept : ∀ g ∈ s.groups, (g.space == space && g.name == name && !sameGroup g group) =
        (g.space == space && g.name == name) := fun g _ => by
      by_cases hg : g.space = space ∧ g.name = name
      · obtain ⟨rfl, rfl⟩ := hg
        have hother : sameGroup g group = false := by
          rw [sameGroup, Bool.eq_false_iff, ne_eq, Bool.and_eq_true, beq_iff_eq, beq_iff_eq]
          exact fun h => hgroup ⟨h.1.symm, h.2.symm⟩
        rw [hother, Bool.not_false, Bool.and_true]
      · have hno : (g.space == space && g.name == name) = false := by simpa using hg
        rw [hno, Bool.false_and]
    have hno : (group.space == space && group.name == name) = false := by simpa using hgroup
    rw [List.filter_congr hkept, List.filter_cons, hno, if_neg Bool.false_ne_true, List.filter_nil, List.append_nil,
      namesakes]

theorem namesakes_step (s : Store) (o : Operation) :
    (s.step o).1.namesakes space name = (o.savedGroup? space name).elim (s.namesakes space name) ([·]) := by
  cases o with
  | saveGroup group =>
    refine (s.namesakes_saveGroup group).trans ?_
    rw [Operation.savedGroup?]
    split <;> rfl
  | saveSpace | saveType | saveIteration | saveLabel | saveLinkType | saveLink | saveItem | update =>
    exact congrArg (List.filter _) ((sameBut_step s _).groups (by simp [Operation.kind]))

/-- **After a sequence of operations** there is the group that was saved last, or else what was there before. -/
theorem namesakes_run (os : List Operation) (s : Store) :
    (s.run os).namesakes space name =
      (os.filterMap (Operation.savedGroup? space name)).getLast?.elim (s.namesakes space name) ([·]) := by
  induction os generalizing s with
  | nil => rfl
  | cons o os ih =>
    rw [run_cons, ih, namesakes_step, List.filterMap_cons]
    cases o.savedGroup? space name with
    | none => rfl
    | some g =>
      rw [List.getLast?_cons]
      cases (os.filterMap (Operation.savedGroup? space name)).getLast? <;> rfl

theorem getLast?_savedGroups_eq_none_iff (os : List Operation) :
    (os.filterMap (Operation.savedGroup? space name)).getLast? = none ↔
      ¬∃ g, .saveGroup g ∈ os ∧ g.space = space ∧ g.name = name := by
  rw [List.getLast?_eq_none_iff, List.filterMap_eq_nil_iff]
  constructor
  · rintro h ⟨g, hg, hgroup⟩
    simpa [Operation.savedGroup?, hgroup] using h _ hg
  · intro h o ho
    cases o with
    | saveGroup g => exact if_neg fun hgroup => h ⟨g, ho, hgroup⟩
    | saveSpace | saveType | saveIteration | saveLabel | saveLinkType | saveLink | saveItem | update => rfl

/-! ## Members -/

/-- Whether looking for the members of the groups with a name in all spaces is looking for them in one space after the
other: there are such groups in the one case if there are in the other, with the same members. -/
structure ExpandsBySpaces (s : Store) (name : String) : Prop where
  isNone_iff : membersIn s .unrestricted name = none ↔ ∀ space, membersIn s (.ofList [space]) name = none
  contains_iff : ∀ type,
    (∃ types, membersIn s .unrestricted name = some types ∧ types.contains type = true) ↔
      ∃ space types, membersIn s (.ofList [space]) name = some types ∧ types.contains type = true

theorem groupsIn_ofList_singleton (s : Store) (space name : String) :
    groupsIn s (.ofList [space]) name = (s.group? space name).toList := by
  show List.filterMap (fun space => s.group? space name) [space] = _
  rw [List.filterMap_cons]
  cases s.group? space name <;> rfl

theorem membersIn_eq_none_iff_groupsIn {scope : Filter.Scope} :
    membersIn s scope name = none ↔ groupsIn s scope name = [] := by
  rw [membersIn]
  cases groupsIn s scope name <;> simp

theorem mem_groupsNamed_iff_exists_group? (h : ∀ space, s.LookUpsAgree space name) {g : TypeGroup} :
    g ∈ s.groupsNamed name ↔ ∃ space, s.group? space name = some g := by
  constructor
  · intro hg
    have hmem : g ∈ (s.groupsNamed name).filter fun g' => g'.space == g.space :=
      List.mem_filter.2 ⟨hg, beq_self_eq_true _⟩
    rw [h g.space] at hmem
    exact ⟨g.space, Option.mem_toList.1 hmem⟩
  · rintro ⟨space, hg⟩
    have hmem : g ∈ (s.group? space name).toList := Option.mem_toList.2 hg
    rw [← h space] at hmem
    exact (List.mem_filter.1 hmem).1

theorem expandsBySpaces_of_lookUpsAgree (h : ∀ space, s.LookUpsAgree space name) : s.ExpandsBySpaces name := by
  have hall : groupsIn s .unrestricted name = s.groupsNamed name := rfl
  constructor
  · simp only [membersIn_eq_none_iff_groupsIn, groupsIn_ofList_singleton, hall, Option.toList_eq_nil_iff]
    simp only [List.eq_nil_iff_forall_not_mem, mem_groupsNamed_iff_exists_group? h, Option.eq_none_iff_forall_ne_some]
    exact ⟨fun hnone space g hg => hnone g ⟨space, hg⟩, fun hnone g ⟨space, hg⟩ => hnone space g hg⟩
  · intro type
    simp only [Filter.Resolver.exists_membersIn_iff, groupsIn_ofList_singleton, hall, Option.mem_toList,
      mem_groupsNamed_iff_exists_group? h]
    exact ⟨fun ⟨g, ⟨space, hg⟩, ht⟩ => ⟨space, g, hg, ht⟩, fun ⟨space, g, hg, ht⟩ => ⟨g, ⟨space, hg⟩, ht⟩⟩

/-! ## Runs -/

/-- What the two ways to look up a name find after a sequence of operations on a dataset. -/
structure LooksUpGroups (d : Dataset) (os : List Operation) (name : String) (s : Store) : Prop where
  /-- All groups with the name are, in every space, the one that was saved last, or else those that the dataset lists. -/
  named : ∀ space, (s.groupsNamed name).filter (fun g => g.space == space) =
    (os.filterMap (Operation.savedGroup? space name)).getLast?.elim ((ofDataset d).namesakes space name) ([·])
  /-- The group with the name in a space is the first of them. -/
  first : ∀ space, s.group? space name = ((s.groupsNamed name).filter fun g => g.space == space).head?
  /-- So the two ways agree exactly where such a group was saved or the dataset lists one at most. -/
  agree_iff : ∀ space, s.LookUpsAgree space name ↔
    (∃ g, .saveGroup g ∈ os ∧ g.space = space ∧ g.name = name) ∨ ((ofDataset d).namesakes space name).length ≤ 1
  /-- If they agree everywhere, looking for members in all spaces is looking for them in one space after the other. -/
  expands : (∀ space, s.LookUpsAgree space name) → s.ExpandsBySpaces name

/-- **The two look-ups of groups agree** about all that was saved, and about what a dataset lists once. -/
theorem looksUpGroups_run (d : Dataset) (os : List Operation) (name : String) :
    LooksUpGroups d os name ((ofDataset d).run os) where
  named space := by rw [filter_groupsNamed, namesakes_run]
  first space := by rw [filter_groupsNamed, group?_eq_head?]
  agree_iff space := by
    rw [lookUpsAgree_iff, namesakes_run]
    have hnone : (os.filterMap (Operation.savedGroup? space name)).getLast? = none ↔ _ :=
      getLast?_savedGroups_eq_none_iff os
    cases hsaved : (os.filterMap (Operation.savedGroup? space name)).getLast? with
    | none =>
      rw [Option.elim_none, or_iff_right (hnone.1 hsaved)]
    | some g =>
      have hexists : ∃ g, .saveGroup g ∈ os ∧ g.space = space ∧ g.name = name := by
        rw [hsaved] at hnone
        exact Classical.not_not.1 (mt hnone.2 nofun)
      exact iff_of_true (Nat.le_refl 1) (.inl hexists)
  expands := expandsBySpaces_of_lookUpsAgree

def twofold : Dataset :=
  { Dataset.empty with groups := [⟨"work", "a", .requirement, ["bug"]⟩, ⟨"work", "a", .requirement, ["task"]⟩] }

/-- **Namesakes of a dataset** are told apart by the two ways: one of them finds both, the other does not find the
second, and the types of the second belong to the groups of all spaces but to those of no space. -/
theorem not_lookUpsAgree_twofold :
    (ofDataset twofold).group? "a" "work" = some ⟨"work", "a", .requirement, ["bug"]⟩ ∧
      (ofDataset twofold).groupsNamed "work" = twofold.groups ∧
      ¬(ofDataset twofold).LookUpsAgree "a" "work" ∧ ¬(ofDataset twofold).ExpandsBySpaces "work" := by
  refine ⟨by decide, by decide, by rw [lookUpsAgree_iff]; decide, fun h => ?_⟩
  obtain ⟨space, types, htypes, htask⟩ := (h.contains_iff "task").1 ⟨.ofList ["bug", "task"], by decide, by decide⟩
  obtain ⟨g, hg, htask⟩ := Filter.Resolver.exists_membersIn_iff.1 ⟨types, htypes, htask⟩
  rw [groupsIn_ofList_singleton, Option.mem_toList] at hg
  by_cases hspace : "a" = space
  · subst hspace
    cases hg
    exact absurd htask (by decide)
  · have hnone : (ofDataset twofold).group? space "work" = none := by simp [group?, ofDataset, twofold, hspace]
    cases hnone.symm.trans hg

end Store
end Backlog
