import Backlog.Proofs.Hierarchy.Inclusion
import Backlog.Proofs.Store.History
/-!
# Obstruction — why a page cannot be shown with its ancestors

Where the links of a store are connected, the parents of an item are stored, since they are sources of links, and no
link has an unknown type.  Two of the failures of a page with its ancestors are then excluded; what remains is about the
shape of the hierarchy above an item of the page (`Flaw`): several parents, a circle, or too many levels.
-/
namespace Backlog
namespace Hierarchy

variable {s : Store} {id last : String} {path : List String} {levels : Nat} {fault : InternalFault}

/-- What can be wrong with the hierarchy above an item, by the failure that it leads to.  There is nothing here about an
item that is missing or a type of links that is unknown. -/
inductive Flaw (s : Store) (levels : Nat) (id : String) : InternalFault → Prop
  /-- The item or one above it has several parents. -/
  | severalParents {path : List String} {last : String} {parents : List String} (h : Ascent s id path last)
    (hlength : 2 ≤ parents.length) (hnodup : parents.Nodup)
    (hmem : ∀ parent, parent ∈ parents ↔ s.HasParent last parent) :
    Flaw s levels id (.store (.severalParents last parents))
  /-- The parents go round in a circle. -/
  | circle {path : List String} {again : String} (h : Circles s id path again) : Flaw s levels id (.cycle again)
  /-- There are more different items above than allowed. -/
  | tooDeep {path : List String} {last : String} (h : Ascent s id path last) (hnodup : (id :: path).Nodup)
    (hlong : levels < path.length) : Flaw s levels id (.tooDeep id levels)

/-! ## Connected links -/

theorem exists_load_of_ascent (hlinked : s.IsLinked) (h : Ascent s id path last) {x : String} (hx : x ∈ path) :
    ∃ item, s.load x = .ok item := by
  obtain ⟨l, hl, rfl⟩ := List.mem_map.1 (h.subset_sources hx)
  have hstored : (s.items.get? l.source).isSome = true := by
    rw [← Registry.contains_eq_isSome]
    exact (hlinked l hl).source
  obtain ⟨item, hitem⟩ := Option.isSome_iff_exists.1 hstored
  refine ⟨item, ?_⟩
  rw [Store.load, hitem]

theorem severalParents_of_parentOf?_eq_error (hlinked : s.IsLinked) {e : StoreError} (h : s.parentOf? id = .error e) :
    ∃ parents, e = .severalParents id parents ∧ 2 ≤ parents.length ∧ parents.Nodup ∧
      ∀ parent, parent ∈ parents ↔ s.HasParent id parent := by
  rcases Store.of_parentOf?_eq_error h with ⟨l, hl, hunknown, -⟩ | hparents
  · have htype := (hlinked l hl).type
    rw [Registry.contains_eq_isSome, hunknown] at htype
    cases htype
  · exact hparents

/-! ## Failures -/

theorem flaw_of_ancestors_eq_error (hlinked : s.IsLinked) (h : ancestors s levels id = .error fault) :
    Flaw s levels id fault := by
  obtain ⟨path, last, htrail⟩ := exists_trail s id
  rw [htrail.ancestors_eq] at h
  by_cases hlong : path.length ≤ levels
  · rw [if_pos hlong] at h
    cases hp : s.parentOf? last with
    | error e =>
      rw [hp] at h
      cases h
      obtain ⟨parents, rfl, hlength, hnodup, hmem⟩ := severalParents_of_parentOf?_eq_error hlinked hp
      exact .severalParents htrail.ascent hlength hnodup hmem
    | ok parent =>
      rw [hp] at h
      cases parent with
      | none => cases h
      | some again =>
        cases h
        exact .circle ⟨last, htrail.ascent, htrail.nodup, hp, htrail.ends again hp⟩
  · rw [if_neg hlong] at h
    cases h
    exact .tooDeep htrail.ascent htrail.nodup (Nat.not_le.1 hlong)

/-- **Where all links are connected, a page fails by the shape of the hierarchy alone.** -/
theorem flaw_of_withAncestors_eq_error (hlinked : s.IsLinked) {items : List WorkItem}
    (h : withAncestors s levels items = .error fault) : ∃ item ∈ items, Flaw s levels item.id fault := by
  obtain ⟨item, hitem, hfault⟩ := isObstacle_of_withAncestors h
  rcases hfault with hwalk | ⟨chain, hchain, x, hx, -, e, he, -⟩
  · exact ⟨item, hitem, flaw_of_ancestors_eq_error hlinked hwalk⟩
  · -- every ancestor is the source of a link, so it can be loaded
    obtain ⟨last, hascent, -⟩ := parentChain_iff.1 (ancestors_eq_ok_iff.1 hchain).1
    obtain ⟨stored, hstored⟩ := exists_load_of_ascent hlinked hascent hx
    cases hstored.symm.trans he

/-- **What can go wrong on a store that was built by operations.**  Its links never dangle, whatever the operations were,
in which order they came and which of them were refused; so a page of it can be shown with its ancestors unless there
are several parents, a circle or too many levels above one of the items. -/
theorem run_neverDangles (os : List Operation) :
    (Store.run .empty os).IsLinked ∧
      ∀ levels items fault, withAncestors (Store.run .empty os) levels items = .error fault →
        ∃ item ∈ items, Flaw (Store.run .empty os) levels item.id fault :=
  ⟨Store.isLinked_run os, fun _ _ _ h => flaw_of_withAncestors_eq_error (Store.isLinked_run os) h⟩

/-! ## A task with two parents -/

def opening : WorkItemUpdate :=
  ⟨none, none, some "open", none, none, none⟩

/-- How a task got two parents.  Three operations are refused, because there are no items to link yet, no type of links,
and no item to change. -/
def quarrel : List Operation :=
  [.saveLink ⟨"1", "epic", "task", "up"⟩, .saveItem (.new "task" newYear "s" "t" ""),
    .saveItem (.new "epic" newYear "s" "t" ""), .saveLink ⟨"2", "epic", "task", "up"⟩, .saveLinkType (.parenting "up"),
    .saveLink ⟨"3", "epic", "task", "up"⟩, .update "area" opening newYear, .saveItem (.new "area" newYear "s" "t" ""),
    .saveLink ⟨"4", "area", "task", "up"⟩, .update "area" opening newYear,
    .saveLinkType (.parenting "up")]

theorem run_neverDangles_quarrel :
    (Store.run .empty quarrel).links.map Link.id = ["3", "4"] ∧ (Store.run .empty quarrel).IsLinked ∧
      withAncestors (Store.run .empty quarrel) 9 [.new "task" newYear "s" "t" ""] =
        .error (.store (.severalParents "task" ["area", "epic"])) ∧
      Flaw (Store.run .empty quarrel) 9 "task" (.store (.severalParents "task" ["area", "epic"])) := by
  obtain ⟨hlinked, hflaw⟩ := run_neverDangles quarrel
  obtain ⟨item, hitem, h⟩ := hflaw 9 [.new "task" newYear "s" "t" ""] (.store (.severalParents "task" ["area", "epic"])) rfl
  rw [List.mem_singleton.1 hitem] at h
  exact ⟨rfl, hlinked, rfl, h⟩

end Hierarchy
end Backlog
