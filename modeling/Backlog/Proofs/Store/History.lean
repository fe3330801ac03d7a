import Backlog.Proofs.Outcome
import Backlog.Store.Operation
/-!
# History — what operations cannot break

No operation takes a work item or a type of links out of a store; where it saves another under the same identifier there
still is one (`keeps_of_apply`).  The only operation that adds a link refuses one whose ends or whose type are not there
(`connects_of_saveLink`).  So all the links of a store that was built by operations are connected, whatever the order of
the operations was and whichever of them were refused (`isLinked_run`).
-/
namespace Backlog
namespace Store

variable {s s' : Store} {o : Operation} {l : Link}

theorem run_cons (os : List Operation) : s.run (o :: os) = (s.step o).1.run os := rfl

/-- **What every accepted operation keeps is there after any sequence of operations**; those that are refused change
nothing. -/
theorem run_induction {P : Store → Prop} (hkept : ∀ s s' o, P s → s.apply o = .ok s' → P s') (h : P s)
    (os : List Operation) : P (s.run os) := by
  induction os generalizing s with
  | nil => exact h
  | cons o os ih =>
    rw [run_cons, step]
    cases happly : s.apply o with
    | error e => exact ih h
    | ok s' => exact ih (hkept s s' o h happly)

/-! ## What links refer to -/

/-- Whether the ends of a link and its type are in a store. -/
structure Connects (s : Store) (l : Link) : Prop where
  source : s.items.contains l.source = true
  target : s.items.contains l.target = true
  type : s.linkTypes.contains l.type = true

/-- Whether one store has all the work items and all the types of links that another has, by their identifiers. -/
structure Keeps (s s' : Store) : Prop where
  items : ∀ id, s.items.contains id = true → s'.items.contains id = true
  linkTypes : ∀ id, s.linkTypes.contains id = true → s'.linkTypes.contains id = true

theorem Connects.mono (h : s.Connects l) (hkeeps : Keeps s s') : s'.Connects l :=
  ⟨hkeeps.items _ h.source, hkeeps.items _ h.target, hkeeps.linkTypes _ h.type⟩

/-- **A link is saved only where it is connected**, and then it is the last of all. -/
theorem connects_of_saveLink (h : s.saveLink l = .ok s') : s.Connects l ∧ s' = { s with links := s.links ++ [l] } := by
  unfold saveLink at h
  split at h
  · cases h
  split at h
  · cases h
  split at h
  · cases h
  next hsource htarget htype =>
    cases h
    simp only [Bool.not_eq_true', Bool.not_eq_false] at hsource htarget htype
    exact ⟨⟨hsource, htarget, htype⟩, rfl⟩

/-! ## One operation -/

theorem keeps_of_apply (h : s.apply o = .ok s') : Keeps s s' := by
  cases o with
  | saveLinkType type =>
    cases h
    exact ⟨fun _ h => h, fun _ => Registry.contains_insert_of_contains type⟩
  | saveItem item =>
    cases h
    exact ⟨fun _ => Registry.contains_insert_of_contains (s.numbered item), fun _ h => h⟩
  | update id change now =>
    obtain ⟨item, -, rfl⟩ := Outcome.map_eq_ok.1 h
    exact ⟨fun _ => Registry.contains_insert_of_contains (change.applyTo now item), fun _ h => h⟩
  | saveLink link =>
    obtain ⟨-, rfl⟩ := connects_of_saveLink h
    exact ⟨fun _ h => h, fun _ h => h⟩
  | saveSpace space | saveType type | saveGroup group | saveIteration iteration | saveLabel label =>
    cases h
    exact ⟨fun _ h => h, fun _ h => h⟩

theorem mem_links_of_apply (h : s.apply o = .ok s') (hl : l ∈ s'.links) : l ∈ s.links ∨ s.Connects l := by
  cases o with
  | saveLink link =>
    obtain ⟨hlink, rfl⟩ := connects_of_saveLink h
    rcases List.mem_append.1 hl with hl | hl
    · exact .inl hl
    · rw [List.mem_singleton.1 hl]
      exact .inr hlink
  | update id change now =>
    obtain ⟨item, -, rfl⟩ := Outcome.map_eq_ok.1 h
    exact .inl hl
  | saveSpace space | saveType type | saveGroup group | saveIteration iteration | saveLabel label | saveLinkType type
  | saveItem item =>
    cases h
    exact .inl hl

/-! ## Sequences of operations -/

/-- Whether the ends of all stored links and their types are stored. -/
def IsLinked (s : Store) : Prop :=
  ∀ l ∈ s.links, s.Connects l

theorem isLinked_empty : IsLinked .empty := fun _ hl => (List.not_mem_nil hl).elim

theorem IsLinked.apply (h : s.IsLinked) (happly : s.apply o = .ok s') : s'.IsLinked := by
  intro l hl
  have hl : s.Connects l := (mem_links_of_apply happly hl).elim (h l) id
  exact hl.mono (keeps_of_apply happly)

/-- **Links never dangle** in a store that was built by operations. -/
theorem isLinked_run (os : List Operation) : (Store.run .empty os).IsLinked :=
  run_induction (fun _ _ _ h happly => h.apply happly) isLinked_empty os

end Store
end Backlog
