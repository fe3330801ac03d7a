/-!
# Outcome — computations that may fail, taken apart

A computation that goes on only after success has a result exactly when every step has one, and fails with the failure
of a step.  These are the equations by which the steps of compilation, of reading and of the walks through the hierarchy
are taken apart.
-/
namespace Backlog
namespace Outcome

variable {ε α β γ : Type}

theorem bind_eq_ok {x : Except ε α} {f : α → Except ε β} {b : β} :
    x >>= f = .ok b ↔ ∃ a, x = .ok a ∧ f a = .ok b := by
  constructor
  · intro h
    cases x with
    | error e => cases h
    | ok a => exact ⟨a, rfl, h⟩
  · rintro ⟨a, rfl, h⟩
    exact h

theorem bind_eq_error {x : Except ε α} {f : α → Except ε β} {e : ε} :
    x >>= f = .error e ↔ x = .error e ∨ ∃ a, x = .ok a ∧ f a = .error e := by
  constructor
  · intro h
    cases x with
    | error e' =>
      cases h
      exact .inl rfl
    | ok a => exact .inr ⟨a, rfl, h⟩
  · rintro (rfl | ⟨a, rfl, h⟩)
    · rfl
    · exact h

theorem bind_pure_eq_error {x : Except ε α} {f : α → β} {e : ε} :
    (x >>= fun a => pure (f a)) = .error e ↔ x = .error e := by
  cases x <;> simp [bind, Except.bind, pure, Except.pure]

theorem bind_pure_eq_map (x : Except ε α) (f : α → β) : (x >>= fun a => pure (f a)) = x.map f := by
  cases x <;> rfl

theorem exists_eq_ok_iff {x : Except ε α} : (∃ a, x = .ok a) ↔ ∀ e, x ≠ .error e := by
  cases x <;> simp

/-- Two computations one after the other fail as the first, or as the second if the first does not fail. -/
theorem both_eq_error {x : Except ε α} {y : Except ε β} {f : α → β → γ} {e : ε} :
    (x >>= fun a => y >>= fun b => pure (f a b)) = .error e ↔ x = .error e ∨ (∀ e', x ≠ .error e') ∧ y = .error e := by
  rw [bind_eq_error, ← exists_eq_ok_iff]
  simp only [bind_pure_eq_error, exists_and_right]

theorem map_eq_ok {x : Except ε α} {f : α → β} {b : β} : x.map f = .ok b ↔ ∃ a, x = .ok a ∧ f a = b := by
  cases x <;> simp [Except.map]

theorem map_map (x : Except ε α) (f : α → β) (g : β → γ) : (x.map f).map g = x.map (g ∘ f) := by
  cases x <;> rfl

theorem map_eq_error {x : Except ε α} {f : α → β} {e : ε} : x.map f = .error e ↔ x = .error e := by
  cases x <;> simp [Except.map]

theorem map_congr_of_map_eq {x y : Except ε α} {f f' : α → γ} {g : α → β} (h : x.map g = y.map g)
    (hf : ∀ a b, g a = g b → f a = f' b) : x.map f = y.map f' := by
  cases x with
  | error e =>
    rw [map_eq_error.1 h.symm]
    rfl
  | ok a =>
    obtain ⟨b, rfl, hb⟩ := map_eq_ok.1 h.symm
    exact congrArg Except.ok (hf a b hb.symm)

theorem toOption_eq_some {x : Except ε α} {a : α} : x.toOption = some a ↔ x = .ok a := by
  cases x <;> simp [Except.toOption]

theorem mapError_eq_ok {ε' : Type} {x : Except ε α} {f : ε → ε'} {a : α} : x.mapError f = .ok a ↔ x = .ok a := by
  cases x with
  | error e => exact ⟨nofun, nofun⟩
  | ok b => exact ⟨fun h => by cases h; rfl, fun h => by cases h; rfl⟩

theorem mapError_eq_error {ε' : Type} {x : Except ε α} {f : ε → ε'} {e : ε'} :
    x.mapError f = .error e ↔ ∃ e', x = .error e' ∧ f e' = e := by
  constructor
  · intro h
    cases x with
    | error e' =>
      cases h
      exact ⟨e', rfl, rfl⟩
    | ok a => cases h
  · rintro ⟨e', rfl, rfl⟩
    rfl

/-! ## Results without the reason why there is none -/

theorem toOption_bind (x : Except ε α) (f : α → Except ε β) :
    (x >>= f).toOption = x.toOption.bind fun a => (f a).toOption := by
  cases x <;> rfl

theorem toOption_map (x : Except ε α) (f : α → β) : (x.map f).toOption = x.toOption.map f := by
  cases x <;> rfl

theorem toOption_eq_none_iff {x : Except ε α} : x.toOption = none ↔ ∃ e, x = .error e := by
  cases x <;> simp [Except.toOption]

theorem mapError_bind {ε' : Type} (x : Except ε α) (f : α → Except ε β) (g : ε → ε') :
    (x >>= f).mapError g = x.mapError g >>= fun a => (f a).mapError g := by
  cases x <;> rfl

theorem mapError_mapError {ε' ε'' : Type} (x : Except ε α) (f : ε → ε') (g : ε' → ε'') :
    (x.mapError f).mapError g = x.mapError (g ∘ f) := by
  cases x <;> rfl

/-- Where all failures are told alike, it is told only whether there is a result, and which. -/
theorem mapError_eq_of_toOption_eq {ε' : Type} {x y : Except ε α} {g : ε → ε'} (hg : ∀ e e', g e = g e')
    (h : x.toOption = y.toOption) : x.mapError g = y.mapError g := by
  cases x with
  | error e =>
    obtain ⟨e', rfl⟩ := toOption_eq_none_iff.1 h.symm
    exact congrArg Except.error (hg e e')
  | ok a => rw [toOption_eq_some.1 h.symm]

/-! ## Lists of computations -/

/-- **A list of computations** has a result exactly when each has one. -/
theorem mapM_eq_ok {f : α → Except ε β} :
    ∀ {xs : List α}, (∃ ys, xs.mapM f = .ok ys) ↔ ∀ x ∈ xs, ∃ y, f x = .ok y
  | [] => ⟨fun _ _ h => (List.not_mem_nil h).elim, fun _ => ⟨[], rfl⟩⟩
  | x :: xs => by
    rw [List.mapM_cons, List.forall_mem_cons, ← mapM_eq_ok]
    constructor
    · rintro ⟨ys, h⟩
      obtain ⟨y, hy, h⟩ := bind_eq_ok.1 h
      obtain ⟨ys', hys, -⟩ := bind_eq_ok.1 h
      exact ⟨⟨y, hy⟩, ys', hys⟩
    · rintro ⟨⟨y, hy⟩, ys, hys⟩
      exact ⟨y :: ys, bind_eq_ok.2 ⟨y, hy, bind_eq_ok.2 ⟨ys, hys, rfl⟩⟩⟩

theorem mem_of_mapM_eq_ok {f : α → Except ε β} :
    ∀ {xs : List α} {ys : List β}, xs.mapM f = .ok ys → ∀ y, y ∈ ys ↔ ∃ x ∈ xs, f x = .ok y
  | [], ys, h, y => by
    cases h
    simp
  | x :: xs, ys, h, y => by
    rw [List.mapM_cons] at h
    obtain ⟨y', hy, h⟩ := bind_eq_ok.1 h
    obtain ⟨ys', hys, h⟩ := bind_eq_ok.1 h
    cases h
    have he : y = y' ↔ f x = .ok y := by rw [hy, Except.ok.injEq, eq_comm]
    simp only [List.mem_cons, exists_eq_or_imp, he, mem_of_mapM_eq_ok hys]

theorem length_of_mapM_eq_ok {f : α → Except ε β} :
    ∀ {xs : List α} {ys : List β}, xs.mapM f = .ok ys → ys.length = xs.length
  | [], ys, h => by
    cases h
    rfl
  | x :: xs, ys, h => by
    rw [List.mapM_cons] at h
    obtain ⟨y, -, h⟩ := bind_eq_ok.1 h
    obtain ⟨ys', hys, h⟩ := bind_eq_ok.1 h
    cases h
    rw [List.length_cons, List.length_cons, length_of_mapM_eq_ok hys]

theorem mapM_map_result {f : α → Except ε β} (g : β → γ) :
    ∀ xs : List α, xs.mapM (fun x => (f x).map g) = (xs.mapM f).map (List.map g)
  | [] => rfl
  | x :: xs => by
    rw [List.mapM_cons, List.mapM_cons, mapM_map_result g xs]
    cases f x with
    | error e => rfl
    | ok y => cases xs.mapM f <;> rfl

/-- **A list of computations fails** with the failure of the first that fails. -/
theorem mapM_eq_error {f : α → Except ε β} {e : ε} :
    ∀ {xs : List α}, xs.mapM f = .error e →
      ∃ before x after, xs = before ++ x :: after ∧ (∀ b ∈ before, ∃ y, f b = .ok y) ∧ f x = .error e
  | [], h => by cases h
  | x :: xs, h => by
    rw [List.mapM_cons] at h
    rcases bind_eq_error.1 h with h | ⟨y, hy, h⟩
    · exact ⟨[], x, xs, rfl, fun _ hb => (List.not_mem_nil hb).elim, h⟩
    · rcases bind_eq_error.1 h with h | ⟨ys, -, h⟩
      · obtain ⟨before, x', after, rfl, hbefore, he⟩ := mapM_eq_error h
        refine ⟨x :: before, x', after, rfl, ?_, he⟩
        rw [List.forall_mem_cons]
        exact ⟨⟨y, hy⟩, hbefore⟩
      · cases h

end Outcome
end Backlog
