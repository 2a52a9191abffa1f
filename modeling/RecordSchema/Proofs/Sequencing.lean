/-!
# One reading after another

All readers of the library give a result or the first fault. These are the laws of doing one thing
after another with such results, for whatever kind of fault: what a sequence gives is told by what
its parts give. A list of checks stops at the first that fails (`forM_eq_error_iff`).
-/

namespace RecordSchema

variable {ε α β : Type} {fault : ε} {next : α → Except ε β}

@[simp] theorem ok_bind (a : α) : (Except.ok a >>= next) = next a := rfl

@[simp] theorem error_bind : ((Except.error fault : Except ε α) >>= next) = .error fault := rfl

theorem bind_eq_ok {x : Except ε α} {b : β} (h : x >>= next = .ok b) :
    ∃ a, x = .ok a ∧ next a = .ok b := by
  cases x with
  | error fault => cases h
  | ok a => exact ⟨a, rfl, h⟩

theorem bind_eq_error {x : Except ε α} (h : x >>= next = .error fault) :
    x = .error fault ∨ ∃ a, x = .ok a ∧ next a = .error fault := by
  cases x with
  | error fault =>
      cases h
      exact .inl rfl
  | ok a => exact .inr ⟨a, rfl, h⟩

/-- What is done with a result afterwards does not change that there is one. -/
theorem isOk_bind_ok (x : Except ε α) (f : α → β) :
    (x >>= fun a => .ok (f a)).isOk = x.isOk := by
  cases x <;> rfl

theorem mapError_bind (change : ε → ε) (x : Except ε α) :
    (x >>= next).mapError change = x.mapError change >>= fun a => (next a).mapError change := by
  cases x <;> rfl

/-! ### Checks one by one -/

theorem forM_eq_ok_iff {check : α → Except ε Unit} {as : List α} :
    forM as check = .ok () ↔ ∀ a ∈ as, check a = .ok () := by
  induction as with
  | nil => simp [pure, Except.pure]
  | cons a as ih =>
      rw [List.forM_cons, List.forall_mem_cons, ← ih]
      constructor
      · intro h
        obtain ⟨_, ha, has⟩ := bind_eq_ok h
        exact ⟨ha, has⟩
      · rintro ⟨ha, has⟩
        rw [ha, ok_bind, has]

/-- The first check that fails decides, and those after it are not made. -/
theorem forM_eq_error_iff {check : α → Except ε Unit} {as : List α} :
    forM as check = .error fault ↔ ∃ before a after, as = before ++ a :: after ∧
      (∀ b ∈ before, check b = .ok ()) ∧ check a = .error fault := by
  constructor
  · intro h
    induction as with
    | nil => cases h
    | cons a as ih =>
        rw [List.forM_cons] at h
        rcases bind_eq_error h with ha | ⟨_, ha, has⟩
        · exact ⟨[], a, as, rfl, by simp, ha⟩
        · obtain ⟨before, b, after, rfl, hbefore, hb⟩ := ih has
          exact ⟨a :: before, b, after, rfl, List.forall_mem_cons.mpr ⟨ha, hbefore⟩, hb⟩
  · rintro ⟨before, a, after, rfl, hbefore, ha⟩
    rw [List.forM_append, forM_eq_ok_iff.mpr hbefore, ok_bind, List.forM_cons, ha, error_bind]

end RecordSchema
