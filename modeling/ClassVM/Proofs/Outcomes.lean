import Mathlib.Data.List.Forall2

/-! # Results that may be errors

When a computation comes to a value, and when to an error: through one step after another, through
a change of the value or the error, and through a traversal, which ends at its first error. -/

namespace ClassVM

theorem bind_eq_ok_iff {α β ε : Type} {result : Except ε α} {next : α → Except ε β} {b : β} :
    result >>= next = .ok b ↔ ∃ a, result = .ok a ∧ next a = .ok b := by
  cases result with
  | error e => simp [bind, Except.bind]
  | ok a => simp [bind, Except.bind]

theorem bind_eq_error_iff {α β ε : Type} {result : Except ε α} {next : α → Except ε β} {e : ε} :
    result >>= next = .error e ↔
      result = .error e ∨ ∃ a, result = .ok a ∧ next a = .error e := by
  cases result with
  | error e => simp [bind, Except.bind]
  | ok a => simp [bind, Except.bind]

theorem map_eq_ok_iff {α β ε : Type} {f : α → β} {result : Except ε α} {b : β} :
    result.map f = .ok b ↔ ∃ a, result = .ok a ∧ f a = b := by
  cases result with
  | error e => simp [Except.map]
  | ok a => simp [Except.map]

theorem map_eq_error_iff {α β ε : Type} {f : α → β} {result : Except ε α} {e : ε} :
    result.map f = .error e ↔ result = .error e := by
  cases result with
  | error e => simp [Except.map]
  | ok a => simp [Except.map]

theorem mapError_eq_error_iff {α ε ε' : Type} {f : ε → ε'} {result : Except ε α} {e : ε'} :
    result.mapError f = .error e ↔ ∃ cause, result = .error cause ∧ f cause = e := by
  cases result with
  | error e => simp [Except.mapError]
  | ok a => simp [Except.mapError]

theorem mapError_eq_ok_iff {α ε ε' : Type} {f : ε → ε'} {result : Except ε α} {a : α} :
    result.mapError f = .ok a ↔ result = .ok a := by
  cases result with
  | error e => simp [Except.mapError]
  | ok a => simp [Except.mapError]

theorem eq_ok_of_toOption {α ε : Type} {result : Except ε α} {a : α}
    (h : result.toOption = some a) : result = .ok a := by
  cases result with
  | error e => cases h
  | ok b =>
      cases h
      rfl

/-! ## Traversals -/

theorem mapM_eq_ok_iff {α β ε : Type} {f : α → Except ε β} {inputs : List α} {results : List β} :
    inputs.mapM f = .ok results ↔ List.Forall₂ (fun a b => f a = .ok b) inputs results := by
  induction inputs generalizing results with
  | nil =>
      rw [List.mapM_nil, List.forall₂_nil_left_iff]
      constructor
      · intro h
        cases h
        rfl
      · rintro rfl
        rfl
  | cons a inputs ih =>
      rw [List.mapM_cons, List.forall₂_cons_left_iff]
      constructor
      · intro h
        cases hfirst : f a with
        | error e => simp [hfirst, bind, Except.bind] at h
        | ok b =>
            cases hrest : inputs.mapM f with
            | error e => simp [hfirst, hrest, bind, Except.bind] at h
            | ok rest =>
                simp only [hfirst, hrest, bind, Except.bind, pure, Except.pure,
                  Except.ok.injEq] at h
                exact ⟨b, rest, rfl, ih.1 hrest, h.symm⟩
      · rintro ⟨b, rest, hfirst, hrest, rfl⟩
        rw [hfirst, ih.2 hrest]
        rfl

theorem mapM_append_eq_ok_iff {α β ε : Type} {f : α → Except ε β} {front back : List α}
    {results : List β} :
    (front ++ back).mapM f = .ok results ↔
      ∃ first later, front.mapM f = .ok first ∧ back.mapM f = .ok later ∧
        results = first ++ later := by
  rw [List.mapM_append, bind_eq_ok_iff]
  simp only [bind_eq_ok_iff]
  constructor
  · rintro ⟨first, hfirst, later, hlater, hresults⟩
    exact ⟨first, later, hfirst, hlater, (Except.ok.inj hresults).symm⟩
  · rintro ⟨first, later, hfirst, hlater, rfl⟩
    exact ⟨first, hfirst, later, hlater, rfl⟩

/-- A traversal that fails does so at the first input that has no result. -/
theorem exists_first_of_mapM_error {α β ε : Type} {f : α → Except ε β} {inputs : List α} {e : ε}
    (h : inputs.mapM f = .error e) :
    ∃ (index : Nat) (a : α), inputs[index]? = some a ∧ f a = .error e ∧
      ∀ earlier < index, ∀ b, inputs[earlier]? = some b → ∃ result, f b = .ok result := by
  induction inputs with
  | nil => cases h
  | cons first inputs ih =>
      rw [List.mapM_cons] at h
      obtain hfirst | ⟨result, hfirst, hrest⟩ := bind_eq_error_iff.1 h
      · exact ⟨0, first, rfl, hfirst, fun earlier hlt => absurd hlt (Nat.not_lt_zero _)⟩
      · obtain hrest | ⟨results, -, hpure⟩ := bind_eq_error_iff.1 hrest
        · obtain ⟨index, a, ha, herror, hearlier⟩ := ih hrest
          refine ⟨index + 1, a, ha, herror, ?_⟩
          intro earlier hlt b hb
          cases earlier with
          | zero =>
              cases hb
              exact ⟨result, hfirst⟩
          | succ earlier => exact hearlier earlier (Nat.lt_of_succ_lt_succ hlt) b hb
        · cases hpure

end ClassVM
