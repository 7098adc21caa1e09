import ClassVM.Machine.Execution

/-! # Fuel only bounds a run

An answer that has been found with some fuel is found with more. So the fuel decides whether there
is an answer, and never which. -/

namespace ClassVM

namespace Step

variable {φ : Type} {step : φ → Session → Step φ}

theorem run_succ {fuel : Nat} {frame : φ} {session : Session} {found : Answer × Session}
    (h : run step fuel frame session = some found) :
    run step (fuel + 1) frame session = some found := by
  induction fuel generalizing frame session found with
  | zero => simp [run] at h
  | succ fuel ih =>
      rw [run] at h ⊢
      split at h
      · exact h
      · exact ih h
      · split at h
        · simp at h
        · next callee => rw [ih callee]; exact h
        · next callee => rw [ih callee]; exact ih h
      · simp at h

/-- A frame that ends with some fuel ends the same way with more. -/
theorem run_of_le {less more : Nat} {frame : φ} {session : Session} {found : Answer × Session}
    (hle : less ≤ more) (h : run step less frame session = some found) :
    run step more frame session = some found := by
  induction hle with
  | refl => exact h
  | step _ ih => exact run_succ ih

end Step

namespace Machine

variable (machine : Machine)

/-- A call that ends with some fuel ends the same way with more. -/
theorem invoke_of_le {less more : Nat} {name : String} {session : Session}
    {found : Answer × Session} (hle : less ≤ more)
    (h : machine.invoke less name session = some found) :
    machine.invoke more name session = some found := by
  unfold invoke at h ⊢
  split at h
  · exact h
  · split at h
    · simp at h
    · next callee => rw [execute, Step.run_of_le hle callee]; exact h

/-- Whatever the fuel, a call ends in one way only. -/
theorem invoke_unique {fuel fuel' : Nat} {name : String} {session : Session}
    {found found' : Answer × Session} (h : machine.invoke fuel name session = some found)
    (h' : machine.invoke fuel' name session = some found') : found = found' := by
  have hmax := machine.invoke_of_le (Nat.le_max_left fuel fuel') h
  rw [machine.invoke_of_le (Nat.le_max_right fuel fuel') h'] at hmax
  exact (Option.some.inj hmax).symm

/-- A run that ends with some fuel ends the same way with more. -/
theorem run_of_le {less more : Nat} {name : String} {session : Session}
    {found : Answer × Session} (hle : less ≤ more)
    (h : machine.run less name session = some found) :
    machine.run more name session = some found := by
  unfold run at h ⊢
  split at h
  · exact h
  · simp only at h ⊢
    split at h
    · simp at h
    · next callee => rw [machine.invoke_of_le hle callee]; exact h

end Machine

end ClassVM
