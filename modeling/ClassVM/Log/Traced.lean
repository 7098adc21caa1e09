/-! # Computations that leave a trace

A traced computation comes to a value or an error, and lists the events on the way. The events are
a by-product: what a sequence of computations comes to depends only on what its parts come to. -/

namespace ClassVM.Log

/-- What a computation came to, and the events on the way, in order. -/
structure Traced (ω ε α : Type) where
  outcome : Except ε α
  events : List ω

namespace Traced

variable {ω ε α β : Type}

/-- A value without events. -/
def value (a : α) : Traced ω ε α := ⟨.ok a, []⟩

/-- An error without events. -/
def fail (e : ε) : Traced ω ε α := ⟨.error e, []⟩

/-- One event. -/
def emit (event : ω) : Traced ω ε Unit := ⟨.ok (), [event]⟩

/-- A result without events. -/
def ofExcept (result : Except ε α) : Traced ω ε α := ⟨result, []⟩

/-- The same computation with its error, if it comes to one, replaced. -/
def mapError {ε' : Type} (f : ε → ε') (computation : Traced ω ε α) : Traced ω ε' α :=
  ⟨computation.outcome.mapError f, computation.events⟩

/-- One computation after another; an error ends the sequence and keeps the events so far. -/
def andThen (first : Traced ω ε α) (next : α → Traced ω ε β) : Traced ω ε β :=
  match first.outcome with
  | .error e => ⟨.error e, first.events⟩
  | .ok a =>
      match next a with
      | ⟨outcome, events⟩ => ⟨outcome, first.events ++ events⟩

/-- The same computation with its value replaced; its events stay as they are. -/
def mapValue (f : α → β) (computation : Traced ω ε α) : Traced ω ε β :=
  ⟨computation.outcome.map f, computation.events⟩

instance : Monad (Traced ω ε) where
  map := mapValue
  pure := value
  bind := andThen

theorem outcome_bind (first : Traced ω ε α) (next : α → Traced ω ε β) :
    (first >>= next).outcome = first.outcome >>= fun a => (next a).outcome := by
  show (andThen first next).outcome = _
  unfold andThen
  cases first.outcome <;> rfl

@[simp] theorem outcome_map (f : α → β) (computation : Traced ω ε α) :
    (f <$> computation).outcome = computation.outcome.map f := rfl

@[simp] theorem outcome_pure (a : α) : (pure a : Traced ω ε α).outcome = .ok a := rfl

@[simp] theorem outcome_fail (e : ε) : (fail e : Traced ω ε α).outcome = .error e := rfl

@[simp] theorem outcome_emit (event : ω) : (emit event : Traced ω ε Unit).outcome = .ok () := rfl

end Traced

end ClassVM.Log
