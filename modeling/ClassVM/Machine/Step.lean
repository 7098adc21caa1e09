import ClassVM.Machine.Action
import ClassVM.Machine.Session

/-! # Steps of a frame

A frame goes from step to step until it ends. A call runs a frame of its own to its end before the
caller goes on. What a frame is, and how it finds its next instruction, is left open here. -/

namespace ClassVM

/-- What a method returned, if anything, or why it stopped. -/
abbrev Answer := Except Fault (Option Value)

/-- What one step of a frame comes to. -/
inductive Step (φ : Type) where
  /-- The frame has ended. -/
  | done (answer : Answer) (session : Session)
  /-- The frame goes on. -/
  | next (frame : φ) (session : Session)
  /-- A method has been entered; the frame goes on with what it returns. -/
  | call (method : String) (callee : φ) (resume : Option Value → φ) (session : Session)
  /-- The step never ends, because the sink does not answer. -/
  | stalled

/-- A memory after a call: a value that was returned is on top of the stack. -/
def Memory.receive (memory : Memory) : Option Value → Memory
  | none => memory
  | some value => { memory with stack := memory.stack.push value }

/-- Carries out what an instruction asks for. The frame goes on by `next` or `jump`, and a call
makes its frame by `enter`. -/
def Action.perform {τ φ : Type} (next : Memory → φ) (jump : τ → Memory → φ)
    (enter : String → List Value → Session → Except Fault φ × Session) (session : Session) :
    Action τ → Step φ
  | .advance memory => .next (next memory) session
  | .jump target memory => .next (jump target memory) session
  | .print value memory =>
      match session.printLine value with
      | none => .stalled
      | some (.error fault, session) => .done (.error fault) session
      | some (.ok _, session) => .next (next memory) session
  | .call name arguments memory =>
      match enter name arguments session with
      | (.error fault, session) => .done (.error fault) session
      | (.ok callee, session) =>
          .call name callee (fun result => next (memory.receive result)) session
  | .finish result => .done (.ok result) session

namespace Step

variable {φ : Type}

/-- Steps a frame to its end. Every step spends one unit of fuel, and there is no answer without
fuel, nor after a step that never ends. -/
def run (step : φ → Session → Step φ) : (fuel : Nat) → φ → Session → Option (Answer × Session)
  | 0, _, _ => none
  | fuel + 1, frame, session =>
      match step frame session with
      | .done answer session => some (answer, session)
      | .next frame session => run step fuel frame session
      | .call name callee resume session =>
          match run step fuel callee session with
          | none => none
          | some (.error fault, session) => some (.error fault, session.closed name)
          | some (.ok result, session) => run step fuel (resume result) (session.closed name)
      | .stalled => none

end Step

end ClassVM
