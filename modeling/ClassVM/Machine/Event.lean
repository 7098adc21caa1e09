import ClassVM.Machine.OperandStack

/-! # What is logged while a machine runs

Entering and leaving methods is reported for debugging, single instructions as a trace, and what
looks like a mistake in the program as a warning. -/

namespace ClassVM

/-- What a machine reports on the way. -/
inductive MachineEvent where
  | notStatic (method : String)
  | decoded (place : Code.Located)
  | entered (method : String) (depth : Nat)
  | executing (pc : Nat) (instruction : Instruction Nat) (stack : OperandStack)
  | noReturn
  | exited (method : String)
  deriving DecidableEq

namespace MachineEvent

/-- The level of an event. -/
def level : MachineEvent → Log.Level
  | .notStatic _ | .noReturn => .warn
  | .entered _ _ | .exited _ => .debug
  | .decoded _ | .executing _ _ _ => .trace

/-- The wording of an event. -/
def message : MachineEvent → String
  | .notStatic method => "Entry method " ++ method ++ " is not static"
  | .decoded place => place.record.message
  | .entered method depth => "Entered method " ++ method ++ " at depth " ++ toString depth
  | .executing pc instruction stack =>
      Text.alignRight 4 (toString pc) ++ ": " ++ Text.alignLeft 20 instruction.display ++ " " ++
        stack.describe
  | .noReturn => "Reached the end of the method without a return"
  | .exited method => "Exited method " ++ method

/-- The log record of an event. -/
def record (event : MachineEvent) : Log.Record where
  level := event.level
  source := match event with
    | .decoded _ => .decoder
    | _ => .machine
  message := event.message

end MachineEvent

end ClassVM
