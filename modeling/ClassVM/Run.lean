import ClassVM.ClassFile.Format
import ClassVM.Files.Tree
import ClassVM.Machine.Execution

/-! # From bytes to an answer

Reading a class file and running one of its methods, with everything that can go wrong on the
way. -/

namespace ClassVM

/-- Why a class could not be run to an answer. -/
inductive Failure where
  | reading (cause : ClassFile.ReadError)
  | execution (cause : Fault)
  | loading (cause : Files.FileError)
  deriving DecidableEq

namespace Failure

/-- The wording of a failure. -/
def message : Failure → String
  | .reading cause => "could not parse class file: " ++ cause.message
  | .execution cause => "execution failed: " ++ cause.message
  | .loading cause => "could not load class: " ++ cause.message

/-- The category of a failure. -/
def category : Failure → Category
  | .reading _ => .malformedInput
  | .execution cause => cause.category
  | .loading _ => .io

end Failure

/-- The records among a list that a threshold admits. -/
def Log.admitted (threshold : Log.Threshold) (records : List Log.Record) : List Log.Record :=
  records.filter fun record => Log.admits threshold record.level

/-- What running a method came to. -/
structure RunReport where
  answer : Except Failure (Option Value)
  records : List Log.Record
  sink : Sink

/-- How to run a class. -/
structure RunSetup where
  limits : Limits
  sink : Sink
  threshold : Log.Threshold

/-- Reads a class and runs one of its methods on a machine of its own. -/
def runClass (fuel : Nat) (setup : RunSetup) (bytes : List UInt8) (method : String) :
    Option RunReport :=
  match ClassFile.parse bytes with
  | ⟨outcome, events⟩ =>
      let read := Log.admitted setup.threshold (events.map ClassFile.ReadEvent.record)
      match outcome with
      | .error e => some ⟨.error (.reading e), read, setup.sink⟩
      | .ok classFile =>
          let machine : Machine := { classFile, limits := setup.limits }
          match machine.run fuel method (.start setup.sink setup.threshold) with
          | none => none
          | some (answer, session) =>
              some
                { answer := answer.mapError .execution
                  records := read ++ session.journal.events.toList.map MachineEvent.record
                  sink := session.sink }

end ClassVM
