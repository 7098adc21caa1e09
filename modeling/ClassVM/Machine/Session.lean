import ClassVM.Log.Journal
import ClassVM.Machine.Event
import ClassVM.Text.Utf8

/-! # What a machine keeps

From one run to the next a machine keeps the code that it has decoded, its sink, its journal and
the number of methods that are being run. A method is decoded when it is first called; code that
could not be decoded is not kept. -/

namespace ClassVM

/-- Instructions that are ready to run. -/
abbrev Program := Array (Instruction Nat)

/-- What a machine keeps from one run to the next. -/
structure Session where
  /-- Decoded methods by name, the latest first. -/
  programs : List (String × Program)
  sink : Sink
  journal : Log.Journal MachineEvent
  /-- The number of methods that have been entered and not yet left. -/
  depth : Nat

namespace Session

/-- A session before its first run. -/
def start (sink : Sink) (threshold : Log.Threshold) : Session :=
  ⟨[], sink, .empty threshold, 0⟩

/-- Reports an event. -/
def note (session : Session) (event : MachineEvent) : Session :=
  { session with journal := session.journal.note event.level event }

/-- Reports the instructions that were read while code was decoded. -/
def noteDecoded (session : Session) (places : List Code.Located) : Session :=
  places.foldl (fun s place => s.note (.decoded place)) session

/-- Enters a method. -/
def opened (session : Session) (name : String) : Session :=
  { session.note (.entered name session.depth) with depth := session.depth + 1 }

/-- Leaves a method. -/
def closed (session : Session) (name : String) : Session :=
  { session with depth := session.depth - 1 }.note (.exited name)

/-- Keeps the instructions of a method. -/
def remember (session : Session) (name : String) (program : Program) : Session :=
  { session with programs := (name, program) :: session.programs }

/-- Asks the sink to do something. There is no session after a call that never returns. -/
def ask (session : Session) (call : Sink.Call) : Option (Except Fault Unit × Session) :=
  match session.sink.ask call with
  | none => none
  | some (result, sink) => some (result.mapError .output, { session with sink })

/-- Writes a value and the end of a line. -/
def printLine (session : Session) (value : Value) : Option (Except Fault Unit × Session) :=
  session.ask (.write (Text.Utf8.encode (value.display ++ "\n")))

/-- The instructions of a method, decoded now or earlier, and the number of local variables that
it asks for. -/
def load (session : Session) (classFile : ClassFile) (name : String) :
    Except Fault (Program × Nat) × Session :=
  match classFile.method? name with
  | none => (.error (.method (.notFound name)), session)
  | some method =>
      match session.programs.lookup name with
      | some program => (.ok (program, method.maxLocals), session)
      | none =>
          match method.instructions with
          | ⟨outcome, places⟩ =>
              let session := session.noteDecoded places
              match outcome with
              | .error e => (.error (.method e), session)
              | .ok instructions =>
                  (.ok (instructions.toArray, method.maxLocals),
                    session.remember name instructions.toArray)

end Session

end ClassVM
