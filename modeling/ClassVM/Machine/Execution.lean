import ClassVM.Machine.Step

/-! # Running methods

A machine runs the methods of one class. A frame steps through its instructions; a static call runs
a frame of its own to its end before the caller goes on. Every step spends one unit of fuel, and a
run that is out of fuel has no answer, nor has one that waits for its sink for ever; with more fuel
an answer never changes. -/

namespace ClassVM

/-- The limits of a machine. -/
structure Limits where
  /-- The greatest number of frames at one time; no limit if there is none. -/
  maxCallDepth : Option Nat := none
  /-- The least number of local variables of a frame. -/
  localsCapacity : Nat := 10
  deriving DecidableEq

/-- The limit that a call with so many frames below it would break. -/
def Limits.brokenAt (limits : Limits) (depth : Nat) : Option Nat :=
  limits.maxCallDepth.filter (· ≤ depth)

/-- A class, the limits for running it, and how its descriptors are cut into clusters. -/
structure Machine where
  classFile : ClassFile
  limits : Limits
  segment : Text.Segmenter := Text.clusters

/-- A method that is being run. -/
structure Frame where
  program : Program
  /-- The index of the next instruction. -/
  pc : Nat
  memory : Memory

namespace Frame

/-- The frame at the next instruction. -/
def next (frame : Frame) (memory : Memory) : Frame :=
  { frame with pc := frame.pc + 1, memory }

/-- The frame at another instruction. -/
def goto (frame : Frame) (target : Nat) (memory : Memory) : Frame :=
  { frame with pc := target, memory }

end Frame

namespace Machine

variable (machine : Machine)

/-- Makes the frame of a call. The depth is checked before the method is looked up. -/
def enter (name : String) (arguments : List Value) (session : Session) :
    Except Fault Frame × Session :=
  match machine.limits.brokenAt session.depth with
  | some limit => (.error (.callDepthExceeded limit), session)
  | none =>
      match session.load machine.classFile name with
      | (.error fault, session) => (.error fault, session)
      | (.ok (program, maxLocals), session) =>
          match Locals.create (max machine.limits.localsCapacity maxLocals) arguments with
          | .error fault => (.error fault, session)
          | .ok locals => (.ok ⟨program, 0, ⟨.empty, locals⟩⟩, session.opened name)

/-- One step of a frame. -/
def step (frame : Frame) (session : Session) : Step Frame :=
  match frame.program[frame.pc]? with
  | none =>
      if frame.pc = frame.program.size then .done (.ok none) (session.note .noReturn)
      else .done (.error (.invalidProgramCounter frame.pc)) session
  | some instruction =>
      let session := session.note (.executing frame.pc instruction frame.memory.stack)
      match instruction.act machine.segment machine.classFile frame.memory with
      | .error fault => .done (.error fault) session
      | .ok action => action.perform frame.next frame.goto machine.enter session

/-- Runs a frame to its end. -/
def execute (fuel : Nat) (frame : Frame) (session : Session) : Option (Answer × Session) :=
  Step.run machine.step fuel frame session

/-- Calls a method from outside, without arguments. -/
def invoke (fuel : Nat) (name : String) (session : Session) : Option (Answer × Session) :=
  match machine.enter name [] session with
  | (.error fault, session) => some (.error fault, session)
  | (.ok frame, session) =>
      match machine.execute fuel frame session with
      | none => none
      | some (answer, session) => some (answer, session.closed name)

/-- What becomes of the answer of a method that was called from outside. Output is flushed if there
is no fault. -/
def settle (answer : Answer) (session : Session) : Option (Answer × Session) :=
  match answer with
  | .error fault => some (.error fault, session)
  | .ok result =>
      match session.ask .flush with
      | none => none
      | some (flushed, session) => some (flushed.map fun _ => result, session)

/-- Runs a method by name. -/
def run (fuel : Nat) (name : String) (session : Session) : Option (Answer × Session) :=
  match machine.classFile.method? name with
  | none => some (.error (.method (.notFound name)), session)
  | some entry =>
      let session := if entry.isStatic then session else session.note (.notStatic name)
      match machine.invoke fuel name session with
      | none => none
      | some (answer, session) => settle answer session

end Machine

end ClassVM
