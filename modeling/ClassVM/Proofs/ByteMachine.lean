import ClassVM.Proofs.CodeLayout
import ClassVM.Proofs.Conduct
import ClassVM.Proofs.Evolution

/-! # Running code by its bytes

Code can be run without being decoded beforehand: the instruction at an offset is read and carried
out, and the frame goes on behind it or, for a branch that is taken, at a distance from it. Decoded
code is run by the index of its instructions instead. Both come to the same, because the offsets of
the one are the boundaries of the other. -/

namespace ClassVM

/-- A method that is being run by its bytes. -/
structure ByteFrame where
  code : List UInt8
  /-- The offset of the next instruction. -/
  offset : Int
  memory : Memory

/-- The frame at another offset. -/
def ByteFrame.goto (frame : ByteFrame) (offset : Int) (memory : Memory) : ByteFrame :=
  { frame with offset, memory }

/-- The code of the first method with the name. -/
def ClassFile.codeOf (classFile : ClassFile) (name : String) : List UInt8 :=
  match classFile.method? name with
  | none => []
  | some method => method.code

namespace Machine

variable (machine : Machine)

/-- Makes the frame of a call, at the first byte of the method. -/
def enterBytes (name : String) (arguments : List Value) (session : Session) :
    Except Fault ByteFrame × Session :=
  match machine.enter name arguments session with
  | (.error fault, session) => (.error fault, session)
  | (.ok frame, session) => (.ok ⟨machine.classFile.codeOf name, 0, frame.memory⟩, session)

/-- One step of a frame by its bytes. Single instructions are not reported. -/
def stepBytes (frame : ByteFrame) (session : Session) : Step ByteFrame :=
  if frame.offset = frame.code.length then .done (.ok none) (session.note .noReturn)
  else
    match Code.readOne (.into frame.code frame.offset) with
    | .error e => .done (.error (.method (.decoding e))) session
    | .ok (instruction, after) =>
        match instruction.act machine.segment machine.classFile frame.memory with
        | .error fault => .done (.error fault) session
        | .ok action =>
            action.perform (frame.goto after.offset)
              (fun distance => frame.goto (frame.offset + distance.toInt)) machine.enterBytes
              session

/-- Runs a frame to its end by its bytes. -/
def executeBytes (fuel : Nat) (frame : ByteFrame) (session : Session) :
    Option (Answer × Session) :=
  Step.run machine.stepBytes fuel frame session

end Machine

/-! ## Sessions up to single instructions -/

/-- The event reports a single instruction. -/
def MachineEvent.isExecuting : MachineEvent → Bool
  | .executing _ _ _ => true
  | _ => false

namespace Session

/-- What was reported, apart from single instructions. A journal that admits debugging has every
method that was entered or left among it, in order. -/
def report (session : Session) : List MachineEvent :=
  session.journal.events.toList.filter (!·.isExecuting)

/-- The sessions differ only in the single instructions that were reported, and keep the right
instructions of every method. -/
structure Agrees (classFile : ClassFile) (session session' : Session) : Prop where
  programs : session.programs = session'.programs
  sink : session.sink = session'.sink
  depth : session.depth = session'.depth
  threshold : session.journal.threshold = session'.journal.threshold
  report : session.report = session'.report
  consistent : session.Consistent classFile

theorem report_note (session : Session) (event : MachineEvent) :
    (session.note event).report =
      session.report ++
        if Log.admits session.journal.threshold event.level && !event.isExecuting then [event]
        else [] := by
  unfold report note Log.Journal.note
  cases Log.admits session.journal.threshold event.level with
  | false => simp
  | true => cases hexecuting : event.isExecuting <;> simp [hexecuting]

@[simp] theorem note_threshold (session : Session) (event : MachineEvent) :
    (session.note event).journal.threshold = session.journal.threshold := by
  unfold note Log.Journal.note
  split <;> rfl

namespace Agrees

variable {classFile : ClassFile} {session session' : Session}

theorem refl (h : session.Consistent classFile) : Agrees classFile session session :=
  ⟨rfl, rfl, rfl, rfl, rfl, h⟩

theorem note (h : Agrees classFile session session') (event : MachineEvent) :
    Agrees classFile (session.note event) (session'.note event) where
  programs := h.programs
  sink := h.sink
  depth := h.depth
  threshold := by simpa using h.threshold
  report := by rw [report_note, report_note, h.report, h.threshold]
  consistent := h.consistent

/-- A single instruction may be reported on one side only. -/
theorem note_executing (h : Agrees classFile session session') (pc : Nat)
    (instruction : Instruction Nat) (stack : OperandStack) :
    Agrees classFile (session.note (.executing pc instruction stack)) session' where
  programs := h.programs
  sink := h.sink
  depth := h.depth
  threshold := by simpa using h.threshold
  report := by simp [report_note, MachineEvent.isExecuting, h.report]
  consistent := h.consistent

theorem noteDecoded (h : Agrees classFile session session') (places : List Code.Located) :
    Agrees classFile (session.noteDecoded places) (session'.noteDecoded places) := by
  induction places generalizing session session' with
  | nil => exact h
  | cons place places ih => exact ih (h.note _)

theorem opened (h : Agrees classFile session session') (name : String) :
    Agrees classFile (session.opened name) (session'.opened name) := by
  have hnote := h.note (.entered name session.depth)
  have hdepth : session'.opened name =
      { session'.note (.entered name session.depth) with depth := session.depth + 1 } := by
    rw [Session.opened, h.depth]
  rw [hdepth, Session.opened]
  exact ⟨hnote.programs, hnote.sink, rfl, hnote.threshold, hnote.report, hnote.consistent⟩

theorem closed (h : Agrees classFile session session') (name : String) :
    Agrees classFile (session.closed name) (session'.closed name) := by
  have hleft : Agrees classFile { session with depth := session.depth - 1 }
      { session' with depth := session'.depth - 1 } :=
    ⟨h.programs, h.sink, congrArg (· - 1) h.depth, h.threshold, h.report, h.consistent⟩
  exact hleft.note (.exited name)

theorem ask (h : Agrees classFile session session') (call : Sink.Call) :
    Option.Rel (Step.Entered Eq (Agrees classFile)) (session.ask call) (session'.ask call) := by
  unfold Session.ask
  rw [← h.sink]
  cases session.sink.ask call with
  | none => exact .none
  | some asked =>
      refine .some (Step.entered_of_eq rfl ?_)
      exact ⟨h.programs, rfl, h.depth, h.threshold, h.report, h.consistent⟩

theorem load (h : Agrees classFile session session') (name : String) :
    (session.load classFile name).1 = (session'.load classFile name).1 ∧
      Agrees classFile (session.load classFile name).2 (session'.load classFile name).2 := by
  have hconsistent := h.consistent.load name
  unfold Session.load at hconsistent ⊢
  rw [← h.programs]
  cases hmethod : classFile.method? name with
  | none => exact ⟨rfl, h⟩
  | some method =>
      simp only [hmethod] at hconsistent ⊢
      cases hlookup : session.programs.lookup name with
      | some program => exact ⟨rfl, h⟩
      | none =>
          have hdecoded := h.noteDecoded method.instructions.events
          simp only [hlookup] at hconsistent ⊢
          cases houtcome : method.instructions.outcome with
          | error e => exact ⟨rfl, hdecoded⟩
          | ok instructions =>
              rw [houtcome] at hconsistent
              exact ⟨rfl, congrArg ((name, instructions.toArray) :: ·) hdecoded.programs,
                hdecoded.sink, hdecoded.depth, hdecoded.threshold, hdecoded.report, hconsistent⟩

end Agrees

end Session

/-! ## Frames at the same instruction -/

/-- The frames run the same code with the same memory, the one at the index and the other at the
offset of the same boundary. -/
structure Frame.Aligned (frame : Frame) (bytes : ByteFrame) : Prop where
  memory : frame.memory = bytes.memory
  place : ∃ located, (Code.scan bytes.code).outcome = .ok located ∧
    Code.resolve located = .ok frame.program.toList ∧
    ∃ boundary : Nat, (Code.boundaries bytes.code located)[frame.pc]? = some boundary ∧
      bytes.offset = boundary

/-- The frame is at the end of its code, or at an offset that a sweep of its code records. -/
def ByteFrame.OnBoundary (frame : ByteFrame) : Prop :=
  frame.offset = frame.code.length ∨
    ∃ located, (Code.scan frame.code).outcome = .ok located ∧
      ∃ place ∈ located, frame.offset = place.offset

namespace Frame

variable {frame : Frame} {bytes : ByteFrame}

theorem aligned_start {code : List UInt8} {instructions : List (Instruction Nat)}
    (h : (Code.decode code).outcome = .ok instructions) (memory : Memory) :
    Aligned ⟨instructions.toArray, 0, memory⟩ ⟨code, 0, memory⟩ := by
  obtain ⟨located, hscan, hresolve⟩ := Code.outcome_decode_eq_ok_iff.1 h
  have hcovers := Code.outcome_sweep_eq_ok_iff.1 hscan
  have hzero := hcovers.boundaries_zero (Cursor.passes_nil.2 rfl)
  exact ⟨rfl, located, hscan, hresolve, 0, hzero, rfl⟩

namespace Aligned

/-- Frames without a further instruction are both at their end. -/
theorem at_end (h : frame.Aligned bytes) (hnone : frame.program[frame.pc]? = none) :
    frame.pc = frame.program.size ∧ bytes.offset = bytes.code.length := by
  obtain ⟨located, hscan, hresolve, boundary, hboundary, hoffset⟩ := h.place
  have hlength : located.length = frame.program.size := by
    simpa using (mapM_eq_ok_iff.1 hresolve).length_eq
  have hle : frame.program.size ≤ frame.pc := Array.getElem?_eq_none_iff.1 hnone
  -- There is one boundary more than there are instructions.
  have hlt := (List.getElem?_eq_some_iff.1 hboundary).1
  rw [Code.boundaries_length, hlength] at hlt
  have hpc : frame.pc = frame.program.size := by omega
  rw [hpc, ← hlength, Code.boundaries_end] at hboundary
  cases hboundary
  exact ⟨hpc, hoffset⟩

/-- Frames with a further instruction read the same one, and stay aligned behind it and at the
target of its branch. -/
theorem at_instruction (h : frame.Aligned bytes) {resolved : Instruction Nat}
    (hget : frame.program[frame.pc]? = some resolved) :
    bytes.offset ≠ bytes.code.length ∧
      ∃ instruction after, ∃ targetOf : Int16 → Except Code.DecodeError Nat,
      Code.readOne (.into bytes.code bytes.offset) = .ok (instruction, after) ∧
      instruction.retarget targetOf = .ok resolved ∧
      (∀ memory, (frame.next memory).Aligned (bytes.goto after.offset memory)) ∧
      ∀ (distance : Int16) target memory, targetOf distance = .ok target →
        (frame.goto target memory).Aligned
          (bytes.goto (bytes.offset + distance.toInt) memory) := by
  obtain ⟨located, hscan, hresolve, boundary, hboundary, hoffset⟩ := h.place
  rw [← Array.getElem?_toList] at hget
  obtain ⟨place, hplace, hretarget⟩ := Code.getElem_of_resolve hresolve hget
  have hcovers := Code.outcome_sweep_eq_ok_iff.1 hscan
  obtain ⟨hlt, after, hread, hnext⟩ := hcovers.readOne_into (Cursor.passes_nil.2 rfl) hplace
  -- The boundary is where the instruction was found.
  rw [Code.boundaries_of_getElem hplace] at hboundary
  cases hboundary
  rw [← hoffset] at hread
  refine ⟨by omega, place.instruction, after, _, hread, hretarget, ?_, ?_⟩
  · intro memory
    exact ⟨rfl, located, hscan, hresolve, after.offset, hnext, rfl⟩
  · intro distance target memory htarget
    obtain ⟨there, hthere, heq⟩ := Code.LeadsTo.of_targetIndex htarget
    refine ⟨rfl, located, hscan, hresolve, there.offset, Code.boundaries_of_getElem hthere, ?_⟩
    rw [ByteFrame.goto, hoffset, heq]

theorem onBoundary (h : frame.Aligned bytes) : bytes.OnBoundary := by
  obtain ⟨located, hscan, -, boundary, hboundary, hoffset⟩ := h.place
  have hmem := List.mem_of_getElem? hboundary
  rw [Code.boundaries, List.mem_append, List.mem_map, List.mem_singleton] at hmem
  obtain ⟨place, hplace, rfl⟩ | rfl := hmem
  · exact .inr ⟨located, hscan, place, hplace, hoffset⟩
  · exact .inl hoffset

end Aligned

end Frame

/-! ## Runs -/

namespace Machine

variable {machine : Machine} {session session' : Session}

/-- The frame that is made for a call stands at the first byte of its method. -/
theorem aligned_of_enter (h : session.Consistent machine.classFile) {name : String}
    {arguments : List Value} {frame : Frame} {after : Session}
    (henter : machine.enter name arguments session = (.ok frame, after)) :
    frame.Aligned ⟨machine.classFile.codeOf name, 0, frame.memory⟩ := by
  have hloaded := h.load_fst name
  cases enters_of_enter henter with
  | made _ loads _ =>
      rw [loads] at hloaded
      obtain ⟨method, instructions, hmethod, hdecode, rfl⟩ :=
        ClassFile.decode_of_loaded hloaded.symm
      simp only [ClassFile.codeOf, hmethod]
      exact Frame.aligned_start hdecode _

theorem enter_aligned (h : session.Agrees machine.classFile session') (name : String)
    (arguments : List Value) :
    Step.Entered Frame.Aligned (Session.Agrees machine.classFile)
      (machine.enter name arguments session) (machine.enterBytes name arguments session') := by
  have hentered : Step.Entered Eq (Session.Agrees machine.classFile)
      (machine.enter name arguments session) (machine.enter name arguments session') := by
    apply entered_of_load h h.depth (h.load name)
    intro first second hafter
    exact hafter.opened name
  have hmade : ∀ frame after, machine.enter name arguments session = (.ok frame, after) →
      frame.Aligned ⟨machine.classFile.codeOf name, 0, frame.memory⟩ := by
    intro frame after henter
    exact aligned_of_enter h.consistent henter
  rw [enterBytes]
  generalize machine.enter name arguments session = result at hentered hmade
  generalize machine.enter name arguments session' = result' at hentered
  cases hentered with
  | refused sessions => exact .refused sessions
  | made frames sessions =>
      subst frames
      exact .made (hmade _ _ rfl) sessions

/-- Running by index and running by bytes follow each other. -/
theorem simulates_bytes (machine : Machine) :
    Step.Simulates machine.step machine.stepBytes Frame.Aligned
      (Session.Agrees machine.classFile) fun _ => False where
  step {frame bytes session session'} hframe hsession := by
    unfold step stepBytes
    split
    · next hnone =>
        obtain ⟨hpc, hoffset⟩ := hframe.at_end hnone
        rw [if_pos hpc, if_pos hoffset]
        exact .inl (.done (hsession.note _))
    · next resolved hget =>
        obtain ⟨hoffset, instruction, after, targetOf, hread, hretarget, hnext, hjump⟩ :=
          hframe.at_instruction hget
        have hexecuting := hsession.note_executing frame.pc resolved frame.memory.stack
        have hact := Instruction.act_parallel machine.segment hretarget
          (machine.classFile.parallel_self fun _ => False) (Locals.parallel_eq _)
          (Memory.related_eq_iff.2 hframe.memory)
        rw [if_neg hoffset, hread]
        simp only
        generalize resolved.act machine.segment machine.classFile frame.memory = result at hact
        generalize instruction.act machine.segment machine.classFile bytes.memory = result' at hact
        cases hact with
        | failed => exact .inl (.done (hframe.memory ▸ hexecuting))
        | cut cuts => exact cuts.elim
        | found actions =>
            apply actions.perform Memory.Related.receive _ _ hexecuting _ _
            · intro memory memory' hmemory
              rw [Memory.related_eq_iff.1 hmemory]
              exact hnext memory'
            · intro target distance memory memory' htarget hmemory
              rw [Memory.related_eq_iff.1 hmemory]
              exact hjump distance target memory' htarget
            · intro value
              exact .inl (hexecuting.ask _)
            · intro name arguments
              exact .inl (enter_aligned hexecuting name arguments)
  closed name hsession := hsession.closed name

/-- Decoded code that is run by index and the code itself that is run by its bytes both end, with
the same answer, output and calls, or both do not end, in every session whose kept methods are kept
with their instructions. Running by bytes only ever reads where a sweep of the code has found an
instruction, in the method itself and in those it calls. -/
theorem execute_alike_executeBytes (machine : Machine) {code : List UInt8}
    {instructions : List (Instruction Nat)}
    (hdecode : (Code.decode code).outcome = .ok instructions) (locals : Locals)
    {session : Session} (hsession : session.Consistent machine.classFile) :
    (∀ fuel, Option.Rel
      (fun found found' => found.1 = found'.1 ∧ found.2.sink = found'.2.sink ∧
        found.2.report = found'.2.report)
      (machine.execute fuel ⟨instructions.toArray, 0, ⟨.empty, locals⟩⟩ session)
      (machine.executeBytes fuel ⟨code, 0, ⟨.empty, locals⟩⟩ session)) ∧
    ∀ frame last,
      Step.Reaches machine.stepBytes ⟨code, 0, ⟨.empty, locals⟩⟩ session frame last →
        frame.OnBoundary := by
  have hsimulates := machine.simulates_bytes
  have hframe := Frame.aligned_start hdecode ⟨.empty, locals⟩
  have hagrees := Session.Agrees.refl hsession
  constructor
  · intro fuel
    have hrun := hsimulates.lockstep hframe hagrees fuel
    apply rel_mono _ hrun
    intro found found' hfound
    exact ⟨hfound.1, hfound.2.sink, hfound.2.report⟩
  · intro frame last hreach
    obtain ⟨frame', last', -, haligned, -⟩ := hreach.simulated hsimulates.flip hframe hagrees
    exact haligned.onBoundary

/-- A class whose `one` returns a number. -/
def countdown : Machine where
  classFile :=
    { minorVersion := 0
      majorVersion := 52
      pool := ⟨#[.utf8 "Test", .classRef ⟨1⟩, .utf8 "one", .utf8 "()I", .nameAndType ⟨3⟩ ⟨4⟩,
        .methodRef ⟨⟨2⟩, ⟨5⟩⟩]⟩
      access := 0
      thisClass := ⟨2⟩
      superClass := ⟨2⟩
      interfaces := []
      methods := [⟨⟨8⟩, ⟨3⟩, ⟨4⟩, 4, 2, [0x04, 0xAC]⟩] }
  limits := {}

/-- A loop that counts down from three, by a branch back, and a call after it. -/
theorem execute_alike_countdown :
    ∃ code instructions locals after after', (Code.decode code).outcome = .ok instructions ∧
      Locals.create 2 [] = .ok locals ∧
      countdown.execute 20 ⟨instructions.toArray, 0, ⟨.empty, locals⟩⟩
        (.start .unlimited (some .debug)) = some (.ok (some (.int 1)), after) ∧
      countdown.executeBytes 20 ⟨code, 0, ⟨.empty, locals⟩⟩
        (.start .unlimited (some .debug)) = some (.ok (some (.int 1)), after') ∧
      after'.report = [.entered "one" 0, .exited "one"] := by
  have hdecode : (Code.decode [0x06, 0x3C, 0x84, 1, 0xFF, 0x1B, 0x9A, 0xFF, 0xFC, 0xB8, 0, 6,
      0xAC]).outcome = .ok [.push 3, .store 1, .increment 1 (-1), .load 1, .ifNonzero 2,
        .invokeStatic ⟨6⟩, .returnValue] := by decide +kernel
  have hlocals : Locals.create 2 [] = .ok ⟨#[none, none]⟩ := rfl
  have hends : (countdown.execute 20 ⟨#[.push 3, .store 1, .increment 1 (-1), .load 1,
      .ifNonzero 2, .invokeStatic ⟨6⟩, .returnValue], 0, ⟨.empty, ⟨#[none, none]⟩⟩⟩
      (.start .unlimited (some .debug))).map (fun found => (found.1, found.2.report)) =
        some (.ok (some (.int 1)), [.entered "one" 0, .exited "one"]) := by decide +kernel
  obtain ⟨⟨_, after⟩, hrun, heq⟩ := Option.map_eq_some_iff.1 hends
  simp only [Prod.mk.injEq] at heq
  obtain ⟨rfl, hreport⟩ := heq
  have hrel := (countdown.execute_alike_executeBytes hdecode ⟨#[none, none]⟩
    (Session.consistent_start .unlimited (some .debug))).1 20
  rw [hrun] at hrel
  generalize hbytes : countdown.executeBytes 20 _ _ = found' at hrel
  cases hrel with
  | @some _ found' hfound =>
      obtain ⟨answer', after'⟩ := found'
      obtain ⟨rfl, -, hreports⟩ := hfound
      exact ⟨_, _, _, after, after', hdecode, hlocals, hrun, hbytes, hreports ▸ hreport⟩

end Machine

end ClassVM
