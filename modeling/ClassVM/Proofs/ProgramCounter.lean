import ClassVM.Proofs.FaultOrigins
import ClassVM.Proofs.History

/-! # The program counter stays inside the method

A branch that has been resolved leads to an instruction of the same method, and every other
instruction leads to the one behind it. So a frame is always at an instruction or at the end of its
method, and comes to the end only from the last instruction. -/

namespace ClassVM

/-! ## Targets of branches -/

namespace Instruction

variable {τ σ ε : Type} {segment : Text.Segmenter} {classFile : ClassFile}
  {memory after : Memory} {target : τ}

/-- The target of a branch that has been resolved was found for its distance. -/
theorem target_of_retarget {f : σ → Except ε τ} {instruction : Instruction σ}
    {resolved : Instruction τ} (h : instruction.retarget f = .ok resolved)
    (htarget : resolved.target? = some target) :
    ∃ distance, instruction.target? = some distance ∧ f distance = .ok target := by
  cases instruction with
  | ifNonzero distance =>
      obtain ⟨found, hfound, rfl⟩ := map_eq_ok_iff.1 h
      cases htarget
      exact ⟨distance, rfl, hfound⟩
  | ifCompare comparison distance =>
      obtain ⟨found, hfound, rfl⟩ := map_eq_ok_iff.1 h
      cases htarget
      exact ⟨distance, rfl, hfound⟩
  | goto distance =>
      obtain ⟨found, hfound, rfl⟩ := map_eq_ok_iff.1 h
      cases htarget
      exact ⟨distance, rfl, hfound⟩
  | _ =>
      cases h
      cases htarget

/-- An instruction jumps to its own target only. -/
theorem Acts.target?_eq {instruction : Instruction τ}
    (h : instruction.Acts segment classFile memory (.jump target after)) :
    instruction.target? = some target := by
  cases h with
  | nonzero _ _ => rfl
  | holds _ _ => rfl
  | goto => rfl

end Instruction

/-- Code is decoded only if every branch leads to one of its instructions. -/
theorem Code.target_lt_of_decode {code : List UInt8} {instructions : List (Instruction Nat)}
    (h : (decode code).outcome = .ok instructions) {index target : Nat}
    {resolved : Instruction Nat} (hget : instructions[index]? = some resolved)
    (htarget : resolved.target? = some target) : target < instructions.length := by
  obtain ⟨located, -, hresolve⟩ := outcome_decode_eq_ok_iff.1 h
  obtain ⟨place, -, hretarget⟩ := getElem_of_resolve hresolve hget
  obtain ⟨distance, -, hfound⟩ := Instruction.target_of_retarget hretarget htarget
  obtain ⟨there, hthere, -⟩ := LeadsTo.of_targetIndex hfound
  have hlength : located.length = instructions.length := (mapM_eq_ok_iff.1 hresolve).length_eq
  rw [← hlength]
  exact (List.getElem?_eq_some_iff.1 hthere).1

/-! ## Frames -/

/-- The frame runs a method of the class, and is at one of its instructions or at its end. -/
structure Frame.Inside (classFile : ClassFile) (frame : Frame) : Prop where
  program : ∃ method ∈ classFile.methods,
    (Code.decode method.code).outcome = .ok frame.program.toList
  pc : frame.pc ≤ frame.program.size

namespace Frame.Inside

variable {classFile : ClassFile} {frame : Frame} {instruction : Instruction Nat}

theorem next (h : frame.Inside classFile) (hfetch : frame.program[frame.pc]? = some instruction)
    (memory : Memory) : (frame.next memory).Inside classFile := by
  have hlt := (Array.getElem?_eq_some_iff.1 hfetch).1
  exact ⟨h.program, hlt⟩

theorem target_lt (h : frame.Inside classFile)
    (hfetch : frame.program[frame.pc]? = some instruction) {target : Nat}
    (htarget : instruction.target? = some target) : target < frame.program.size := by
  obtain ⟨method, -, hdecode⟩ := h.program
  rw [← Array.getElem?_toList] at hfetch
  have hlt := Code.target_lt_of_decode hdecode hfetch htarget
  rwa [Array.length_toList] at hlt

theorem goto (h : frame.Inside classFile) (hfetch : frame.program[frame.pc]? = some instruction)
    {target : Nat} (htarget : instruction.target? = some target) (memory : Memory) :
    (frame.goto target memory).Inside classFile :=
  ⟨h.program, Nat.le_of_lt (h.target_lt hfetch htarget)⟩

end Frame.Inside

namespace Session.Consistent

variable {classFile : ClassFile} {session : Session}

theorem note (h : session.Consistent classFile) (event : MachineEvent) :
    (session.note event).Consistent classFile := h

theorem ask (h : session.Consistent classFile) {call : Sink.Call} {result : Except Fault Unit}
    {after : Session} (hask : session.ask call = some (result, after)) :
    after.Consistent classFile :=
  evolution_consistent.ask hask h

end Session.Consistent

/-- The frame and the session that a step goes on with, in the same method. -/
def Step.next? {φ : Type} : Step φ → Option (φ × Session)
  | .next frame after => some (frame, after)
  | _ => none

theorem Step.eq_next_of_next? {φ : Type} {step : Step φ} {frame : φ} {after : Session}
    (h : step.next? = some (frame, after)) : step = .next frame after := by
  cases step with
  | next _ _ =>
      cases h
      rfl
  | done _ _ => cases h
  | call _ _ _ _ => cases h
  | stalled => cases h

/-- The action goes on with the next instruction once it has been carried out. -/
def Action.GoesOn {τ : Type} : Action τ → Prop
  | .advance _ | .print _ _ | .call _ _ _ => True
  | .jump _ _ | .finish _ => False

namespace Machine

variable {machine : Machine} {session after : Session} {frame : Frame}

/-- The instruction of the one frame neither branches nor leaves the method, and the other frame is
at the instruction behind it. -/
def FallsThrough (machine : Machine) (frame frame' : Frame) : Prop :=
  ∃ instruction action memory, frame.program[frame.pc]? = some instruction ∧
    instruction.act machine.segment machine.classFile frame.memory = .ok action ∧ action.GoesOn ∧
    frame' = frame.next memory

/-- The frame of a call is at the start of a method of the class, whether the method was decoded
for this call or earlier. -/
theorem enter_inside {name : String} {arguments : List Value} {result : Except Fault Frame}
    (hsession : session.Consistent machine.classFile)
    (henter : machine.enter name arguments session = (result, after)) :
    (∀ frame, result = .ok frame → frame.Inside machine.classFile ∧ frame.pc = 0) ∧
      after.Consistent machine.classFile := by
  have hloaded := hsession.load_fst name
  have hafter := hsession.load name
  cases enters_of_enter henter with
  | tooDeep _ => exact ⟨forall_of_error, hsession⟩
  | notLoaded _ loads =>
      rw [loads] at hafter
      exact ⟨forall_of_error, hafter⟩
  | noRoom _ loads _ =>
      rw [loads] at hafter
      exact ⟨forall_of_error, hafter⟩
  | made _ loads _ =>
      rw [loads] at hloaded hafter
      refine ⟨?_, hafter⟩
      intro frame hframe
      cases hframe
      obtain ⟨method, instructions, hmethod, hdecode, rfl⟩ :=
        ClassFile.decode_of_loaded hloaded.symm
      have hmem := List.mem_of_find?_eq_some hmethod
      exact ⟨⟨⟨method, hmem, hdecode⟩, Nat.zero_le _⟩, rfl⟩

theorem performs_inside {instruction : Instruction Nat} {action : Action Nat}
    {result : Step Frame} (hframe : frame.Inside machine.classFile)
    (hsession : session.Consistent machine.classFile)
    (hfetch : frame.program[frame.pc]? = some instruction)
    (hact : instruction.act machine.segment machine.classFile frame.memory = .ok action)
    (hperforms : machine.Performs frame session action result) :
    result.Kept (Frame.Inside machine.classFile) (Session.Consistent machine.classFile)
      fun _ => True := by
  cases hperforms with
  | advanced => exact ⟨hframe.next hfetch _, hsession⟩
  | jumped => exact ⟨hframe.goto hfetch (Instruction.acts_of_act hact).target?_eq _, hsession⟩
  | printed prints => exact ⟨hframe.next hfetch _, hsession.ask prints⟩
  | unprinted prints => exact ⟨forall_of_error, hsession.ask prints⟩
  | stalled _ => trivial
  | called enters =>
      have hentered := enter_inside hsession enters
      exact ⟨(hentered.1 _ rfl).1, hentered.2, fun result _ => hframe.next hfetch _⟩
  | refused enters => exact ⟨forall_of_error, (enter_inside hsession enters).2⟩
  | finished => exact ⟨fun _ _ => trivial, hsession⟩

/-- Along every run the program counter stays inside. -/
theorem maintains_inside (machine : Machine) :
    machine.Maintains (Frame.Inside machine.classFile) (Session.Consistent machine.classFile)
      fun _ => True where
  step hframe hsession hsteps := by
    cases hsteps with
    | fellOff _ _ => exact ⟨fun _ _ => trivial, hsession⟩
    | lost _ _ => exact ⟨forall_of_error, hsession⟩
    | failed _ _ => exact ⟨forall_of_error, hsession⟩
    | acted fetched acts performs =>
        exact performs_inside hframe (hsession.note _) fetched acts performs
  closed hsession name := hsession
  note hsession event := hsession.note event
  flush hsession hflush := hsession.ask hflush
  enter hsession henter := by
    have hentered := enter_inside hsession henter
    exact ⟨fun frame hframe => (hentered.1 frame hframe).1, hentered.2⟩

/-- A frame that comes after another is behind its instruction, at the target of a branch, or at the
start of a method that is called. -/
theorem arrives_of_precedes {frame' : Frame} (hframe : frame.Inside machine.classFile)
    (hsession : session.Consistent machine.classFile)
    (hprecedes : Step.Precedes machine.step frame session frame' after) :
    machine.FallsThrough frame frame' ∨ frame'.pc < frame'.program.size ∨ frame'.pc = 0 := by
  have hsteps := machine.steps_step frame session
  cases hprecedes with
  | next moves =>
      rw [moves] at hsteps
      cases hsteps with
      | acted fetched acts performs =>
          cases performs with
          | advanced => exact .inl ⟨_, _, _, fetched, acts, trivial, rfl⟩
          | printed _ => exact .inl ⟨_, _, _, fetched, acts, trivial, rfl⟩
          | jumped =>
              have hlt := hframe.target_lt fetched (Instruction.acts_of_act acts).target?_eq
              exact .inr (.inl hlt)
  | enter calls =>
      rw [calls] at hsteps
      cases hsteps with
      | acted fetched acts performs =>
          cases performs with
          | called enters =>
              have hentered := enter_inside (hsession.note _) enters
              exact .inr (.inr (hentered.1 _ rfl).2)
  | resume calls _ =>
      rw [calls] at hsteps
      cases hsteps with
      | acted fetched acts performs =>
          cases performs with
          | called _ => exact .inl ⟨_, _, _, fetched, acts, trivial, rfl⟩

/-- A run comes to the end of a method that has instructions only from the last of them, without a
branch. -/
theorem fallsThrough_of_atEnd {name : String} {final : Session}
    (hsession : session.Consistent machine.classFile)
    (hvisits : machine.Visits name session frame final)
    (hend : frame.pc = frame.program.size) (hsize : frame.program.size ≠ 0) :
    ∃ last earlier, machine.Visits name session last earlier ∧
      Step.Precedes machine.step last earlier frame final ∧ machine.FallsThrough last frame ∧
      last.pc + 1 = last.program.size := by
  have hmaintains := machine.maintains_inside
  obtain ⟨entry, first, opened, hfound, henter, hreach⟩ := hvisits
  obtain ⟨hfirst, -⟩ | ⟨last, earlier, hlast, hprecedes⟩ := hreach.exists_precedes
  · have hentered := enter_inside (hmaintains.announced hsession name entry) henter
    have hzero := (hentered.1 first rfl).2
    rw [← hfirst, hend] at hzero
    exact absurd hzero hsize
  · have hvisits : machine.Visits name session last earlier :=
      ⟨entry, first, opened, hfound, henter, hlast⟩
    obtain ⟨hinside, hconsistent⟩ := hmaintains.visits hsession hvisits
    have harrives := arrives_of_precedes hinside hconsistent hprecedes
    have hfalls : machine.FallsThrough last frame := by
      obtain hfalls | hlt | hzero := harrives
      · exact hfalls
      · omega
      · omega
    refine ⟨last, earlier, hvisits, hprecedes, hfalls, ?_⟩
    obtain ⟨instruction, action, memory, -, -, -, rfl⟩ := hfalls
    exact hend

/-- After any runs of a machine, in every frame that a further run comes to the program counter is
at an instruction or at the end, and at the end only behind the last instruction or in a method
without instructions. So no run ends because the program counter is lost. -/
theorem pc_stays_in_method {sink : Sink} {threshold : Log.Threshold}
    {calls : List (String × Answer)}
    (hruns : machine.Runs (.start sink threshold) calls session) (name : String) :
    (∀ frame final, machine.Visits name session frame final →
      frame.pc ≤ frame.program.size ∧
      (frame.pc = frame.program.size → frame.program.size = 0 ∨
        ∃ last earlier, machine.Visits name session last earlier ∧
          Step.Precedes machine.step last earlier frame final ∧
          machine.FallsThrough last frame ∧ last.pc + 1 = last.program.size)) ∧
    ∀ fuel pc after,
      machine.run fuel name session ≠ some (.error (.invalidProgramCounter pc), after) := by
  have hmaintains := machine.maintains_inside
  have hsession := hruns.evolves Session.evolution_consistent (Session.consistent_start _ _)
  constructor
  · intro frame final hvisits
    refine ⟨(hmaintains.visits hsession hvisits).1.pc, ?_⟩
    intro hend
    by_cases hsize : frame.program.size = 0
    · exact .inl hsize
    · exact .inr (fallsThrough_of_atEnd hsession hvisits hend hsize)
  · intro fuel pc after hrun
    have hfails := fails_of_run hrun
    cases hfails with
    | refused ofCall => exact ofCall
    | lost visits absent beyond =>
        have hle := (hmaintains.visits hsession visits).1.pc
        have hge := Array.getElem?_eq_none_iff.1 absent
        omega
    | faulted _ _ faults =>
        cases faults with
        | own ofInstruction => exact ofInstruction

/-- A class whose `main` branches over its return to its last instruction. -/
def fallsOffEnd : Machine where
  classFile :=
    { minorVersion := 0
      majorVersion := 52
      pool := ⟨#[.utf8 "Test", .classRef ⟨1⟩, .utf8 "main", .utf8 "()V"]⟩
      access := 0
      thisClass := ⟨2⟩
      superClass := ⟨2⟩
      interfaces := []
      methods := [⟨⟨8⟩, ⟨3⟩, ⟨4⟩, 4, 2, [0xA7, 0, 4, 0xB1, 0x04]⟩] }
  limits := {}

/-- A second run, on the instructions that the first one left behind, comes to the end. -/
theorem pc_stays_in_fallsOffEnd :
    ∃ session frame final,
      fallsOffEnd.Runs (.start .unlimited none) [("main", .ok none)] session ∧
      fallsOffEnd.Visits "main" session frame final ∧ frame.pc = 3 ∧ frame.program.size = 3 ∧
      ∃ last earlier, fallsOffEnd.Visits "main" session last earlier ∧
        fallsOffEnd.FallsThrough last frame ∧ last.pc + 1 = last.program.size := by
  have hwalk : ((fallsOffEnd.run 9 "main" (.start .unlimited none)).bind fun found =>
      (fallsOffEnd.enter "main" [] found.2).1.toOption.bind fun first =>
        (fallsOffEnd.step first (fallsOffEnd.enter "main" [] found.2).2).next?.bind fun second =>
          (fallsOffEnd.step second.1 second.2).next?.map fun third =>
            (found.1, third.1.pc, third.1.program.size)) = some (.ok none, 3, 3) := by
    decide +kernel
  obtain ⟨⟨answer, session⟩, hrun, hwalk⟩ := Option.bind_eq_some_iff.1 hwalk
  obtain ⟨first, henter, hwalk⟩ := Option.bind_eq_some_iff.1 hwalk
  obtain ⟨⟨second, middle⟩, hfirst, hwalk⟩ := Option.bind_eq_some_iff.1 hwalk
  obtain ⟨⟨third, final⟩, hsecond, heq⟩ := Option.map_eq_some_iff.1 hwalk
  obtain ⟨rfl, hpc, hsize⟩ : answer = .ok none ∧ third.pc = 3 ∧ third.program.size = 3 := by
    simpa using heq
  have hruns : fallsOffEnd.Runs (.start .unlimited none) _ session := .cons hrun .nil
  have hvisits : fallsOffEnd.Visits "main" session third final :=
    ⟨_, first, _, rfl, Prod.ext (eq_ok_of_toOption henter) rfl,
      .next (Step.eq_next_of_next? hfirst) (.next (Step.eq_next_of_next? hsecond) .here)⟩
  have hinside := ((pc_stays_in_method hruns "main").1 third final hvisits).2
  have hend : third.pc = third.program.size := by rw [hpc, hsize]
  obtain hempty | ⟨last, earlier, hlast, -, hfalls, hlastPc⟩ := hinside hend
  · omega
  · exact ⟨session, third, final, hruns, hvisits, hpc, hsize, last, earlier, hlast, hfalls, hlastPc⟩

end Machine

end ClassVM
