import ClassVM.Proofs.Operands
import ClassVM.Proofs.Visits

/-! # Where faults come from

A run stops early because a call is refused, because output is not taken, or in a frame that it
comes to: there the program counter is beyond the end, or an instruction fails. An instruction fails
by its own operands, or by a lookup in the pool. -/

namespace ClassVM

/-- The fault is one for which a call is refused. -/
def Fault.OfCall : Fault → Prop
  | .callDepthExceeded _ | .method _ | .tooManyArguments _ _ => True
  | _ => False

/-! ## Instructions -/

namespace Instruction

variable {τ : Type} {segment : Text.Segmenter} {classFile : ClassFile} {memory : Memory}
  {index : Pool.Index} {fault : Fault}

/-- All that an instruction can fail with: a fault of its own, or a lookup of the constant that it
names, of the receiver that it takes from the stack, or of the name of the class. -/
inductive Faults (classFile : ClassFile) (memory : Memory) : Instruction τ → Fault → Prop
  | own {instruction : Instruction τ} {fault : Fault} (ofInstruction : fault.OfInstruction) :
      Faults classFile memory instruction fault
  | getStatic {index : Pool.Index} {cause : Pool.LookupError}
      (misses : classFile.pool.fieldRef index = .error cause) :
      Faults classFile memory (.getStatic index) (.lookup cause)
  | loadConstant {index : Pool.Index} {cause : Pool.LookupError}
      (misses : classFile.pool.string index = .error cause) :
      Faults classFile memory (.loadConstant index) (.lookup cause)
  | invokeVirtual {index : Pool.Index} {cause : Pool.LookupError}
      (misses : classFile.pool.method index = .error cause) :
      Faults classFile memory (.invokeVirtual index) (.lookup cause)
  | receiver {index handle : Pool.Index} {argument : Value} {below rest : Memory}
      {cause : Pool.LookupError} (pops : memory.pop = .ok (argument, below))
      (takes : below.popField = .ok (handle, rest))
      (misses : classFile.pool.field handle = .error cause) :
      Faults classFile memory (.invokeVirtual index) (.lookup cause)
  | invokeStatic {index : Pool.Index} {cause : Pool.LookupError}
      (misses : classFile.pool.method index = .error cause) :
      Faults classFile memory (.invokeStatic index) (.lookup cause)
  | className {index : Pool.Index} {cause : Pool.LookupError}
      (misses : classFile.name = .error cause) :
      Faults classFile memory (.invokeStatic index) (.lookup cause)

theorem calledDescriptor_failed {method : Pool.Member}
    (h : calledDescriptor segment method = .error fault) : fault.OfInstruction := by
  obtain ⟨cause, -, rfl⟩ := mapError_eq_error_iff.1 h
  trivial

theorem callVirtual_failed
    (h : callVirtual segment classFile memory index = (.error fault : Except Fault (Action τ))) :
    Faults classFile memory (.invokeVirtual index : Instruction τ) fault := by
  obtain hmethod | ⟨method, -, h⟩ := bind_eq_error_iff.1 h
  · obtain ⟨cause, hmiss, rfl⟩ := mapError_eq_error_iff.1 hmethod
    exact .invokeVirtual hmiss
  obtain hdescriptor | ⟨descriptor, -, h⟩ := bind_eq_error_iff.1 h
  · exact .own (calledDescriptor_failed hdescriptor)
  split at h
  · cases h
    exact .own trivial
  obtain hpop | ⟨⟨argument, below⟩, hpop, h⟩ := bind_eq_error_iff.1 h
  · exact .own (Memory.pop_failed hpop)
  obtain htake | ⟨⟨handle, rest⟩, htake, h⟩ := bind_eq_error_iff.1 h
  · exact .own (Memory.popField_failed htake)
  obtain hreceiver | ⟨receiver, -, h⟩ := bind_eq_error_iff.1 h
  · obtain ⟨cause, hmiss, rfl⟩ := mapError_eq_error_iff.1 hreceiver
    exact .receiver hpop htake hmiss
  split at h
  · cases h
  · cases h
    exact .own trivial

theorem callStatic_failed
    (h : callStatic segment classFile memory index = (.error fault : Except Fault (Action τ))) :
    Faults classFile memory (.invokeStatic index : Instruction τ) fault := by
  obtain hmethod | ⟨method, -, h⟩ := bind_eq_error_iff.1 h
  · obtain ⟨cause, hmiss, rfl⟩ := mapError_eq_error_iff.1 hmethod
    exact .invokeStatic hmiss
  obtain hname | ⟨name, -, h⟩ := bind_eq_error_iff.1 h
  · obtain ⟨cause, hmiss, rfl⟩ := mapError_eq_error_iff.1 hname
    exact .className hmiss
  split at h
  · cases h
    exact .own trivial
  obtain hdescriptor | ⟨descriptor, -, h⟩ := bind_eq_error_iff.1 h
  · exact .own (calledDescriptor_failed hdescriptor)
  obtain hpop | ⟨arguments, -, h⟩ := bind_eq_error_iff.1 h
  · exact .own (Memory.popArguments_failed hpop)
  cases h

theorem faults_of_act {instruction : Instruction τ}
    (h : instruction.act segment classFile memory = .error fault) :
    Faults classFile memory instruction fault := by
  cases instruction with
  | getStatic index =>
      obtain hfield | ⟨member, -, h⟩ := bind_eq_error_iff.1 h
      · obtain ⟨cause, hmiss, rfl⟩ := mapError_eq_error_iff.1 hfield
        exact .getStatic hmiss
      · cases h
  | loadConstant index =>
      obtain hstring | ⟨content, -, h⟩ := bind_eq_error_iff.1 h
      · obtain ⟨cause, hmiss, rfl⟩ := mapError_eq_error_iff.1 hstring
        exact .loadConstant hmiss
      · cases h
  | invokeVirtual index => exact callVirtual_failed h
  | invokeStatic index => exact callStatic_failed h
  | returnNothing => cases h
  | returnValue =>
      obtain hpop | ⟨popped, -, h⟩ := bind_eq_error_iff.1 h
      · exact .own (Memory.pop_failed hpop)
      · cases h
  | push value => cases h
  | arithmetic op =>
      obtain hpop | ⟨⟨left, right, rest⟩, -, h⟩ := bind_eq_error_iff.1 h
      · exact .own (Memory.popOperands_failed hpop)
      · simp only at h
        split at h
        · cases h
        · cases h
          exact .own trivial
  | store slot =>
      obtain hpop | ⟨⟨value, rest⟩, -, h⟩ := bind_eq_error_iff.1 h
      · exact .own (Memory.pop_failed hpop)
      · obtain hset | ⟨_, -, h⟩ := bind_eq_error_iff.1 h
        · exact .own (Locals.set_failed hset)
        · cases h
  | load slot =>
      obtain hget | ⟨value, -, h⟩ := bind_eq_error_iff.1 h
      · exact .own (Locals.get_failed hget)
      · cases h
  | increment slot delta =>
      obtain hadd | ⟨_, -, h⟩ := bind_eq_error_iff.1 h
      · exact .own (Locals.increment_failed hadd)
      · cases h
  | ifNonzero target =>
      obtain hpop | ⟨⟨number, rest⟩, -, h⟩ := bind_eq_error_iff.1 h
      · exact .own (Memory.popInt_failed hpop)
      · simp only at h
        split at h
        · cases h
        · cases h
  | ifCompare comparison target =>
      obtain hpop | ⟨⟨left, right, rest⟩, -, h⟩ := bind_eq_error_iff.1 h
      · exact .own (Memory.popOperands_failed hpop)
      · simp only at h
        split at h
        · cases h
        · cases h
  | goto target => cases h

end Instruction

/-! ## Calls and runs -/

theorem Session.load_failed {session after : Session} {classFile : ClassFile} {name : String}
    {fault : Fault} (h : session.load classFile name = (.error fault, after)) :
    ∃ cause, fault = .method cause := by
  unfold load at h
  split at h
  · cases h
    exact ⟨_, rfl⟩
  · split at h
    · cases h
    · simp only at h
      split at h
      · cases h
        exact ⟨_, rfl⟩
      · cases h

namespace Machine

variable {machine : Machine} {name : String} {session after : Session} {fault : Fault}

theorem enter_failed {arguments : List Value}
    (h : machine.enter name arguments session = (.error fault, after)) : fault.OfCall := by
  cases enters_of_enter h with
  | tooDeep _ => trivial
  | notLoaded _ loads =>
      obtain ⟨cause, rfl⟩ := Session.load_failed loads
      trivial
  | noRoom _ _ creates =>
      unfold Locals.create at creates
      split at creates
      · cases creates
      · cases creates
        trivial

/-- All that can make a run stop early. -/
inductive Fails (machine : Machine) (name : String) (session : Session) : Fault → Prop
  | refused {fault : Fault} (ofCall : fault.OfCall) : Fails machine name session fault
  | notTaken {cause : Sink.Fault} : Fails machine name session (.output cause)
  | lost {frame : Frame} {final : Session} (visits : machine.Visits name session frame final)
      (absent : frame.program[frame.pc]? = none) (beyond : frame.pc ≠ frame.program.size) :
      Fails machine name session (.invalidProgramCounter frame.pc)
  | faulted {frame : Frame} {final : Session} {instruction : Instruction Nat} {fault : Fault}
      (visits : machine.Visits name session frame final)
      (fetched : frame.program[frame.pc]? = some instruction)
      (faults : instruction.Faults machine.classFile frame.memory fault) :
      Fails machine name session fault

/-- A frame that a run comes to makes it stop early for one of these reasons. -/
theorem fails_of_step {frame : Frame} {final ended : Session}
    (hvisits : machine.Visits name session frame final)
    (hstep : machine.step frame final = .done (.error fault) ended) :
    machine.Fails name session fault := by
  have hsteps := machine.steps_step frame final
  rw [hstep] at hsteps
  cases hsteps with
  | lost absent beyond => exact .lost hvisits absent beyond
  | failed fetched acts => exact .faulted hvisits fetched (Instruction.faults_of_act acts)
  | acted _ _ performs =>
      cases performs with
      | unprinted prints =>
          obtain ⟨cause, rfl⟩ := Session.ask_failed prints
          exact .notTaken
      | refused enters => exact .refused (enter_failed enters)

theorem fails_of_run {fuel : Nat}
    (hrun : machine.run fuel name session = some (.error fault, after)) :
    machine.Fails name session fault := by
  have hends := ends_of_run hrun
  generalize hanswer : (.error fault : Answer) = answer at hends
  cases hends with
  | notFound _ =>
      cases hanswer
      exact .refused trivial
  | refused _ enters =>
      cases hanswer
      exact .refused (enter_failed enters)
  | @executed entry first opened raw answer ended after found enters executes settles =>
      subst hanswer
      cases settles_of_settle settles with
      | failed =>
          obtain ⟨last, final, ended, hreach, hdone⟩ := Step.exists_reaches_of_run executes
          exact fails_of_step ⟨entry, first, opened, found, enters, hreach⟩ hdone
      | unflushed flushes =>
          obtain ⟨cause, rfl⟩ := Session.ask_failed flushes
          exact .notTaken

end Machine

end ClassVM
