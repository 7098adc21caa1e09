import ClassVM.Proofs.LoadedCode

/-! # Static calls

A static call takes its arguments from the stack of the caller, and the callee finds them in its
first local variables, in the order in which they were pushed. The callee starts with nothing else.
Whatever it does, the caller goes on with the frame that it left, and with what was returned on top
of its stack. -/

namespace ClassVM

/-! ## Arguments and results -/

/-- The operands of a stack, the top last. -/
def OperandStack.bottomUp (stack : OperandStack) : List Value := stack.values.reverse

namespace Memory

variable {memory rest : Memory}

theorem Took.bottomUp {arguments : List Value} (h : memory.Took arguments.reverse rest) :
    memory.stack.bottomUp = rest.stack.bottomUp ++ arguments := by
  rw [OperandStack.bottomUp, h.stack, List.reverse_append, List.reverse_reverse]
  rfl

theorem receive_bottomUp (memory : Memory) (result : Option Value) :
    (memory.receive result).stack.bottomUp = memory.stack.bottomUp ++ result.toList := by
  cases result with
  | none => simp [receive]
  | some value => simp [receive, OperandStack.bottomUp, OperandStack.push]

theorem receive_locals (memory : Memory) (result : Option Value) :
    (memory.receive result).locals = memory.locals := by
  cases result with
  | none => rfl
  | some value => rfl

end Memory

/-- A frame before its first step. It has so many local variables, of which the first hold the
arguments in order and the others have never been written, and its stack is empty. -/
structure Frame.Fresh (frame : Frame) (capacity : Nat) (arguments : List Value) : Prop where
  pc : frame.pc = 0
  stack : frame.memory.stack = .empty
  room : frame.memory.locals.capacity = capacity
  written : ∀ slot (h : slot < arguments.length),
    frame.memory.locals.slots[slot]? = some (some arguments[slot])
  unwritten : ∀ slot, arguments.length ≤ slot → slot < capacity →
    frame.memory.locals.slots[slot]? = some none

theorem Locals.fresh_of_create {capacity : Nat} {arguments : List Value} {locals : Locals}
    (h : create capacity arguments = .ok locals) (program : Program) :
    Frame.Fresh ⟨program, 0, ⟨.empty, locals⟩⟩ capacity arguments := by
  unfold create at h
  split at h
  · next hfits =>
      cases h
      refine ⟨rfl, rfl, ?_, ?_, ?_⟩
      · simp [Locals.capacity, hfits]
      · intro slot hslot
        simp [Array.getElem?_append_left, hslot]
      · intro slot hslot hcapacity
        have hleft : slot - arguments.length < capacity - arguments.length := by omega
        simp [Array.getElem?_append_right, hslot, hleft]
  · cases h

/-! ## Calls that return -/

namespace Step

variable {φ : Type} {step : φ → Session → Step φ}

/-- The call that a step comes to, if it is one that returns: the frame that is called, what it
returns, and the frame and the session that the caller goes on with. -/
def returned? (step : φ → Session → Step φ) (fuel : Nat) :
    Step φ → Option (φ × Option Value × φ × Session)
  | .call name callee resume opened =>
      match Step.run step fuel callee opened with
      | some (.ok result, ended) => some (callee, result, resume result, ended.closed name)
      | _ => none
  | _ => none

theorem exists_call_of_returned? {fuel : Nat} {first : Step φ} {callee next : φ}
    {result : Option Value} {after : Session}
    (h : first.returned? step fuel = some (callee, result, next, after)) :
    ∃ name resume opened ended, first = .call name callee resume opened ∧
      Step.run step fuel callee opened = some (.ok result, ended) ∧
      next = resume result ∧ after = ended.closed name := by
  unfold returned? at h
  split at h
  · next name callee resume opened =>
      split at h
      · next result ended hrun =>
          cases h
          exact ⟨name, resume, opened, ended, rfl, hrun, rfl, rfl⟩
      · cases h
  · cases h

/-- The run of a caller goes on with the frame and the session that the call leaves. -/
theorem run_of_returned? {fuel : Nat} {frame callee next : φ} {session after : Session}
    {result : Option Value}
    (h : (step frame session).returned? step fuel = some (callee, result, next, after)) :
    Step.run step (fuel + 1) frame session = Step.run step fuel next after := by
  obtain ⟨name, resume, opened, ended, hcalls, hrun, rfl, rfl⟩ := exists_call_of_returned? h
  rw [Step.run, hcalls]
  simp only [hrun]

end Step

/-- A method that is loaded has the local variables of the first method of its name, whether its
instructions were kept or not. -/
theorem Session.firstNamed_of_load {session : Session} {classFile : ClassFile} {name : String}
    {program : Program} {maxLocals : Nat}
    (h : (session.load classFile name).1 = .ok (program, maxLocals)) :
    ∃ method, classFile.FirstNamed name method ∧ maxLocals = method.maxLocals := by
  unfold load at h
  split at h
  · cases h
  · next method hmethod =>
      refine ⟨method, ClassFile.method?_eq_some_iff.1 hmethod, ?_⟩
      split at h
      · cases h
        rfl
      · simp only at h
        split at h
        · cases h
        · cases h
          rfl

namespace Machine

variable {machine : Machine} {frame callee next : Frame} {session after : Session}

theorem fresh_of_enter {name : String} {arguments : List Value}
    (henter : machine.enter name arguments session = (.ok callee, after)) :
    ∃ method, machine.classFile.FirstNamed name method ∧
      callee.Fresh (max machine.limits.localsCapacity method.maxLocals) arguments := by
  cases enters_of_enter henter with
  | @made program maxLocals locals after within loads creates =>
      obtain ⟨method, hmethod, rfl⟩ := Session.firstNamed_of_load (congrArg Prod.fst loads)
      exact ⟨method, hmethod, Locals.fresh_of_create creates program⟩

/-- The frame of a call runs what decoding the method gives. -/
theorem decoded_of_enter {name : String} {arguments : List Value}
    (hsession : session.Consistent machine.classFile)
    (henter : machine.enter name arguments session = (.ok callee, after)) :
    (machine.classFile.instructionsOf name).outcome = .ok callee.program.toList := by
  have hloaded := hsession.load_fst name
  cases enters_of_enter henter with
  | made _ loads _ =>
      rw [loads] at hloaded
      exact (ClassFile.loaded_eq_ok_iff.1 hloaded.symm).1

/-- All that a frame at a static call does if the call is made: it takes the arguments, enters the
method, and keeps what is below the arguments for later. -/
theorem static_of_step {index : Pool.Index} {name : String} {resume : Option Value → Frame}
    (hfetch : frame.program[frame.pc]? = some (.invokeStatic index))
    (hcalls : machine.step frame session = .call name callee resume after) :
    ∃ member descriptor arguments rest,
      machine.classFile.pool.method index = .ok member ∧
      machine.classFile.name = .ok member.owner ∧
      Descriptor.parse machine.segment member.descriptor = .ok descriptor ∧
      arguments.length = descriptor.arity ∧ frame.memory.Took arguments.reverse rest ∧
      machine.enter member.name arguments
        (session.note (.executing frame.pc (.invokeStatic index) frame.memory.stack)) =
          (.ok callee, after) ∧
      resume = fun result => frame.next (rest.receive result) := by
  have hsteps := machine.steps_step frame session
  rw [hcalls] at hsteps
  cases hsteps with
  | acted fetched acts performs =>
      rw [hfetch] at fetched
      cases fetched
      cases performs with
      | called enters =>
          cases Instruction.acts_of_act acts with
          | invokeStatic finds inside parses fits takes =>
              exact ⟨_, _, _, _, finds, inside, parses, fits, takes, enters, rfl⟩

/-- A static call that returns leads to a member of the class itself. As many values as its
descriptor has parameters are taken from the top of the caller's stack, and the callee, which is the
first method of the name, starts with these in its first local variables and with nothing else. When
it has returned, however much it has run and called, the caller goes on behind the call with its own
local variables, the rest of its stack, and what was returned on top of it. -/
theorem static_call_passes_arguments {index : Pool.Index} {fuel : Nat} {result : Option Value}
    (hfetch : frame.program[frame.pc]? = some (.invokeStatic index))
    (hreturns : (machine.step frame session).returned? machine.step fuel =
      some (callee, result, next, after)) :
    ∃ member descriptor method rest arguments,
      machine.classFile.pool.method index = .ok member ∧
      machine.classFile.name = .ok member.owner ∧
      Descriptor.parse machine.segment member.descriptor = .ok descriptor ∧
      arguments.length = descriptor.parameters.length ∧
      frame.memory.stack.bottomUp = rest ++ arguments ∧
      machine.classFile.FirstNamed member.name method ∧
      callee.Fresh (max machine.limits.localsCapacity method.maxLocals) arguments ∧
      (session.Consistent machine.classFile →
        (machine.classFile.instructionsOf member.name).outcome = .ok callee.program.toList) ∧
      next.memory.stack.bottomUp = rest ++ result.toList ∧
      next.memory.locals = frame.memory.locals ∧
      next.program = frame.program ∧ next.pc = frame.pc + 1 ∧ after.depth = session.depth ∧
      machine.execute (fuel + 1) frame session = machine.execute fuel next after := by
  have hexecute := Step.run_of_returned? hreturns
  obtain ⟨name, resume, opened, ended, hcalls, hrun, rfl, rfl⟩ :=
    Step.exists_call_of_returned? hreturns
  obtain ⟨member, descriptor, arguments, rest, hfinds, hinside, hparses, hfits, htakes, henter,
    rfl⟩ := static_of_step hfetch hcalls
  obtain ⟨method, hmethod, hfresh⟩ := fresh_of_enter henter
  have hdepth := machine.carries_depth
  refine ⟨member, descriptor, method, rest.stack.bottomUp, arguments, hfinds, hinside, hparses,
    hfits, htakes.bottomUp, hmethod, hfresh,
    fun hsession => decoded_of_enter (hsession.note _) henter, rest.receive_bottomUp result,
    ?_, rfl, rfl, hdepth.call hcalls (hdepth.run hrun), hexecute⟩
  exact (rest.receive_locals result).trans htakes.locals

/-- A class whose `main` puts four numbers on the stack and calls `pick` with the upper three of
them. This calls `idle`, and returns its second argument. -/
def secondOfThree : Machine where
  classFile :=
    { minorVersion := 0
      majorVersion := 52
      pool := ⟨#[.utf8 "Test", .classRef ⟨1⟩, .utf8 "main", .utf8 "()I", .utf8 "pick",
        .utf8 "(I[[ILTest;)I", .nameAndType ⟨5⟩ ⟨6⟩, .methodRef ⟨⟨2⟩, ⟨7⟩⟩, .utf8 "idle",
        .utf8 "()V", .nameAndType ⟨9⟩ ⟨10⟩, .methodRef ⟨⟨2⟩, ⟨11⟩⟩]⟩
      access := 0
      thisClass := ⟨2⟩
      superClass := ⟨2⟩
      interfaces := []
      methods :=
        [⟨⟨8⟩, ⟨3⟩, ⟨4⟩, 4, 2, [0x08, 0x04, 0x05, 0x06, 0xB8, 0, 8, 0xAC]⟩,
          ⟨⟨8⟩, ⟨5⟩, ⟨6⟩, 4, 12, [0xB8, 0, 12, 0x1B, 0xAC]⟩, ⟨⟨8⟩, ⟨9⟩, ⟨10⟩, 4, 2, [0xB1]⟩] }
  limits := {}

/-- The callee finds the three numbers in order, and the caller finds the second of them above the
number that was left. -/
theorem static_call_secondOfThree :
    ∃ frame session callee next after,
      secondOfThree.Visits "main" (.start .unlimited none) frame session ∧
      (secondOfThree.step frame session).returned? secondOfThree.step 9 =
        some (callee, some (.int 2), next, after) ∧
      frame.memory.stack.bottomUp = [.int 5, .int 1, .int 2, .int 3] ∧
      callee.Fresh 12 [.int 1, .int 2, .int 3] ∧
      next.memory.stack.bottomUp = [.int 5, .int 2] := by
  have hwalk : ((secondOfThree.enter "main" [] (.start .unlimited none)).1.toOption.bind
      fun first => (secondOfThree.step first
          (secondOfThree.enter "main" [] (.start .unlimited none)).2).next?.bind
      fun second => (secondOfThree.step second.1 second.2).next?.bind
      fun third => (secondOfThree.step third.1 third.2).next?.bind
      fun fourth => (secondOfThree.step fourth.1 fourth.2).next?.bind
      fun last => ((secondOfThree.step last.1 last.2).returned? secondOfThree.step 9).map
      fun found => (last.1.program[last.1.pc]?, last.1.memory.stack.bottomUp, found.2.1)) =
        some (some (.invokeStatic ⟨8⟩), [.int 5, .int 1, .int 2, .int 3], some (.int 2)) := by
    decide +kernel
  obtain ⟨first, henter, hwalk⟩ := Option.bind_eq_some_iff.1 hwalk
  obtain ⟨⟨second, _⟩, hfirst, hwalk⟩ := Option.bind_eq_some_iff.1 hwalk
  obtain ⟨⟨third, _⟩, hsecond, hwalk⟩ := Option.bind_eq_some_iff.1 hwalk
  obtain ⟨⟨fourth, _⟩, hthird, hwalk⟩ := Option.bind_eq_some_iff.1 hwalk
  obtain ⟨⟨last, session⟩, hfourth, hwalk⟩ := Option.bind_eq_some_iff.1 hwalk
  obtain ⟨⟨callee, result, next, after⟩, hreturns, heq⟩ := Option.map_eq_some_iff.1 hwalk
  simp only [Prod.mk.injEq] at heq
  obtain ⟨hfetch, hstack, rfl⟩ := heq
  have hvisits : secondOfThree.Visits "main" (.start .unlimited none) last session :=
    ⟨_, first, _, rfl, Prod.ext (eq_ok_of_toOption henter) rfl,
      .next (Step.eq_next_of_next? hfirst) (.next (Step.eq_next_of_next? hsecond)
        (.next (Step.eq_next_of_next? hthird) (.next (Step.eq_next_of_next? hfourth) .here)))⟩
  obtain ⟨member, descriptor, method, rest, arguments, hfinds, -, hparses, hlength, hbefore,
    hmethod, hfresh, -, hafter, -⟩ := static_call_passes_arguments hfetch hreturns
  have hmember : secondOfThree.classFile.pool.method ⟨8⟩ = .ok ⟨"Test", "pick", "(I[[ILTest;)I"⟩ :=
    rfl
  obtain rfl := Except.ok.inj (hmember.symm.trans hfinds)
  have hdescriptor : Descriptor.parse Text.clusters "(I[[ILTest;)I" =
      .ok ⟨[.int, .array (.array .int), .reference "Test"], .int⟩ := by decide +kernel
  obtain rfl := Except.ok.inj (hdescriptor.symm.trans hparses)
  have hpick : secondOfThree.classFile.method? "pick" = some _ := rfl
  obtain rfl := Option.some.inj (hpick.symm.trans (ClassFile.method?_eq_some_iff.2 hmethod))
  have hsplit : [.int 5] ++ [.int 1, .int 2, .int 3] = rest ++ arguments :=
    hstack.symm.trans hbefore
  obtain ⟨rfl, rfl⟩ := List.append_inj' hsplit hlength.symm
  exact ⟨last, session, callee, next, after, hvisits, hreturns, hstack, hfresh, hafter⟩

end Machine

end ClassVM
