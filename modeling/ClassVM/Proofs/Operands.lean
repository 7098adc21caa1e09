import ClassVM.Machine.Action
import ClassVM.Proofs.Outcomes

/-! # Operands and local variables

What an instruction finds when it takes operands from the stack or reads and writes a local
variable, and why it fails to. Whatever is taken stood on the stack in one piece, and the local
variables stay as they are. From this follows all that an instruction can ask for. -/

namespace ClassVM

/-- The fault is one of the operands, local variables or calls of an instruction, and not of a
lookup. -/
def Fault.OfInstruction : Fault → Prop
  | .emptyStack | .typeMismatch _ _ | .uninitializedLocal _ | .localOutOfRange _ _
  | .divisionByZero | .unsupportedVirtualCall _ _ | .unsupportedStaticCall _ | .notUnary _
  | .descriptor _ => True
  | _ => False

namespace OperandStack

variable {stack : OperandStack} {fault : Fault}

theorem pop_failed (h : stack.pop.1 = .error fault) : fault.OfInstruction := by
  unfold pop at h
  split at h
  · cases h
    trivial
  · cases h

theorem popInt_failed (h : stack.popInt.1 = .error fault) : fault.OfInstruction := by
  unfold popInt at h
  split at h
  · next found after hpop =>
      cases h
      exact pop_failed (congrArg Prod.fst hpop)
  · unfold asInt at h
    split at h
    · cases h
    · cases h
      trivial

theorem popArguments_failed {count : Nat} (h : (stack.popArguments count).1 = .error fault) :
    fault.OfInstruction := by
  unfold popArguments at h
  split at h
  · cases h
  · cases h
    trivial

theorem values_of_pop {value : Value} (h : stack.pop.1 = .ok value) :
    stack.values = value :: stack.pop.2.values := by
  unfold pop at h ⊢
  split at h
  · cases h
  · next hvalues =>
      cases h
      rw [hvalues]

theorem values_of_popInt {number : Int32} (h : stack.popInt.1 = .ok number) :
    stack.values = .int number :: stack.popInt.2.values := by
  unfold popInt at h ⊢
  split at h
  · cases h
  · next value after hpop =>
      unfold asInt at h
      split at h
      · cases h
        have hvalues := values_of_pop (congrArg Prod.fst hpop)
        rw [hpop] at hvalues
        exact hvalues
      · cases h

theorem values_of_popArguments {count : Nat} {arguments : List Value}
    (h : (stack.popArguments count).1 = .ok arguments) :
    stack.values = arguments.reverse ++ (stack.popArguments count).2.values := by
  unfold popArguments at h ⊢
  split at h
  · next hcount =>
      cases h
      rw [if_pos hcount, List.reverse_reverse, List.take_append_drop]
  · cases h

theorem length_of_popArguments {count : Nat} {arguments : List Value}
    (h : (stack.popArguments count).1 = .ok arguments) : arguments.length = count := by
  unfold popArguments at h
  split at h
  · next hcount =>
      cases h
      rw [List.length_reverse, List.length_take]
      exact Nat.min_eq_left hcount
  · cases h

end OperandStack

namespace Memory

variable {memory : Memory} {fault : Fault}

theorem pop_failed (h : memory.pop = .error fault) : fault.OfInstruction :=
  OperandStack.pop_failed (map_eq_error_iff.1 h)

theorem popInt_failed (h : memory.popInt = .error fault) : fault.OfInstruction :=
  OperandStack.popInt_failed (map_eq_error_iff.1 h)

theorem popArguments_failed {count : Nat} (h : memory.popArguments count = .error fault) :
    fault.OfInstruction :=
  OperandStack.popArguments_failed (map_eq_error_iff.1 h)

theorem popOperands_failed (h : memory.popOperands = .error fault) : fault.OfInstruction := by
  obtain hright | ⟨right, -, h⟩ := bind_eq_error_iff.1 h
  · exact popInt_failed hright
  · obtain hleft | ⟨left, -, h⟩ := bind_eq_error_iff.1 h
    · exact popInt_failed hleft
    · cases h

theorem popField_failed (h : memory.popField = .error fault) : fault.OfInstruction := by
  obtain hpop | ⟨popped, -, h⟩ := bind_eq_error_iff.1 h
  · exact pop_failed hpop
  · split at h
    · cases h
    · cases h
      trivial

/-- The values were on top of the stack, the topmost first, and only they have been taken. -/
structure Took (memory : Memory) (values : List Value) (rest : Memory) : Prop where
  stack : memory.stack.values = values ++ rest.stack.values
  locals : rest.locals = memory.locals

variable {rest : Memory}

theorem took_of_pop {value : Value} (h : memory.pop = .ok (value, rest)) :
    memory.Took [value] rest := by
  obtain ⟨top, htop, heq⟩ := map_eq_ok_iff.1 h
  cases heq
  exact ⟨OperandStack.values_of_pop htop, rfl⟩

theorem took_of_popInt {number : Int32} (h : memory.popInt = .ok (number, rest)) :
    memory.Took [.int number] rest := by
  obtain ⟨top, htop, heq⟩ := map_eq_ok_iff.1 h
  cases heq
  exact ⟨OperandStack.values_of_popInt htop, rfl⟩

theorem took_of_popArguments {count : Nat} {arguments : List Value}
    (h : memory.popArguments count = .ok (arguments, rest)) :
    memory.Took arguments.reverse rest := by
  obtain ⟨top, htop, heq⟩ := map_eq_ok_iff.1 h
  cases heq
  exact ⟨OperandStack.values_of_popArguments htop, rfl⟩

theorem length_of_popArguments {count : Nat} {arguments : List Value}
    (h : memory.popArguments count = .ok (arguments, rest)) : arguments.length = count := by
  obtain ⟨top, htop, heq⟩ := map_eq_ok_iff.1 h
  cases heq
  exact OperandStack.length_of_popArguments htop

theorem Took.trans {middle : Memory} {first second : List Value}
    (hfirst : memory.Took first middle) (hsecond : middle.Took second rest) :
    memory.Took (first ++ second) rest := by
  refine ⟨?_, hsecond.locals.trans hfirst.locals⟩
  rw [hfirst.stack, hsecond.stack, List.append_assoc]

theorem took_of_popOperands {left right : Int32}
    (h : memory.popOperands = .ok (left, right, rest)) :
    memory.Took [.int right, .int left] rest := by
  obtain ⟨⟨number, middle⟩, hright, h⟩ := bind_eq_ok_iff.1 h
  obtain ⟨⟨number', middle'⟩, hleft, h⟩ := bind_eq_ok_iff.1 h
  cases h
  exact (took_of_popInt hright).trans (took_of_popInt hleft)

theorem took_of_popField {handle : Pool.Index} (h : memory.popField = .ok (handle, rest)) :
    memory.Took [.field handle] rest := by
  obtain ⟨⟨value, middle⟩, hpop, h⟩ := bind_eq_ok_iff.1 h
  split at h
  · next heq =>
      cases h
      cases heq
      exact took_of_pop hpop
  · cases h

end Memory

namespace Locals

variable {locals : Locals} {index : UInt8} {fault : Fault}

theorem slot_failed (h : locals.slot index = .error fault) : fault.OfInstruction := by
  unfold slot at h
  split at h
  · cases h
  · cases h
    trivial

theorem get_failed (h : locals.get index = .error fault) : fault.OfInstruction := by
  obtain hslot | ⟨contents, -, h⟩ := bind_eq_error_iff.1 h
  · exact slot_failed hslot
  · split at h
    · cases h
    · cases h
      trivial

theorem change_of_error (h : locals.slot index = .error fault)
    (make : Option Value → Except Fault Unit × Option Value) :
    locals.change index make = (.error fault, locals) := by
  rw [change, h]

theorem change_of_ok {contents : Option Value} (h : locals.slot index = .ok contents)
    (make : Option Value → Except Fault Unit × Option Value) :
    locals.change index make = ((make contents).1, locals.put index (make contents).2) := by
  rw [change, h]

/-- A change fails for want of the slot, or for the contents. -/
theorem change_failed {make : Option Value → Except Fault Unit × Option Value}
    (h : (locals.change index make).1 = .error fault) :
    fault.OfInstruction ∨ ∃ contents, (make contents).1 = .error fault := by
  cases hslot : locals.slot index with
  | error cause =>
      rw [change_of_error hslot] at h
      cases h
      exact .inl (slot_failed hslot)
  | ok contents =>
      rw [change_of_ok hslot] at h
      exact .inr ⟨contents, h⟩

theorem set_failed {value : Value} (h : (locals.set index value).1 = .error fault) :
    fault.OfInstruction := by
  obtain hfault | ⟨contents, hmake⟩ := change_failed h
  · exact hfault
  · cases hmake

theorem increment_failed {delta : Int32} (h : (locals.increment index delta).1 = .error fault) :
    fault.OfInstruction := by
  obtain hfault | ⟨contents, hmake⟩ := change_failed h
  · exact hfault
  · split at hmake
    · cases hmake
    · cases hmake
      trivial
    · cases hmake
      trivial

/-- A slot that exists holds one of the contents. -/
theorem mem_of_slot {contents : Option Value} (h : locals.slot index = .ok contents) :
    contents ∈ locals.slots := by
  unfold slot at h
  split at h
  · next hslot =>
      cases h
      exact Array.mem_of_getElem? hslot
  · cases h

theorem mem_of_get {value : Value} (h : locals.get index = .ok value) :
    some value ∈ locals.slots := by
  obtain ⟨contents, hslot, h⟩ := bind_eq_ok_iff.1 h
  split at h
  · cases h
    exact mem_of_slot hslot
  · cases h

/-- A change that succeeds has found the slot. -/
theorem put_of_change {make : Option Value → Except Fault Unit × Option Value}
    (h : (locals.change index make).1 = .ok ()) :
    ∃ contents, (make contents).1 = .ok () ∧
      (locals.change index make).2 = locals.put index (make contents).2 := by
  cases hslot : locals.slot index with
  | error cause =>
      rw [change_of_error hslot] at h
      cases h
  | ok contents =>
      rw [change_of_ok hslot] at h ⊢
      exact ⟨contents, h, rfl⟩

theorem put_of_set {value : Value} (h : (locals.set index value).1 = .ok ()) :
    (locals.set index value).2 = locals.put index (some value) := by
  obtain ⟨contents, -, hput⟩ := put_of_change h
  exact hput

theorem put_of_increment {delta : Int32} (h : (locals.increment index delta).1 = .ok ()) :
    ∃ number, (locals.increment index delta).2 =
      locals.put index (some (.int (number + delta))) := by
  obtain ⟨contents, hmake, hput⟩ := put_of_change h
  split at hmake
  · next number => exact ⟨number, hput⟩
  · cases hmake
  · cases hmake

theorem mem_put {value contents : Value}
    (h : some contents ∈ (locals.put index (some value)).slots) :
    contents = value ∨ some contents ∈ locals.slots := by
  obtain hslot | heq := Array.mem_or_eq_of_mem_setIfInBounds h
  · exact .inr hslot
  · exact .inl (Option.some.inj heq)

theorem mem_create {capacity : Nat} {arguments : List Value} {value : Value}
    (hcreate : create capacity arguments = .ok locals) (h : some value ∈ locals.slots) :
    value ∈ arguments := by
  unfold create at hcreate
  split at hcreate
  · cases hcreate
    simpa using h
  · cases hcreate

end Locals

/-! ## Instructions that succeed -/

namespace Instruction

variable {τ : Type} {segment : Text.Segmenter} {classFile : ClassFile} {memory : Memory}
  {index : Pool.Index} {action : Action τ}

/-- All that an instruction can ask for, with the operands that it takes and the constants that it
finds. -/
inductive Acts (segment : Text.Segmenter) (classFile : ClassFile) (memory : Memory) :
    Instruction τ → Action τ → Prop
  | getStatic {index : Pool.Index} {member : Pool.MemberRef}
      (finds : classFile.pool.fieldRef index = .ok member) :
      Acts segment classFile memory (.getStatic index) (memory.pushing (.field index))
  | loadConstant {index : Pool.Index} {content : String}
      (finds : classFile.pool.string index = .ok content) :
      Acts segment classFile memory (.loadConstant index) (memory.pushing (.text content))
  | invokeVirtual {index handle : Pool.Index} {method receiver : Pool.Member}
      {descriptor : Descriptor} {argument : Value} {rest : Memory}
      (finds : classFile.pool.method index = .ok method)
      (parses : Descriptor.parse segment method.descriptor = .ok descriptor)
      (unary : descriptor.arity = 1)
      (takes : memory.Took [argument, .field handle] rest)
      (receives : classFile.pool.field handle = .ok receiver)
      (prints : isPrintLine method receiver) :
      Acts segment classFile memory (.invokeVirtual index) (.print argument rest)
  | invokeStatic {index : Pool.Index} {method : Pool.Member} {descriptor : Descriptor}
      {arguments : List Value} {rest : Memory}
      (finds : classFile.pool.method index = .ok method)
      (inside : classFile.name = .ok method.owner)
      (parses : Descriptor.parse segment method.descriptor = .ok descriptor)
      (fits : arguments.length = descriptor.arity) (takes : memory.Took arguments.reverse rest) :
      Acts segment classFile memory (.invokeStatic index) (.call method.name arguments rest)
  | returnNothing : Acts segment classFile memory .returnNothing (.finish none)
  | returnValue {value : Value} {rest : Memory} (takes : memory.Took [value] rest) :
      Acts segment classFile memory .returnValue (.finish (some value))
  | push {value : Int32} : Acts segment classFile memory (.push value) (memory.pushing (.int value))
  | arithmetic {op : Arithmetic} {left right result : Int32} {rest : Memory}
      (takes : memory.Took [.int right, .int left] rest)
      (computes : op.apply left right = some result) :
      Acts segment classFile memory (.arithmetic op) (rest.pushing (.int result))
  | store {slot : UInt8} {value : Value} {rest : Memory} (takes : memory.Took [value] rest)
      (sets : (rest.locals.set slot value).1 = .ok ()) :
      Acts segment classFile memory (.store slot)
        (.advance { rest with locals := (rest.locals.set slot value).2 })
  | load {slot : UInt8} {value : Value} (gets : memory.locals.get slot = .ok value) :
      Acts segment classFile memory (.load slot) (memory.pushing value)
  | increment {slot : UInt8} {delta : Int8}
      (adds : (memory.locals.increment slot delta.toInt32).1 = .ok ()) :
      Acts segment classFile memory (.increment slot delta)
        (.advance { memory with locals := (memory.locals.increment slot delta.toInt32).2 })
  | nonzero {target : τ} {number : Int32} {rest : Memory} (takes : memory.Took [.int number] rest)
      (branches : number ≠ 0) :
      Acts segment classFile memory (.ifNonzero target) (.jump target rest)
  | zero {target : τ} {rest : Memory} (takes : memory.Took [.int 0] rest) :
      Acts segment classFile memory (.ifNonzero target) (.advance rest)
  | holds {comparison : Comparison} {target : τ} {left right : Int32} {rest : Memory}
      (takes : memory.Took [.int right, .int left] rest) (branches : comparison.holds left right) :
      Acts segment classFile memory (.ifCompare comparison target) (.jump target rest)
  | fails {comparison : Comparison} {target : τ} {left right : Int32} {rest : Memory}
      (takes : memory.Took [.int right, .int left] rest)
      (passes : ¬ comparison.holds left right) :
      Acts segment classFile memory (.ifCompare comparison target) (.advance rest)
  | goto {target : τ} : Acts segment classFile memory (.goto target) (.jump target memory)

theorem acts_of_callVirtual (h : callVirtual segment classFile memory index = .ok action) :
    Acts segment classFile memory (.invokeVirtual index) action := by
  obtain ⟨method, hmethod, h⟩ := bind_eq_ok_iff.1 h
  obtain ⟨descriptor, hdescriptor, h⟩ := bind_eq_ok_iff.1 h
  split at h
  · cases h
  · next harity =>
      obtain ⟨⟨argument, below⟩, hpop, h⟩ := bind_eq_ok_iff.1 h
      obtain ⟨⟨handle, rest⟩, htake, h⟩ := bind_eq_ok_iff.1 h
      obtain ⟨receiver, hreceiver, h⟩ := bind_eq_ok_iff.1 h
      split at h
      · next hprints =>
          cases h
          have htook := (Memory.took_of_pop hpop).trans (Memory.took_of_popField htake)
          exact .invokeVirtual (mapError_eq_ok_iff.1 hmethod) (mapError_eq_ok_iff.1 hdescriptor)
            (not_not.1 harity) htook (mapError_eq_ok_iff.1 hreceiver) hprints
      · cases h

theorem acts_of_callStatic (h : callStatic segment classFile memory index = .ok action) :
    Acts segment classFile memory (.invokeStatic index) action := by
  obtain ⟨method, hmethod, h⟩ := bind_eq_ok_iff.1 h
  obtain ⟨name, hname, h⟩ := bind_eq_ok_iff.1 h
  split at h
  · cases h
  · next howner =>
      obtain ⟨descriptor, hdescriptor, h⟩ := bind_eq_ok_iff.1 h
      obtain ⟨⟨arguments, rest⟩, hpop, h⟩ := bind_eq_ok_iff.1 h
      cases h
      have hinside : classFile.name = .ok method.owner := by
        rw [not_not.1 howner]
        exact mapError_eq_ok_iff.1 hname
      exact .invokeStatic (mapError_eq_ok_iff.1 hmethod) hinside
        (mapError_eq_ok_iff.1 hdescriptor) (Memory.length_of_popArguments hpop)
        (Memory.took_of_popArguments hpop)

theorem acts_of_act {instruction : Instruction τ}
    (h : instruction.act segment classFile memory = .ok action) :
    Acts segment classFile memory instruction action := by
  cases instruction with
  | getStatic index =>
      obtain ⟨member, hfield, h⟩ := bind_eq_ok_iff.1 h
      cases h
      exact .getStatic (mapError_eq_ok_iff.1 hfield)
  | loadConstant index =>
      obtain ⟨content, hstring, h⟩ := bind_eq_ok_iff.1 h
      cases h
      exact .loadConstant (mapError_eq_ok_iff.1 hstring)
  | invokeVirtual index => exact acts_of_callVirtual h
  | invokeStatic index => exact acts_of_callStatic h
  | returnNothing =>
      cases h
      exact .returnNothing
  | returnValue =>
      obtain ⟨⟨value, rest⟩, hpop, h⟩ := bind_eq_ok_iff.1 h
      cases h
      exact .returnValue (Memory.took_of_pop hpop)
  | push value =>
      cases h
      exact .push
  | arithmetic op =>
      obtain ⟨⟨left, right, rest⟩, hpop, h⟩ := bind_eq_ok_iff.1 h
      simp only at h
      split at h
      · next hresult =>
          cases h
          exact .arithmetic (Memory.took_of_popOperands hpop) hresult
      · cases h
  | store slot =>
      obtain ⟨⟨value, rest⟩, hpop, h⟩ := bind_eq_ok_iff.1 h
      obtain ⟨_, hset, h⟩ := bind_eq_ok_iff.1 h
      cases h
      exact .store (Memory.took_of_pop hpop) hset
  | load slot =>
      obtain ⟨value, hget, h⟩ := bind_eq_ok_iff.1 h
      cases h
      exact .load hget
  | increment slot delta =>
      obtain ⟨_, hadd, h⟩ := bind_eq_ok_iff.1 h
      cases h
      exact .increment hadd
  | ifNonzero target =>
      obtain ⟨⟨number, rest⟩, hpop, h⟩ := bind_eq_ok_iff.1 h
      have htook := Memory.took_of_popInt hpop
      simp only at h
      split at h
      · next hnonzero =>
          cases h
          exact .nonzero htook hnonzero
      · next hzero =>
          cases h
          rw [not_not.1 hzero] at htook
          exact .zero htook
  | ifCompare comparison target =>
      obtain ⟨⟨left, right, rest⟩, hpop, h⟩ := bind_eq_ok_iff.1 h
      have htook := Memory.took_of_popOperands hpop
      simp only at h
      split at h
      · next hholds =>
          cases h
          exact .holds htook hholds
      · next hfails =>
          cases h
          exact .fails htook hfails
  | goto target =>
      cases h
      exact .goto

end Instruction

end ClassVM
