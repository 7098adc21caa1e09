import ClassVM.Proofs.CodeLayout
import ClassVM.Proofs.Stepping

/-! # Instructions that act alike

An instruction looks constants up, takes operands and uses local variables. Where two classes and
two memories answer it alike, it asks for the same on both. Where the first of them refuses what the
other may grant, its run is cut short. -/

namespace ClassVM

/-- The same error or related values, unless the first is an error that cuts things short. -/
inductive AgreesUnless {ε α β : Type} (Cut : ε → Prop) (R : α → β → Prop) :
    Except ε α → Except ε β → Prop
  | failed {e : ε} : AgreesUnless Cut R (.error e) (.error e)
  | found {a : α} {b : β} (values : R a b) : AgreesUnless Cut R (.ok a) (.ok b)
  | cut {e : ε} {other : Except ε β} (cuts : Cut e) : AgreesUnless Cut R (.error e) other

namespace AgreesUnless

variable {ε ε' α β γ δ : Type} {Cut : ε → Prop} {R : α → β → Prop} {R' : γ → δ → Prop}
  {result : Except ε α} {result' : Except ε β}

theorem refl (result : Except ε α) : AgreesUnless Cut Eq result result := by
  cases result with
  | error e => exact .failed
  | ok a => exact .found rfl

theorem bind {next : α → Except ε γ} {next' : β → Except ε δ} (h : AgreesUnless Cut R result result')
    (hnext : ∀ {a b}, R a b → AgreesUnless Cut R' (next a) (next' b)) :
    AgreesUnless Cut R' (result >>= next) (result' >>= next') := by
  cases h with
  | failed => exact .failed
  | found values => exact hnext values
  | cut cuts => exact .cut cuts

theorem mapError {f : ε' → ε} {result : Except ε' α} {result' : Except ε' β}
    (h : AgreesUnless (fun e => Cut (f e)) R result result') :
    AgreesUnless Cut R (result.mapError f) (result'.mapError f) := by
  cases h with
  | failed => exact .failed
  | found values => exact .found values
  | cut cuts => exact .cut cuts

theorem eq_of_not_cut {result result' : Except ε α} (h : AgreesUnless Cut Eq result result')
    (huncut : ∀ e, result = .error e → ¬ Cut e) : result = result' := by
  cases h with
  | failed => rfl
  | found values => rw [values]
  | @cut e _ cuts => exact absurd cuts (huncut e rfl)

end AgreesUnless

/-! ## Memories -/

/-- The same operands, and local variables that are related. -/
structure Memory.Related (L : Locals → Locals → Prop) (memory memory' : Memory) : Prop where
  stack : memory.stack = memory'.stack
  locals : L memory.locals memory'.locals

theorem Memory.related_eq_iff {memory memory' : Memory} :
    Memory.Related Eq memory memory' ↔ memory = memory' := by
  constructor
  · rintro ⟨hstack, hlocals⟩
    cases memory
    cases memory'
    cases hstack
    cases hlocals
    rfl
  · rintro rfl
    exact ⟨rfl, rfl⟩

/-- What was taken from two memories is the same, and what is left is related. -/
def Memory.LeftBehind {α : Type} (M : Memory → Memory → Prop) (taken taken' : α × Memory) : Prop :=
  taken.1 = taken'.1 ∧ M taken.2 taken'.2

/-- Local variables that are related are read and changed alike, unless things are cut short. -/
structure Locals.Parallel (L : Locals → Locals → Prop) (Cut : Fault → Prop) : Prop where
  get : ∀ {locals locals'}, L locals locals' → ∀ slot,
    AgreesUnless Cut Eq (locals.get slot) (locals'.get slot)
  change : ∀ {locals locals'}, L locals locals' → ∀ slot make,
    AgreesUnless Cut (fun _ _ => L (locals.change slot make).2 (locals'.change slot make).2)
      (locals.change slot make).1 (locals'.change slot make).1

theorem Locals.parallel_eq (Cut : Fault → Prop) : Locals.Parallel Eq Cut where
  get := by
    rintro locals _ rfl slot
    exact .refl _
  change := by
    rintro locals _ rfl slot make
    cases (locals.change slot make).1 with
    | error fault => exact .failed
    | ok _ => exact .found rfl

namespace Memory.Related

variable {L : Locals → Locals → Prop} {Cut : Fault → Prop} {memory memory' : Memory}

theorem receive (h : Memory.Related L memory memory') (result : Option Value) :
    Memory.Related L (memory.receive result) (memory'.receive result) := by
  cases result with
  | none => exact h
  | some value => exact ⟨congrArg (·.push value) h.stack, h.locals⟩

theorem pushing {τ σ : Type} {T : τ → σ → Prop} (h : Memory.Related L memory memory')
    (value : Value) :
    Action.Related T (Memory.Related L) (memory.pushing value) (memory'.pushing value) :=
  .advance ⟨congrArg (·.push value) h.stack, h.locals⟩

/-- Changing a local variable goes on alike. -/
theorem changing {τ σ : Type} {T : τ → σ → Prop} (h : Memory.Related L memory memory')
    (hlocals : Locals.Parallel L Cut) (slot : UInt8)
    (make : Option Value → Except Fault Unit × Option Value) :
    AgreesUnless Cut (Action.Related T (Memory.Related L))
      (memory.changing (memory.locals.change slot make))
      (memory'.changing (memory'.locals.change slot make)) := by
  apply (hlocals.change h.locals slot make).bind
  intro _ _ hchanged
  exact .found (.advance ⟨h.stack, hchanged⟩)

/-- Taking from equal stacks takes the same. -/
theorem taking {α : Type} (h : Memory.Related L memory memory') (found : Except Fault α)
    (stack : OperandStack) :
    AgreesUnless Cut (Memory.LeftBehind (Memory.Related L))
      (found.map fun a => (a, { memory with stack }))
      (found.map fun a => (a, { memory' with stack })) := by
  cases found with
  | error fault => exact .failed
  | ok a => exact .found ⟨rfl, rfl, h.locals⟩

theorem pop (h : Memory.Related L memory memory') :
    AgreesUnless Cut (Memory.LeftBehind (Memory.Related L)) memory.pop memory'.pop := by
  rw [Memory.pop, Memory.pop, ← h.stack]
  exact h.taking _ _

theorem popInt (h : Memory.Related L memory memory') :
    AgreesUnless Cut (Memory.LeftBehind (Memory.Related L)) memory.popInt memory'.popInt := by
  rw [Memory.popInt, Memory.popInt, ← h.stack]
  exact h.taking _ _

theorem popArguments (h : Memory.Related L memory memory') (count : Nat) :
    AgreesUnless Cut (Memory.LeftBehind (Memory.Related L)) (memory.popArguments count)
      (memory'.popArguments count) := by
  rw [Memory.popArguments, Memory.popArguments, ← h.stack]
  exact h.taking _ _

theorem popOperands (h : Memory.Related L memory memory') :
    AgreesUnless Cut
      (fun taken taken' => taken.1 = taken'.1 ∧
        Memory.LeftBehind (Memory.Related L) taken.2 taken'.2)
      memory.popOperands memory'.popOperands := by
  apply h.popInt.bind
  rintro ⟨right, rest⟩ ⟨_, rest'⟩ ⟨rfl, hrest⟩
  apply hrest.popInt.bind
  rintro ⟨left, rest⟩ ⟨_, rest'⟩ ⟨rfl, hrest⟩
  exact .found ⟨rfl, rfl, hrest⟩

theorem popField (h : Memory.Related L memory memory') :
    AgreesUnless Cut (Memory.LeftBehind (Memory.Related L)) memory.popField memory'.popField := by
  apply h.pop.bind
  rintro ⟨value, rest⟩ ⟨_, rest'⟩ ⟨rfl, hrest⟩
  cases value with
  | field index => exact .found ⟨rfl, hrest⟩
  | int number => exact .failed
  | text content => exact .failed

end Memory.Related

/-! ## Instructions -/

/-- What instructions look up is the same in both classes, unless things are cut short. -/
structure ClassFile.Parallel (classFile other : ClassFile) (Cut : Fault → Prop) : Prop where
  fieldRef : ∀ index, AgreesUnless (fun e => Cut (.lookup e)) Eq (classFile.pool.fieldRef index)
    (other.pool.fieldRef index)
  string : ∀ index, AgreesUnless (fun e => Cut (.lookup e)) Eq (classFile.pool.string index)
    (other.pool.string index)
  field : ∀ index, AgreesUnless (fun e => Cut (.lookup e)) Eq (classFile.pool.field index)
    (other.pool.field index)
  method : ∀ index, AgreesUnless (fun e => Cut (.lookup e)) Eq (classFile.pool.method index)
    (other.pool.method index)
  name : AgreesUnless (fun e => Cut (.lookup e)) Eq classFile.name other.name

/-- Classes with the same constants and the same name answer alike. -/
theorem ClassFile.parallel_of_pool {classFile other : ClassFile} (hpool : classFile.pool = other.pool)
    (hthis : classFile.thisClass = other.thisClass) (Cut : Fault → Prop) :
    classFile.Parallel other Cut where
  fieldRef index := hpool ▸ .refl _
  string index := hpool ▸ .refl _
  field index := hpool ▸ .refl _
  method index := hpool ▸ .refl _
  name := by
    rw [ClassFile.name, ClassFile.name, hpool, hthis]
    exact .refl _

theorem ClassFile.parallel_self (classFile : ClassFile) (Cut : Fault → Prop) :
    classFile.Parallel classFile Cut :=
  parallel_of_pool rfl rfl Cut

namespace Instruction

variable {τ σ ε : Type} {T : τ → σ → Prop} {segment : Text.Segmenter} {classFile other : ClassFile}
  {Cut : Fault → Prop} {L : Locals → Locals → Prop} {memory memory' : Memory}

theorem callVirtual_parallel (hclass : classFile.Parallel other Cut)
    (h : Memory.Related L memory memory') (index : Pool.Index) :
    AgreesUnless Cut (Action.Related T (Memory.Related L))
      (callVirtual segment classFile memory index) (callVirtual segment other memory' index) := by
  apply (hclass.method index).mapError.bind
  rintro method _ rfl
  apply (AgreesUnless.refl (calledDescriptor segment method)).bind
  rintro descriptor _ rfl
  split
  · exact .failed
  · apply h.pop.bind
    rintro ⟨argument, rest⟩ ⟨_, rest'⟩ ⟨rfl, hrest⟩
    apply hrest.popField.bind
    rintro ⟨handle, rest⟩ ⟨_, rest'⟩ ⟨rfl, hrest⟩
    apply (hclass.field handle).mapError.bind
    rintro receiver _ rfl
    simp only
    split
    · exact .found (.print hrest)
    · exact .failed

theorem callStatic_parallel (hclass : classFile.Parallel other Cut)
    (h : Memory.Related L memory memory') (index : Pool.Index) :
    AgreesUnless Cut (Action.Related T (Memory.Related L))
      (callStatic segment classFile memory index) (callStatic segment other memory' index) := by
  apply (hclass.method index).mapError.bind
  rintro method _ rfl
  apply hclass.name.mapError.bind
  rintro name _ rfl
  split
  · exact .failed
  · apply (AgreesUnless.refl (calledDescriptor segment method)).bind
    rintro descriptor _ rfl
    apply (h.popArguments descriptor.arity).bind
    rintro ⟨arguments, rest⟩ ⟨_, rest'⟩ ⟨rfl, hrest⟩
    exact .found (.call hrest)

theorem retarget_ok (instruction : Instruction τ) :
    instruction.retarget (.ok : τ → Except Fault τ) = .ok instruction := by
  cases instruction <;> rfl

/-- An instruction acts alike in both classes and on both memories, also when its target is replaced,
except that it jumps to the new target. -/
theorem act_parallel (segment : Text.Segmenter) {f : σ → Except ε τ} {instruction : Instruction σ}
    {resolved : Instruction τ} (hretarget : instruction.retarget f = .ok resolved)
    (hclass : classFile.Parallel other Cut) (hlocals : Locals.Parallel L Cut)
    (h : Memory.Related L memory memory') :
    AgreesUnless Cut
      (Action.Related (fun target distance => f distance = .ok target) (Memory.Related L))
      (resolved.act segment classFile memory) (instruction.act segment other memory') := by
  cases instruction with
  | getStatic field =>
      cases hretarget
      exact (hclass.fieldRef field).mapError.bind fun _ => .found (h.pushing _)
  | loadConstant constant =>
      cases hretarget
      apply (hclass.string constant).mapError.bind
      rintro content _ rfl
      exact .found (h.pushing _)
  | invokeVirtual method =>
      cases hretarget
      exact callVirtual_parallel hclass h method
  | invokeStatic method =>
      cases hretarget
      exact callStatic_parallel hclass h method
  | returnNothing =>
      cases hretarget
      exact .found .finish
  | returnValue =>
      cases hretarget
      apply h.pop.bind
      rintro ⟨value, rest⟩ ⟨_, rest'⟩ ⟨rfl, -⟩
      exact .found .finish
  | push value =>
      cases hretarget
      exact .found (h.pushing _)
  | arithmetic op =>
      cases hretarget
      apply h.popOperands.bind
      rintro ⟨left, right, rest⟩ ⟨_, _, rest'⟩ ⟨rfl, rfl, hrest⟩
      simp only
      split
      · exact .found (hrest.pushing _)
      · exact .failed
  | store slot =>
      cases hretarget
      apply h.pop.bind
      rintro ⟨value, rest⟩ ⟨_, rest'⟩ ⟨rfl, hrest⟩
      exact hrest.changing hlocals slot _
  | load slot =>
      cases hretarget
      apply (hlocals.get h.locals slot).bind
      rintro value _ rfl
      exact .found (h.pushing value)
  | increment slot delta =>
      cases hretarget
      exact h.changing hlocals slot _
  | ifNonzero distance =>
      obtain ⟨target, htarget, rfl⟩ := map_eq_ok_iff.1 hretarget
      apply h.popInt.bind
      rintro ⟨number, rest⟩ ⟨_, rest'⟩ ⟨rfl, hrest⟩
      simp only
      split
      · exact .found (.jump htarget hrest)
      · exact .found (.advance hrest)
  | ifCompare comparison distance =>
      obtain ⟨target, htarget, rfl⟩ := map_eq_ok_iff.1 hretarget
      apply h.popOperands.bind
      rintro ⟨left, right, rest⟩ ⟨_, _, rest'⟩ ⟨rfl, rfl, hrest⟩
      simp only
      split
      · exact .found (.jump htarget hrest)
      · exact .found (.advance hrest)
  | goto distance =>
      obtain ⟨target, htarget, rfl⟩ := map_eq_ok_iff.1 hretarget
      exact .found (.jump htarget h)

end Instruction

end ClassVM
