import ClassVM.Machine.Execution
import ClassVM.Proofs.BranchResolution
import ClassVM.Proofs.Encodings
import Mathlib.Algebra.Group.Int.Defs

/-! # Arithmetic in postfix code

An expression is written as the code of its left operand, the code of its right operand and the
operation. Wherever such code stands in a method, a machine that comes to its start leaves it at its
end, with the value of the expression on top of what was on the stack; or it stops there with a
division by zero, exactly if the evaluation from left to right meets one. The value is explained
with integers that know no bounds and are brought back into range after every operation. -/

namespace ClassVM

/-! ## Expressions and their values -/

/-- The integer in the range of 32 bits that differs by a multiple of `2 ^ 32`. -/
def wrap (number : Int) : Int := (number + 2 ^ 31) % 2 ^ 32 - 2 ^ 31

theorem wrap_eq_bmod (number : Int) : wrap number = number.bmod (2 ^ 32) := by
  simp only [wrap, Int.bmod]
  omega

theorem wrap_toInt (number : Int32) : wrap number.toInt = number.toInt := by
  have hlow := number.le_toInt
  have hhigh := number.toInt_lt
  simp only [wrap]
  omega

/-- The result of an operation on integers. The remainder goes with a quotient that is cut off
towards zero, and there is none by zero. -/
def Arithmetic.compute : Arithmetic → Int → Int → Option Int
  | .add, left, right => some (wrap (left + right))
  | .sub, left, right => some (wrap (left - right))
  | .mul, left, right => some (wrap (left * right))
  | .rem, left, right => if right = 0 then none else some (wrap (left.tmod right))

theorem Arithmetic.compute_toInt (op : Arithmetic) (left right : Int32) :
    op.compute left.toInt right.toInt = (op.apply left right).map Int32.toInt := by
  cases op with
  | add => simp [compute, apply, wrap_eq_bmod, Int32.toInt_add]
  | sub => simp [compute, apply, wrap_eq_bmod, Int32.toInt_sub]
  | mul => simp [compute, apply, wrap_eq_bmod, Int32.toInt_mul]
  | rem =>
      have hzero : right.toInt = 0 ↔ right = 0 := by
        rw [← Int32.toInt_inj, Int32.toInt_zero]
      by_cases h : right = 0
      · simp [compute, apply, h]
      · simp [compute, apply, h, hzero, ← Int32.toInt_mod, wrap_toInt]

example : Arithmetic.rem.compute (-7) 2 = some (-1) ∧
    Arithmetic.rem.compute (-2 ^ 31) (-1) = some 0 := by decide

/-- Integer expressions over small constants and the first three local variables. -/
inductive Expression where
  | constant (number : Int8)
  | slot (index : Fin 3)
  | operation (op : Arithmetic) (left right : Expression)

namespace Expression

/-- The value of an expression, its operands taken from left to right. There is none if a remainder
by zero is met. -/
def value (contents : Fin 3 → Int) : Expression → Option Int
  | .constant number => some number.toInt
  | .slot index => some (contents index)
  | .operation op left right => do
      let leftValue ← left.value contents
      let rightValue ← right.value contents
      op.compute leftValue rightValue

/-- The local variables that occur in an expression. -/
def slots : Expression → List (Fin 3)
  | .constant _ => []
  | .slot index => [index]
  | .operation _ left right => left.slots ++ right.slots

/-- The postfix code of an expression. -/
def code {τ : Type} : Expression → List (Instruction τ)
  | .constant number => [.push number.toInt32]
  | .slot index => [.load (UInt8.ofNat index)]
  | .operation op left right => left.code ++ right.code ++ [.arithmetic op]

/-- The number of instructions in the code of an expression. -/
def size : Expression → Nat
  | .constant _ | .slot _ => 1
  | .operation _ left right => left.size + right.size + 1

theorem length_code {τ : Type} (expression : Expression) :
    (expression.code : List (Instruction τ)).length = expression.size := by
  induction expression with
  | constant number => rfl
  | slot index => rfl
  | operation op left right ihLeft ihRight =>
      simp only [code, size, List.length_append, ihLeft, ihRight]
      rfl

/-- The local variables that occur in the expression hold these numbers. -/
def Finds (expression : Expression) (locals : Locals) (numbers : Fin 3 → Int32) : Prop :=
  ∀ index ∈ expression.slots, locals.slots[index.val]? = some (some (.int (numbers index)))

theorem Finds.left {op : Arithmetic} {left right : Expression} {locals : Locals}
    {numbers : Fin 3 → Int32} (h : (operation op left right).Finds locals numbers) :
    left.Finds locals numbers :=
  fun index hindex => h index (List.mem_append_left _ hindex)

theorem Finds.right {op : Arithmetic} {left right : Expression} {locals : Locals}
    {numbers : Fin 3 → Int32} (h : (operation op left right).Finds locals numbers) :
    right.Finds locals numbers :=
  fun index hindex => h index (List.mem_append_right _ hindex)

end Expression

/-! ## Code that stands in other code -/

namespace Code

/-- Where the encodings of instructions lie ahead, a sweep reads these instructions first. -/
theorem Covers.exists_split {cursor : Cursor} {located : List Located}
    {instructions : List (Instruction Int16)} {blocks : List (List UInt8)} {rest : List UInt8}
    (hcovers : Covers cursor located) (hencodes : Encodes instructions blocks)
    (hrest : cursor.rest = blocks.flatten ++ rest) :
    ∃ first later after, located = first ++ later ∧
      first.map Located.instruction = instructions ∧ Covers after later ∧ after.rest = rest := by
  induction hencodes generalizing cursor located with
  | nil => exact ⟨[], located, cursor, rfl, rfl, hcovers, hrest⟩
  | @cons instruction block instructions blocks hblock _ ih =>
      rw [List.flatten_cons, List.append_assoc] at hrest
      have hread : readOne cursor = .ok (instruction, ⟨cursor.offset + block.length, _⟩) :=
        readOne_eq_ok_iff.2 ⟨block, hblock, hrest, rfl⟩
      cases hcovers with
      | nil ends => exact absurd ends (not_atEnd_of_readOne hread)
      | cons reads tail =>
          rw [hread] at reads
          cases reads
          obtain ⟨first, later, after, rfl, rfl, hlater, hafter⟩ := ih tail rfl
          exact ⟨_ :: first, later, after, rfl, rfl, hlater, hafter⟩

/-- Instructions without targets are resolved to themselves, whatever stands around them. -/
theorem mapM_retarget_of_plain {places : List Located}
    (hplain : ∀ place ∈ places, place.instruction.target? = none)
    (find : Located → Int16 → Except DecodeError Nat) (f : Int16 → Nat) :
    (places.mapM fun place => place.instruction.retarget (find place)) =
      .ok (places.map fun place => place.instruction.mapTarget f) := by
  rw [mapM_eq_ok_iff, List.forall₂_map_right_iff, List.forall₂_same]
  intro place hplace
  exact Instruction.retarget_of_not_branch (hplain place hplace) _ f

end Code

namespace Expression

theorem target?_of_mem_code {τ : Type} (expression : Expression) {instruction : Instruction τ}
    (h : instruction ∈ expression.code) : instruction.target? = none := by
  induction expression with
  | constant number =>
      obtain rfl := List.mem_singleton.1 h
      rfl
  | slot index =>
      obtain rfl := List.mem_singleton.1 h
      rfl
  | operation op left right ihLeft ihRight =>
      rw [code, List.mem_append, List.mem_append] at h
      obtain (h | h) | h := h
      · exact ihLeft h
      · exact ihRight h
      · obtain rfl := List.mem_singleton.1 h
        rfl

theorem map_mapTarget_code {τ σ : Type} (f : τ → σ) (expression : Expression) :
    expression.code.map (Instruction.mapTarget f) = expression.code := by
  induction expression with
  | constant number => rfl
  | slot index => rfl
  | operation op left right ihLeft ihRight =>
      simp only [code, List.map_append, ihLeft, ihRight]
      rfl

/-- Every expression can be written, its constants in two bytes each. -/
theorem exists_encodes (expression : Expression) :
    ∃ blocks, Code.Encodes expression.code blocks := by
  induction expression with
  | constant number =>
      refine ⟨[[0x10, number.toUInt8]], .cons ?_ .nil⟩
      exact Code.mem_encodings_of_form rfl ⟨_, rfl, by simp⟩
  | slot index =>
      refine ⟨[[0x1A + UInt8.ofNat index]], .cons ?_ .nil⟩
      revert index
      decide
  | operation op left right ihLeft ihRight =>
      obtain ⟨blocks, hblocks⟩ := ihLeft
      obtain ⟨blocks', hblocks'⟩ := ihRight
      have hop : Code.Encodes [.arithmetic op] [[Code.arithmeticOpcode op]] :=
        .cons (List.mem_singleton.2 rfl) .nil
      exact ⟨_, List.rel_append (List.rel_append hblocks hblocks') hop⟩

variable {expression : Expression} {places : List Code.Located}

theorem mapM_retarget (hplaces : places.map Code.Located.instruction = expression.code)
    (find : Code.Located → Int16 → Except Code.DecodeError Nat) :
    (places.mapM fun place => place.instruction.retarget (find place)) = .ok expression.code := by
  have hplain : ∀ place ∈ places, place.instruction.target? = none := by
    intro place hplace
    apply target?_of_mem_code expression
    rw [← hplaces]
    exact List.mem_map_of_mem hplace
  have hcode : (places.map fun place => place.instruction.mapTarget fun _ => 0) =
      expression.code := by
    rw [← map_mapTarget_code (fun _ => 0) expression, ← hplaces, List.map_map]
    rfl
  rw [Code.mapM_retarget_of_plain hplain find fun _ => 0, hcode]

/-- Postfix code by itself is decoded to the instructions that it was written for. -/
theorem decode_of_encodes {blocks : List (List UInt8)}
    (hblocks : Code.Encodes expression.code blocks) :
    (Code.decode blocks.flatten).outcome = .ok expression.code := by
  have hahead : (Cursor.ofBytes blocks.flatten).rest = blocks.flatten := rfl
  obtain ⟨located, hcovers, hinstructions, -⟩ := Code.exists_covers hblocks hahead
  rw [Code.outcome_decode_of_scan (Code.outcome_sweep_eq_ok_iff.2 hcovers)]
  exact mapM_retarget hinstructions _

/-- Postfix code that stands in other code keeps together when that is decoded. -/
theorem exists_split_of_decode {front back : List UInt8} {blocks : List (List UInt8)}
    {before : List Code.Located} {instructions : List (Instruction Nat)}
    (hfront : (Code.scan front).outcome = .ok before)
    (hblocks : Code.Encodes expression.code blocks)
    (hdecode : (Code.decode (front ++ blocks.flatten ++ back)).outcome = .ok instructions) :
    ∃ first later, instructions = first ++ expression.code ++ later ∧
      first.length = before.length := by
  obtain ⟨located, hscan, hresolve⟩ := Code.outcome_decode_eq_ok_iff.1 hdecode
  have hcovers := Code.outcome_sweep_eq_ok_iff.1 hscan
  -- The sweep of the front alone says which encodings the front is made of.
  obtain ⟨frontBlocks, hfrontBlocks, hfrontRest, -⟩ :=
    (Code.outcome_sweep_eq_ok_iff.1 hfront).exists_blocks
  have hahead : (Cursor.ofBytes (front ++ blocks.flatten ++ back)).rest =
      frontBlocks.flatten ++ (blocks.flatten ++ back) := by
    rw [← hfrontRest, ← List.append_assoc]
    rfl
  obtain ⟨first, later, after, rfl, hfirst, hlater, hafter⟩ :=
    hcovers.exists_split hfrontBlocks hahead
  obtain ⟨middle, last, -, rfl, hmiddle, -, -⟩ := hlater.exists_split hblocks hafter
  obtain ⟨resolved, rest, hresolved, hrest, rfl⟩ := mapM_append_eq_ok_iff.1 hresolve
  obtain ⟨found, later, hfound, -, rfl⟩ := mapM_append_eq_ok_iff.1 hrest
  rw [mapM_retarget hmiddle] at hfound
  cases hfound
  refine ⟨resolved, later, (List.append_assoc _ _ _).symm, ?_⟩
  calc
    resolved.length = first.length := (mapM_eq_ok_iff.1 hresolved).length_eq.symm
    _ = before.length := by simpa using congrArg List.length hfirst

end Expression

/-! ## Running from one place to another -/

/-- All that is kept is the same, but for what has been reported. -/
def Session.Unchanged (session after : Session) : Prop :=
  after = { session with journal := after.journal }

theorem Session.Unchanged.trans {session middle after : Session} (h : session.Unchanged middle)
    (h' : middle.Unchanged after) : session.Unchanged after := by
  unfold Unchanged at h h' ⊢
  rw [h', h]

namespace Step

variable {φ : Type} {step : φ → Session → Step φ}

/-- So many steps in one method lead from the one frame to the other. -/
inductive Advances (step : φ → Session → Step φ) : Nat → φ → Session → φ → Session → Prop
  | refl {frame session} : Advances step 0 frame session frame session
  | next {count frame session frame' session' last final}
      (moves : step frame session = .next frame' session')
      (tail : Advances step count frame' session' last final) :
      Advances step (count + 1) frame session last final

namespace Advances

variable {count : Nat} {frame last : φ} {session final : Session}

theorem trans {count' : Nat} {frame' : φ} {session' : Session}
    (h : Advances step count frame session frame' session')
    (h' : Advances step count' frame' session' last final) :
    Advances step (count + count') frame session last final := by
  induction h with
  | refl => simpa using h'
  | next moves _ ih =>
      rw [Nat.add_right_comm]
      exact .next moves (ih h')

/-- What is left to run is run from where the steps lead. -/
theorem run (h : Advances step count frame session last final) (fuel : Nat) :
    Step.run step (count + fuel) frame session = Step.run step fuel last final := by
  induction h with
  | refl => rw [Nat.zero_add]
  | next moves _ ih =>
      rw [Nat.add_right_comm, Step.run, moves]
      exact ih

end Advances

end Step

namespace Machine

variable {machine : Machine} {instruction : Instruction Nat}

theorem advances_of_act (frame : Frame) (session : Session) {memory : Memory}
    (hfetch : frame.program[frame.pc]? = some instruction)
    (hact : instruction.act machine.segment machine.classFile frame.memory =
      .ok (.advance memory)) :
    ∃ after, session.Unchanged after ∧
      Step.Advances machine.step 1 frame session (frame.next memory) after := by
  refine ⟨session.note (.executing frame.pc instruction frame.memory.stack), rfl, ?_⟩
  refine .next ?_ .refl
  simp only [step, hfetch, hact, Action.perform]

/-- What a frame comes to with enough fuel, it comes to from an earlier place with as much more as
it takes to get there. -/
theorem execute_of_advances {count least : Nat} {frame last : Frame} {session final : Session}
    {found : Option (Answer × Session)}
    (hadvances : Step.Advances machine.step count frame session last final)
    (hfound : ∀ fuel, least ≤ fuel → machine.execute fuel last final = found) {fuel : Nat}
    (hfuel : count + least ≤ fuel) : machine.execute fuel frame session = found := by
  obtain ⟨more, rfl⟩ := Nat.exists_eq_add_of_le (Nat.le_of_add_right_le hfuel)
  calc
    machine.execute (count + more) frame session = machine.execute more last final :=
      hadvances.run more
    _ = found := hfound more (Nat.le_of_add_le_add_left hfuel)

theorem execute_of_fault (frame : Frame) (session : Session) {fault : Fault}
    (hfetch : frame.program[frame.pc]? = some instruction)
    (hact : instruction.act machine.segment machine.classFile frame.memory = .error fault) :
    ∃ after, session.Unchanged after ∧
      ∀ fuel, 1 ≤ fuel → machine.execute fuel frame session = some (.error fault, after) := by
  refine ⟨session.note (.executing frame.pc instruction frame.memory.stack), rfl, ?_⟩
  intro fuel hfuel
  obtain ⟨more, rfl⟩ := Nat.exists_eq_add_of_le' hfuel
  simp only [execute, Step.run, step, hfetch, hact]

end Machine

/-! ## Computing -/

/-- The right operand is on top of the left one when the operation is carried out. -/
theorem Instruction.act_arithmetic (segment : Text.Segmenter) (classFile : ClassFile)
    (op : Arithmetic) (left right : Int32) (stack : OperandStack) (locals : Locals) :
    (Instruction.arithmetic op : Instruction Nat).act segment classFile
        ⟨(stack.push (.int left)).push (.int right), locals⟩ =
      match op.apply left right with
      | some result => .ok (.advance ⟨stack.push (.int result), locals⟩)
      | none => .error .divisionByZero := rfl

namespace Expression

/-- From the instruction at the index on, the machine computes the expression. It leaves the value
on top of the stack and goes on behind the code, or stops there with a division by zero if there is
no value. Nothing else changes but what has been reported. -/
structure ComputedAt (expression : Expression) (machine : Machine) (program : Program) (pc : Nat) :
    Prop where
  leaves : ∀ {locals : Locals} {numbers : Fin 3 → Int32} {number : Int} (stack : OperandStack)
    (session : Session), expression.Finds locals numbers →
    expression.value (fun index => (numbers index).toInt) = some number →
    ∃ result after, Int32.toInt result = number ∧ session.Unchanged after ∧
      Step.Advances machine.step expression.size ⟨program, pc, ⟨stack, locals⟩⟩ session
        ⟨program, pc + expression.size, ⟨stack.push (.int result), locals⟩⟩ after
  stops : ∀ {locals : Locals} {numbers : Fin 3 → Int32} (stack : OperandStack)
    (session : Session), expression.Finds locals numbers →
    expression.value (fun index => (numbers index).toInt) = none →
    ∃ after, session.Unchanged after ∧ ∀ fuel, expression.size ≤ fuel →
      machine.execute fuel ⟨program, pc, ⟨stack, locals⟩⟩ session =
        some (.error .divisionByZero, after)

namespace ComputedAt

variable {machine : Machine} {program : Program} {pc : Nat}

theorem constant {number : Int8} (hfetch : program[pc]? = some (.push number.toInt32)) :
    (Expression.constant number).ComputedAt machine program pc where
  leaves {locals numbers value} stack session _ hvalue := by
    obtain ⟨after, hafter, hadvances⟩ :=
      Machine.advances_of_act ⟨program, pc, ⟨stack, locals⟩⟩ session hfetch rfl
    refine ⟨number.toInt32, after, ?_, hafter, hadvances⟩
    rw [Int8.toInt_toInt32]
    exact Option.some.inj hvalue
  stops _ _ _ hvalue := by cases hvalue

theorem slot {index : Fin 3} (hfetch : program[pc]? = some (.load (UInt8.ofNat index))) :
    (Expression.slot index).ComputedAt machine program pc where
  leaves {locals numbers value} stack session hfinds hvalue := by
    have hslot := hfinds index (List.mem_singleton.2 rfl)
    have hindex : (UInt8.ofNat index).toNat = index.val :=
      UInt8.toNat_ofNat_of_lt' (Nat.lt_trans index.isLt (by decide))
    have hact : (Instruction.load (UInt8.ofNat index) : Instruction Nat).act machine.segment
        machine.classFile ⟨stack, locals⟩ =
          .ok (.advance ⟨stack.push (.int (numbers index)), locals⟩) := by
      simp only [Instruction.act, Locals.get, Locals.slot, hindex, hslot]
      rfl
    obtain ⟨after, hafter, hadvances⟩ :=
      Machine.advances_of_act ⟨program, pc, ⟨stack, locals⟩⟩ session hfetch hact
    exact ⟨numbers index, after, Option.some.inj hvalue, hafter, hadvances⟩
  stops _ _ _ hvalue := by cases hvalue

variable {op : Arithmetic} {left right : Expression}

/-- Both operands are computed, the right one behind the left one and on top of it. -/
theorem operands (hleft : left.ComputedAt machine program pc)
    (hright : right.ComputedAt machine program (pc + left.size)) {locals : Locals}
    {numbers : Fin 3 → Int32} {leftValue rightValue : Int} (stack : OperandStack)
    (session : Session) (hfinds : (Expression.operation op left right).Finds locals numbers)
    (hleftValue : left.value (fun index => (numbers index).toInt) = some leftValue)
    (hrightValue : right.value (fun index => (numbers index).toInt) = some rightValue) :
    ∃ leftResult rightResult after, Int32.toInt leftResult = leftValue ∧
      Int32.toInt rightResult = rightValue ∧ session.Unchanged after ∧
      Step.Advances machine.step (left.size + right.size) ⟨program, pc, ⟨stack, locals⟩⟩ session
        ⟨program, pc + left.size + right.size,
          ⟨(stack.push (.int leftResult)).push (.int rightResult), locals⟩⟩ after := by
  obtain ⟨leftResult, middle, hleftResult, hmiddle, hadvances⟩ :=
    hleft.leaves stack session hfinds.left hleftValue
  obtain ⟨rightResult, after, hrightResult, hafter, hadvances'⟩ :=
    hright.leaves (stack.push (.int leftResult)) middle hfinds.right hrightValue
  exact ⟨leftResult, rightResult, after, hleftResult, hrightResult, hmiddle.trans hafter,
    hadvances.trans hadvances'⟩

theorem operation (hleft : left.ComputedAt machine program pc)
    (hright : right.ComputedAt machine program (pc + left.size))
    (hfetch : program[pc + left.size + right.size]? = some (.arithmetic op)) :
    (Expression.operation op left right).ComputedAt machine program pc where
  leaves {locals numbers value} stack session hfinds hvalue := by
    obtain ⟨leftValue, hleftValue, hvalue⟩ := Option.bind_eq_some_iff.1 hvalue
    obtain ⟨rightValue, hrightValue, hvalue⟩ := Option.bind_eq_some_iff.1 hvalue
    obtain ⟨leftResult, rightResult, middle, rfl, rfl, hmiddle, hadvances⟩ :=
      operands hleft hright stack session hfinds hleftValue hrightValue
    rw [Arithmetic.compute_toInt] at hvalue
    obtain ⟨result, happly, rfl⟩ := Option.map_eq_some_iff.1 hvalue
    have hact := Instruction.act_arithmetic machine.segment machine.classFile op leftResult
      rightResult stack locals
    rw [happly] at hact
    obtain ⟨after, hafter, hstep⟩ := Machine.advances_of_act ⟨program, pc + left.size + right.size,
      ⟨(stack.push (.int leftResult)).push (.int rightResult), locals⟩⟩ middle hfetch hact
    refine ⟨result, after, rfl, hmiddle.trans hafter, ?_⟩
    have hend : pc + (Expression.operation op left right).size =
        pc + left.size + right.size + 1 := by
      simp only [size]
      omega
    rw [hend]
    exact hadvances.trans hstep
  stops {locals numbers} stack session hfinds hvalue := by
    have hsize : (Expression.operation op left right).size = left.size + right.size + 1 := rfl
    -- By what is met first: a remainder by zero on the left, on the right, or here.
    cases hleftValue : left.value fun index => (numbers index).toInt with
    | none =>
        obtain ⟨after, hafter, hstops⟩ := hleft.stops stack session hfinds.left hleftValue
        exact ⟨after, hafter, fun fuel hfuel => hstops fuel (by omega)⟩
    | some leftValue =>
        cases hrightValue : right.value fun index => (numbers index).toInt with
        | none =>
            obtain ⟨leftResult, middle, -, hmiddle, hadvances⟩ :=
              hleft.leaves stack session hfinds.left hleftValue
            obtain ⟨after, hafter, hstops⟩ :=
              hright.stops (stack.push (.int leftResult)) middle hfinds.right hrightValue
            refine ⟨after, hmiddle.trans hafter, fun fuel hfuel => ?_⟩
            exact Machine.execute_of_advances hadvances hstops (by omega)
        | some rightValue =>
            obtain ⟨leftResult, rightResult, middle, rfl, rfl, hmiddle, hadvances⟩ :=
              operands hleft hright stack session hfinds hleftValue hrightValue
            have hnone : op.apply leftResult rightResult = none := by
              simpa [value, hleftValue, hrightValue, Arithmetic.compute_toInt] using hvalue
            have hact := Instruction.act_arithmetic machine.segment machine.classFile op leftResult
              rightResult stack locals
            rw [hnone] at hact
            obtain ⟨after, hafter, hfails⟩ := Machine.execute_of_fault
              ⟨program, pc + left.size + right.size,
                ⟨(stack.push (.int leftResult)).push (.int rightResult), locals⟩⟩
              middle hfetch hact
            refine ⟨after, hmiddle.trans hafter, fun fuel hfuel => ?_⟩
            exact Machine.execute_of_advances hadvances hfails (by omega)

end ComputedAt

theorem fetch_of_split {program : Program} {first later : List (Instruction Nat)}
    {instruction : Instruction Nat} {pc : Nat}
    (hprogram : program.toList = first ++ instruction :: later) (hpc : first.length = pc) :
    program[pc]? = some instruction := by
  rw [← Array.getElem?_toList, hprogram, ← hpc]
  simp

/-- A machine computes the expression wherever its code stands. -/
theorem computedAt_of_split (machine : Machine) (expression : Expression) {program : Program}
    {first later : List (Instruction Nat)} {pc : Nat}
    (hprogram : program.toList = first ++ expression.code ++ later) (hpc : first.length = pc) :
    expression.ComputedAt machine program pc := by
  induction expression generalizing first later pc with
  | constant number =>
      apply ComputedAt.constant
      exact fetch_of_split (by simpa [code] using hprogram) hpc
  | slot index =>
      apply ComputedAt.slot
      exact fetch_of_split (by simpa [code] using hprogram) hpc
  | operation op left right ihLeft ihRight =>
      -- What stands around an operand is the rest of the expression and what stands around that.
      have hleft : program.toList =
          first ++ left.code ++ (right.code ++ .arithmetic op :: later) := by
        simpa [code] using hprogram
      have hright : program.toList =
          first ++ left.code ++ right.code ++ .arithmetic op :: later := by
        rw [hleft, ← List.append_assoc]
      have hlength : (first ++ left.code).length = pc + left.size := by
        rw [List.length_append, length_code, hpc]
      have hlength' : (first ++ left.code ++ right.code).length =
          pc + left.size + right.size := by
        rw [List.length_append, length_code, hlength]
      apply ComputedAt.operation
      · exact ihLeft hleft hpc
      · exact ihRight hright hlength
      · exact fetch_of_split hright hlength'

/-- Every expression has postfix code, which is decoded to the instructions that it was written
for. Wherever such code stands in a method, behind code that is read up to its end, every machine
computes the expression there. -/
theorem postfix_code_computes (machine : Machine) (expression : Expression) :
    (∃ blocks, Code.Encodes expression.code blocks) ∧
    (∀ blocks, Code.Encodes expression.code blocks →
      (Code.decode blocks.flatten).outcome = .ok expression.code) ∧
    ∀ front before blocks back instructions, (Code.scan front).outcome = .ok before →
      Code.Encodes expression.code blocks →
      (Code.decode (front ++ blocks.flatten ++ back)).outcome = .ok instructions →
      expression.ComputedAt machine instructions.toArray before.length := by
  refine ⟨expression.exists_encodes, fun _ => decode_of_encodes, ?_⟩
  intro front before blocks back instructions hfront hblocks hdecode
  obtain ⟨first, later, hsplit, hlength⟩ := exists_split_of_decode hfront hblocks hdecode
  exact computedAt_of_split machine expression hsplit hlength

/-- A machine whose class has nothing in it. -/
def bare : Machine where
  classFile := ⟨0, 52, ⟨#[]⟩, 0, ⟨0⟩, ⟨0⟩, [], []⟩
  limits := {}

/-- One is taken from the first variable, and the remainder of this by a hundred times the second is
found. -/
def remainderOfDifference : Expression :=
  .operation .rem (.operation .sub (.slot 0) (.constant 1))
    (.operation .mul (.slot 1) (.constant 100))

/-- Behind a store and in front of a return, the difference wraps around and the remainder has its
sign; with nothing in the second variable but zero, there is none. -/
theorem postfix_code_computes_remainderOfDifference :
    ∃ blocks instructions,
      Code.Encodes remainderOfDifference.code blocks ∧
      (Code.scan [0x04, 0x3C]).outcome = .ok [⟨0, .push 1⟩, ⟨1, .store 1⟩] ∧
      (Code.decode ([0x04, 0x3C] ++ blocks.flatten ++ [0xAC])).outcome = .ok instructions ∧
      (∃ result after, Int32.toInt result = 547 ∧
        (Session.start .unlimited none).Unchanged after ∧
        Step.Advances bare.step 7
          ⟨instructions.toArray, 2, ⟨⟨[.text "below"]⟩, ⟨#[some (.int (-2147483648)),
            some (.int (-7))]⟩⟩⟩ (.start .unlimited none)
          ⟨instructions.toArray, 9, ⟨⟨[.int result, .text "below"]⟩,
            ⟨#[some (.int (-2147483648)), some (.int (-7))]⟩⟩⟩ after) ∧
      ∃ after, (Session.start .unlimited none).Unchanged after ∧
        ∀ fuel, 7 ≤ fuel → bare.execute fuel
          ⟨instructions.toArray, 2, ⟨.empty, ⟨#[some (.int 5), some (.int 0)]⟩⟩⟩
          (.start .unlimited none) = some (.error .divisionByZero, after) := by
  have hblocks : Code.Encodes remainderOfDifference.code
      [[0x1A], [0x04], [0x64], [0x1B], [0x10, 100], [0x68], [0x70]] := by
    simp only [Code.Encodes, remainderOfDifference, code]
    decide
  have hscan : (Code.scan [0x04, 0x3C]).outcome = .ok [⟨0, .push 1⟩, ⟨1, .store 1⟩] := by
    decide +kernel
  have hdecode : (Code.decode ([0x04, 0x3C] ++ [[0x1A], [0x04], [0x64], [0x1B], [0x10, 100],
      [0x68], [0x70]].flatten ++ [0xAC])).outcome = .ok [.push 1, .store 1, .load 0, .push 1,
        .arithmetic .sub, .load 1, .push 100, .arithmetic .mul, .arithmetic .rem,
        .returnValue] := by decide +kernel
  have hcomputed := (postfix_code_computes bare remainderOfDifference).2.2 _ _ _ _ _ hscan hblocks
    hdecode
  refine ⟨_, _, hblocks, hscan, hdecode, ?_, ?_⟩
  · have hfinds : remainderOfDifference.Finds ⟨#[some (.int (-2147483648)), some (.int (-7))]⟩
        fun index => if index = 0 then -2147483648 else -7 := by
      unfold Finds
      decide
    exact hcomputed.leaves ⟨[.text "below"]⟩ (.start .unlimited none) hfinds (by decide)
  · have hfinds : remainderOfDifference.Finds ⟨#[some (.int 5), some (.int 0)]⟩
        fun index => if index = 0 then 5 else 0 := by
      unfold Finds
      decide
    exact hcomputed.stops .empty (.start .unlimited none) hfinds (by decide)

end Expression

end ClassVM
