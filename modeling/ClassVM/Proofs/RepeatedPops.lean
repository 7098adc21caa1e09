import ClassVM.Machine.OperandStack

/-! # Taking operands one by one

Arguments are taken from the stack all at once. If there are enough operands this comes to the same
as taking them one by one, up to the order in which they are found, and wherever it is done single
pops can take its place. If there are too few, the arguments are refused and the stack stays as it
is, where single pops would empty it. -/

namespace ClassVM.OperandStack

/-! ## Many operands -/

/-- Takes the top value so many times, and goes on when there is none. -/
def pops : Nat → OperandStack → List (Except Fault Value) × OperandStack
  | 0, stack => ([], stack)
  | count + 1, stack =>
      let later := pops count stack.pop.2
      (stack.pop.1 :: later.1, later.2)

/-- Puts values on top, one after another. -/
def pushAll (stack : OperandStack) (values : List Value) : OperandStack := values.foldl push stack

variable {stack : OperandStack} {count : Nat}

theorem pops_eq (count : Nat) (stack : OperandStack) :
    stack.pops count =
      ((stack.values.take count).map .ok ++
        List.replicate (count - stack.size) (.error .emptyStack), ⟨stack.values.drop count⟩) := by
  induction count generalizing stack with
  | zero => simp [pops]
  | succ count ih =>
      obtain ⟨values⟩ := stack
      cases values with
      | nil => simp [pops, pop, ih, size, List.replicate_succ]
      | cons value values => simp [pops, pop, ih, size]

theorem pops_of_le (h : count ≤ stack.size) :
    stack.pops count = ((stack.values.take count).map .ok, ⟨stack.values.drop count⟩) := by
  rw [pops_eq, Nat.sub_eq_zero_of_le h, List.replicate_zero, List.append_nil]

theorem pops_of_lt (h : stack.size < count) :
    stack.pops count =
      (stack.values.map .ok ++ List.replicate (count - stack.size) (.error .emptyStack),
        .empty) := by
  have hle : stack.values.length ≤ count := Nat.le_of_lt h
  rw [pops_eq, List.take_of_length_le hle, List.drop_eq_nil_of_le hle, empty]

theorem values_pushAll (stack : OperandStack) (values : List Value) :
    (stack.pushAll values).values = values.reverse ++ stack.values := by
  induction values generalizing stack with
  | nil => rfl
  | cons value values ih =>
      change ((stack.push value).pushAll values).values = _
      rw [ih, List.reverse_cons, List.append_assoc]
      rfl

theorem pushAll_take_drop (count : Nat) (stack : OperandStack) :
    (OperandStack.mk (stack.values.drop count)).pushAll (stack.values.take count).reverse =
      stack := by
  have hvalues := values_pushAll ⟨stack.values.drop count⟩ (stack.values.take count).reverse
  rw [List.reverse_reverse, List.take_append_drop] at hvalues
  exact congrArg OperandStack.mk hvalues

/-! ## Operations one after another -/

/-- An operation on a stack. -/
inductive Operation where
  | push (value : Value)
  | pop
  | popInt
  | popArguments (count : Nat)
  deriving DecidableEq

namespace Operation

/-- The stack after an operation, whether it succeeds or fails. -/
def apply : Operation → OperandStack → OperandStack
  | .push value, stack => stack.push value
  | .pop, stack => stack.pop.2
  | .popInt, stack => stack.popInt.2
  | .popArguments count, stack => (stack.popArguments count).2

/-- The number of arguments that the operation takes all at once. -/
def arguments : Operation → Nat
  | .popArguments count => count
  | .push _ | .pop | .popInt => 0

/-- The operation with single pops in the place of arguments that are taken all at once. -/
def singly : Operation → List Operation
  | .popArguments count => List.replicate count .pop
  | operation => [operation]

end Operation

/-- The stack after one operation after another. -/
def after (stack : OperandStack) (operations : List Operation) : OperandStack :=
  operations.foldl (fun reached operation => operation.apply reached) stack

/-- Wherever arguments are taken, there are enough operands. -/
def Supplies (stack : OperandStack) : List Operation → Prop
  | [] => True
  | operation :: later =>
      operation.arguments ≤ stack.size ∧ (operation.apply stack).Supplies later

theorem after_append (stack : OperandStack) (front back : List Operation) :
    stack.after (front ++ back) = (stack.after front).after back :=
  List.foldl_append

theorem after_replicate_pop (count : Nat) (stack : OperandStack) :
    stack.after (List.replicate count .pop) = (stack.pops count).2 := by
  induction count generalizing stack with
  | zero => rfl
  | succ count ih => exact ih stack.pop.2

theorem after_singly {operation : Operation} (h : operation.arguments ≤ stack.size) :
    stack.after operation.singly = operation.apply stack := by
  cases operation with
  | push value => rfl
  | pop => rfl
  | popInt => rfl
  | popArguments count =>
      rw [Operation.arguments] at h
      rw [Operation.singly, after_replicate_pop, pops_of_le h, Operation.apply, popArguments,
        if_pos h]

/-- Single pops can take the place of arguments that are taken all at once. -/
theorem after_flatMap_singly {operations : List Operation} (h : stack.Supplies operations) :
    stack.after (operations.flatMap Operation.singly) = stack.after operations := by
  induction operations generalizing stack with
  | nil => rfl
  | cons operation operations ih =>
      rw [List.flatMap_cons, after_append, after_singly h.1]
      exact ih h.2

/-! ## Operands of the wrong kind -/

theorem asInt_mismatch_iff {value : Value} {expected found : Value.Kind} :
    asInt value = .error (.typeMismatch expected found) ↔
      expected = .int ∧ found ≠ .int ∧ value.kind = found := by
  cases value with
  | int number => grind [asInt, Value.kind]
  | text content => grind [asInt, Value.kind]
  | field handle => grind [asInt, Value.kind]

theorem popInt_mismatch_iff {expected found : Value.Kind} :
    stack.popInt.1 = .error (.typeMismatch expected found) ↔
      expected = .int ∧ found ≠ .int ∧
        ∃ value, value.kind = found ∧ stack = stack.popInt.2.push value := by
  obtain ⟨values⟩ := stack
  cases values with
  | nil => simp [popInt, pop, push]
  | cons top values =>
      have hpop : (OperandStack.mk (top :: values)).popInt = (asInt top, ⟨values⟩) := rfl
      rw [hpop, asInt_mismatch_iff]
      simp [push]

/-- Arguments that are there are found in the reverse of the order in which single pops find them,
and the stack is left the same, so that pushing them restores it. Arguments that are not there are
refused and the stack stays as it is, where single pops find what there is and empty it. Whatever is
done with a stack, single pops can take the place of all arguments that are there. An integer that
is asked for and is none is the only value that is removed. -/
theorem popArguments_agrees_with_pops (stack : OperandStack) (count : Nat) :
    (count ≤ stack.size → ∃ (popped : List Value) (rest : OperandStack),
      stack.pops count = (popped.map .ok, rest) ∧
      stack.popArguments count = (.ok popped.reverse, rest) ∧
      rest.pushAll popped.reverse = stack) ∧
    (stack.size < count →
      stack.popArguments count = (.error .emptyStack, stack) ∧
      stack.pops count =
        (stack.values.map .ok ++ List.replicate (count - stack.size) (.error .emptyStack),
          .empty)) ∧
    (∀ operations, stack.Supplies operations →
      stack.after (operations.flatMap Operation.singly) = stack.after operations) ∧
    ∀ expected found, stack.popInt.1 = .error (.typeMismatch expected found) ↔
      expected = .int ∧ found ≠ .int ∧
        ∃ value, value.kind = found ∧ stack = stack.popInt.2.push value := by
  refine ⟨?_, ?_, ?_, ?_⟩
  · intro hle
    refine ⟨stack.values.take count, ⟨stack.values.drop count⟩, pops_of_le hle, ?_, ?_⟩
    · rw [popArguments, if_pos hle]
    · exact pushAll_take_drop count stack
  · intro hlt
    refine ⟨?_, pops_of_lt hlt⟩
    rw [popArguments, if_neg (Nat.not_le.2 hlt)]
  · intro operations hsupplies
    exact after_flatMap_singly hsupplies
  · intro expected found
    exact popInt_mismatch_iff

/-- The numbers from one to four, pushed in this order. -/
def oneToFour : OperandStack := empty.pushAll [.int 1, .int 2, .int 3, .int 4]

/-- Three of the four numbers are taken and pushed again, five are refused, and two pops can take
the place of two arguments between other operations. -/
theorem popArguments_agrees_with_pops_oneToFour :
    3 ≤ oneToFour.size ∧
      (∃ (popped : List Value) (rest : OperandStack),
        oneToFour.pops 3 = (popped.map .ok, rest) ∧
        oneToFour.popArguments 3 = (.ok popped.reverse, rest) ∧
        rest.pushAll popped.reverse = oneToFour) ∧
      oneToFour.size < 5 ∧ oneToFour.popArguments 5 = (.error .emptyStack, oneToFour) ∧
      oneToFour.Supplies [.popInt, .popArguments 2, .push (.text "x"), .popInt] ∧
      oneToFour.after [.popInt, .pop, .pop, .push (.text "x"), .popInt] =
        oneToFour.after [.popInt, .popArguments 2, .push (.text "x"), .popInt] := by
  have hsupplies : oneToFour.Supplies [.popInt, .popArguments 2, .push (.text "x"), .popInt] := by
    simp [Supplies, Operation.arguments, Operation.apply, oneToFour, pushAll, push, popInt, pop,
      popArguments, size]
  obtain ⟨hfits, -, hsingly, -⟩ := popArguments_agrees_with_pops oneToFour 3
  obtain ⟨-, hlacks, -, -⟩ := popArguments_agrees_with_pops oneToFour 5
  exact ⟨by decide, hfits (by decide), by decide, (hlacks (by decide)).1, hsupplies,
    hsingly _ hsupplies⟩

end ClassVM.OperandStack
