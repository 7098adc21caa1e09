import ClassVM.Proofs.FaultOrigins
import ClassVM.Proofs.History

/-! # Where values come from

No instruction makes up a text or a handle: a text on a stack or in a local variable is that of a
string constant, and a handle is on a field reference of the pool. This holds in every frame that a
run comes to, of the values that are passed to calls, and of those that are returned. What is
printed is therefore made up of whole lines of three kinds. -/

namespace ClassVM

/-- The value is an integer, the text of a string constant, or a handle on a field reference. -/
inductive Value.Sourced (pool : Pool) : Value → Prop
  | int (number : Int32) : Sourced pool (.int number)
  | text {index : Pool.Index} {content : String} (found : pool.string index = .ok content) :
      Sourced pool (.text content)
  | field {index : Pool.Index} {member : Pool.MemberRef}
      (found : pool.fieldRef index = .ok member) : Sourced pool (.field index)

/-- A line that may be printed: a 32-bit integer, a string constant, or a field reference. -/
inductive Pool.Line (pool : Pool) : String → Prop
  | number (number : Int32) : Line pool (toString number.toInt)
  | text {index : Pool.Index} {content : String} (found : pool.string index = .ok content) :
      Line pool content
  | field {index : Pool.Index} {member : Pool.MemberRef}
      (found : pool.fieldRef index = .ok member) :
      Line pool ("field #" ++ toString index.number.toNat)

/-- Every value of a frame has a source: the operands, and what has been written to a slot. -/
structure Memory.Sourced (pool : Pool) (memory : Memory) : Prop where
  stack : ∀ value ∈ memory.stack.values, value.Sourced pool
  locals : ∀ value, some value ∈ memory.locals.slots → value.Sourced pool

/-- Every value that is printed, passed, returned or left in the frame has a source. -/
def Action.Sourced {τ : Type} (pool : Pool) : Action τ → Prop
  | .advance memory | .jump _ memory => memory.Sourced pool
  | .print value memory => value.Sourced pool ∧ memory.Sourced pool
  | .call _ arguments memory =>
      (∀ value ∈ arguments, value.Sourced pool) ∧ memory.Sourced pool
  | .finish result => ∀ value ∈ result, value.Sourced pool

/-- If the sink did not fail at the start, it does not fail now, and whole lines have been written
since. -/
def Session.LinesSince (pool : Pool) (session start : Session) : Prop :=
  start.sink.NeverFails → session.sink.NeverFails ∧
    ∃ lines : List String, (∀ line ∈ lines, pool.Line line) ∧
      session.output = start.output ++ lines.flatMap fun line => Text.Utf8.encode (line ++ "\n")

/-! ## Instructions -/

theorem Value.Sourced.line {pool : Pool} {value : Value} (h : value.Sourced pool) :
    pool.Line value.display := by
  cases h with
  | int number => exact .number number
  | text found => exact .text found
  | @field index member found =>
      have hdisplay : (Value.field index).display = "field #" ++ toString index.number.toNat := by
        rw [Value.display, Pool.Index.display, ← String.append_assoc]
        rfl
      rw [hdisplay]
      exact .field found

namespace Memory.Sourced

variable {pool : Pool} {memory rest : Memory} {value : Value}

theorem push (h : memory.Sourced pool) (hvalue : value.Sourced pool) :
    Memory.Sourced pool { memory with stack := memory.stack.push value } :=
  ⟨List.forall_mem_cons.2 ⟨hvalue, h.stack⟩, h.locals⟩

theorem receive (h : memory.Sourced pool) {result : Option Value}
    (hresult : ∀ value ∈ result, value.Sourced pool) : (memory.receive result).Sourced pool := by
  cases result with
  | none => exact h
  | some value => exact h.push (hresult value rfl)

theorem put (h : memory.Sourced pool) (hvalue : value.Sourced pool) (slot : UInt8) :
    Memory.Sourced pool { memory with locals := memory.locals.put slot (some value) } := by
  refine ⟨h.stack, ?_⟩
  intro contents hcontents
  obtain rfl | hkept := Locals.mem_put hcontents
  · exact hvalue
  · exact h.locals contents hkept

/-- Values that are taken have sources, and so has what is left. -/
theorem took {values : List Value} (h : memory.Sourced pool) (htook : memory.Took values rest) :
    (∀ value ∈ values, value.Sourced pool) ∧ rest.Sourced pool := by
  have hstack := h.stack
  rw [htook.stack] at hstack
  obtain ⟨hvalues, hrest⟩ := List.forall_mem_append.1 hstack
  refine ⟨hvalues, hrest, ?_⟩
  rw [htook.locals]
  exact h.locals

theorem took_one (h : memory.Sourced pool) (htook : memory.Took [value] rest) :
    value.Sourced pool ∧ rest.Sourced pool := by
  obtain ⟨hvalues, hrest⟩ := h.took htook
  exact ⟨hvalues value (List.mem_singleton_self value), hrest⟩

/-- A handle that is taken from the stack is on a field reference. -/
theorem popField {handle : Pool.Index} (h : memory.Sourced pool)
    (hpop : memory.popField = .ok (handle, rest)) :
    ∃ member, pool.fieldRef handle = .ok member := by
  have hhandle := (h.took_one (Memory.took_of_popField hpop)).1
  cases hhandle with
  | field found => exact ⟨_, found⟩

end Memory.Sourced

/-- An instruction that is given values with sources leaves, passes and returns only such values. -/
theorem Instruction.Acts.sourced {τ : Type} {segment : Text.Segmenter} {classFile : ClassFile}
    {memory : Memory} {instruction : Instruction τ} {action : Action τ}
    (hacts : instruction.Acts segment classFile memory action) (h : memory.Sourced classFile.pool) :
    action.Sourced classFile.pool := by
  cases hacts with
  | getStatic finds => exact h.push (.field finds)
  | loadConstant finds => exact h.push (.text finds)
  | invokeVirtual _ _ _ takes _ _ =>
      obtain ⟨hvalues, hrest⟩ := h.took takes
      exact ⟨hvalues _ List.mem_cons_self, hrest⟩
  | invokeStatic _ _ _ _ takes =>
      obtain ⟨hvalues, hrest⟩ := h.took takes
      refine ⟨?_, hrest⟩
      intro value hvalue
      exact hvalues value (List.mem_reverse.2 hvalue)
  | returnNothing =>
      intro value hvalue
      cases hvalue
  | returnValue takes =>
      intro value hvalue
      cases hvalue
      exact (h.took_one takes).1
  | @push number => exact h.push (.int number)
  | @arithmetic op left right result rest takes _ => exact (h.took takes).2.push (.int result)
  | @store slot value rest takes sets =>
      obtain ⟨hvalue, hrest⟩ := h.took_one takes
      rw [Locals.put_of_set sets]
      exact hrest.put hvalue slot
  | load gets => exact h.push (h.locals _ (Locals.mem_of_get gets))
  | @increment slot delta adds =>
      obtain ⟨number, hput⟩ := Locals.put_of_increment adds
      rw [hput]
      exact h.put (.int (number + delta.toInt32)) slot
  | nonzero takes _ => exact (h.took takes).2
  | zero takes => exact (h.took takes).2
  | holds takes _ => exact (h.took takes).2
  | fails takes _ => exact (h.took takes).2
  | goto => exact h

/-! ## Output -/

namespace Session.LinesSince

variable {pool : Pool} {session start : Session}

theorem refl (pool : Pool) (session : Session) : session.LinesSince pool session := by
  intro hsink
  exact ⟨hsink, [], by simp, by simp⟩

/-- Only the sink matters. -/
theorem of_sink (h : session.LinesSince pool start) {after : Session}
    (hsink : after.sink = session.sink) : after.LinesSince pool start := by
  intro hstart
  obtain ⟨hfails, lines, hlines, houtput⟩ := h hstart
  refine ⟨hsink ▸ hfails, lines, hlines, ?_⟩
  rw [output, hsink]
  exact houtput

theorem note (h : session.LinesSince pool start) (event : MachineEvent) :
    (session.note event).LinesSince pool start :=
  h.of_sink rfl

theorem printLine (h : session.LinesSince pool start) {value : Value} {after : Session}
    {result : Except Fault Unit} (hvalue : value.Sourced pool)
    (hprint : session.printLine value = some (result, after)) : after.LinesSince pool start := by
  intro hstart
  obtain ⟨hfails, lines, hlines, houtput⟩ := h hstart
  cases hprint.symm.trans (ask_of_neverFails hfails _)
  refine ⟨hfails, lines ++ [value.display], ?_, ?_⟩
  · intro line hline
    obtain hline | hline := List.mem_append.1 hline
    · exact hlines line hline
    · rw [List.mem_singleton.1 hline]
      exact hvalue.line
  · rw [List.flatMap_append, ← List.append_assoc, ← houtput]
    simp [output, Sink.after, Sink.Call.bytes]

theorem flush (h : session.LinesSince pool start) {after : Session} {result : Except Fault Unit}
    (hflush : session.ask .flush = some (result, after)) : after.LinesSince pool start := by
  intro hstart
  obtain ⟨hfails, lines, hlines, houtput⟩ := h hstart
  have hsame := flush_output hflush
  cases hflush.symm.trans (ask_of_neverFails hfails .flush)
  exact ⟨hfails, lines, hlines, hsame.trans houtput⟩

end Session.LinesSince

/-! ## Runs -/

namespace Machine

variable {machine : Machine} {session start : Session}

/-- The frame of a call holds its arguments and nothing else. -/
theorem enter_sourced {name : String} {arguments : List Value} {after : Session}
    {result : Except Fault Frame} (hsession : session.LinesSince machine.classFile.pool start)
    (harguments : ∀ value ∈ arguments, value.Sourced machine.classFile.pool)
    (henter : machine.enter name arguments session = (result, after)) :
    (∀ frame, result = .ok frame → frame.memory.Sourced machine.classFile.pool) ∧
      after.LinesSince machine.classFile.pool start := by
  have hload := (Session.load_snd session machine.classFile name).1
  cases enters_of_enter henter with
  | tooDeep _ => exact ⟨forall_of_error, hsession⟩
  | notLoaded _ loads =>
      rw [loads] at hload
      exact ⟨forall_of_error, hsession.of_sink hload⟩
  | noRoom _ loads _ =>
      rw [loads] at hload
      exact ⟨forall_of_error, hsession.of_sink hload⟩
  | made _ loads creates =>
      rw [loads] at hload
      refine ⟨?_, hsession.of_sink hload⟩
      intro frame hframe
      cases hframe
      refine ⟨by simp [OperandStack.empty], ?_⟩
      intro value hvalue
      exact harguments value (Locals.mem_create creates hvalue)

theorem performs_sourced {frame : Frame} {action : Action Nat} {result : Step Frame}
    (hsession : session.LinesSince machine.classFile.pool start)
    (haction : action.Sourced machine.classFile.pool)
    (hperforms : machine.Performs frame session action result) :
    result.Kept (fun frame => frame.memory.Sourced machine.classFile.pool)
      (fun session => session.LinesSince machine.classFile.pool start)
      (fun returned => ∀ value ∈ returned, value.Sourced machine.classFile.pool) := by
  cases hperforms with
  | advanced => exact ⟨haction, hsession⟩
  | jumped => exact ⟨haction, hsession⟩
  | printed prints => exact ⟨haction.2, hsession.printLine haction.1 prints⟩
  | unprinted prints => exact ⟨forall_of_error, hsession.printLine haction.1 prints⟩
  | stalled _ => trivial
  | called enters =>
      have hentered := enter_sourced hsession haction.1 enters
      exact ⟨hentered.1 _ rfl, hentered.2, fun result hresult => haction.2.receive hresult⟩
  | refused enters => exact ⟨forall_of_error, (enter_sourced hsession haction.1 enters).2⟩
  | finished =>
      refine ⟨?_, hsession⟩
      intro returned hreturned
      cases hreturned
      exact haction

/-- Along every run all values have sources, and whole lines are written. -/
theorem maintains_sourced (machine : Machine) (start : Session) :
    machine.Maintains (fun frame => frame.memory.Sourced machine.classFile.pool)
      (fun session => session.LinesSince machine.classFile.pool start)
      (fun returned => ∀ value ∈ returned, value.Sourced machine.classFile.pool) where
  step hframe hsession hsteps := by
    cases hsteps with
    | fellOff _ _ =>
        refine ⟨?_, hsession.note _⟩
        intro returned hreturned
        cases hreturned
        intro value hvalue
        cases hvalue
    | lost _ _ => exact ⟨forall_of_error, hsession⟩
    | failed _ _ => exact ⟨forall_of_error, hsession.note _⟩
    | acted _ acts performs =>
        have haction := (Instruction.acts_of_act acts).sourced hframe
        exact performs_sourced (hsession.note _) haction performs
  closed hsession name := hsession.of_sink rfl
  note hsession event := hsession.note event
  flush hsession hflush := hsession.flush hflush
  enter hsession henter := enter_sourced hsession (by simp) henter

/-- In every frame that a run comes to, each value on the stack or in a local variable has a source,
and so has each value that the frame passes, prints or returns; the receiver of a virtual call is a
field reference. What a run returns has a source, and what it writes to a sink that never fails are
whole lines, whether it succeeds or fails. -/
theorem values_and_lines_of_pool (machine : Machine) (name : String) (session : Session) :
    (∀ frame final, machine.Visits name session frame final →
      frame.memory.Sourced machine.classFile.pool ∧
      (∀ instruction action, frame.program[frame.pc]? = some instruction →
        instruction.act machine.segment machine.classFile frame.memory = .ok action →
        action.Sourced machine.classFile.pool) ∧
      ∀ argument below handle rest, frame.memory.pop = .ok (argument, below) →
        below.popField = .ok (handle, rest) →
        ∃ member, machine.classFile.pool.fieldRef handle = .ok member) ∧
    ∀ fuel answer after, machine.run fuel name session = some (answer, after) →
      (∀ value, answer = .ok (some value) → value.Sourced machine.classFile.pool) ∧
      (session.sink.NeverFails → ∃ lines : List String,
        (∀ line ∈ lines, machine.classFile.pool.Line line) ∧
        after.output =
          session.output ++ lines.flatMap fun line => Text.Utf8.encode (line ++ "\n")) := by
  have hmaintains := machine.maintains_sourced session
  have hstart := Session.LinesSince.refl machine.classFile.pool session
  constructor
  · intro frame final hvisits
    have hframe := (hmaintains.visits hstart hvisits).1
    refine ⟨hframe, ?_, ?_⟩
    · intro instruction action _ hact
      exact (Instruction.acts_of_act hact).sourced hframe
    · intro argument below handle rest hpop htake
      have hbelow := (hframe.took_one (Memory.took_of_pop hpop)).2
      exact hbelow.popField htake
  · intro fuel answer after hrun
    obtain ⟨hreturned, hlines⟩ := hmaintains.run hstart hrun
    constructor
    · intro value hanswer
      exact hreturned (some value) hanswer value rfl
    · intro hsink
      exact (hlines hsink).2

/-- A class whose `main` prints a number, a text and a handle, and returns the text. -/
def threeKinds : Machine where
  classFile :=
    { minorVersion := 0
      majorVersion := 52
      pool := ⟨#[.utf8 "Test", .classRef ⟨1⟩, .utf8 "main", .utf8 "()I", .utf8 "java/lang/System",
        .classRef ⟨5⟩, .utf8 "out", .utf8 "Ljava/io/PrintStream;", .nameAndType ⟨7⟩ ⟨8⟩,
        .fieldRef ⟨⟨6⟩, ⟨9⟩⟩, .utf8 "println", .utf8 "(I)V", .nameAndType ⟨11⟩ ⟨12⟩,
        .methodRef ⟨⟨6⟩, ⟨13⟩⟩, .utf8 "Hi", .string ⟨15⟩]⟩
      access := 0
      thisClass := ⟨2⟩
      superClass := ⟨2⟩
      interfaces := []
      methods :=
        [⟨⟨8⟩, ⟨3⟩, ⟨4⟩, 4, 2, [0xB2, 0, 10, 0x05, 0xB6, 0, 14, 0xB2, 0, 10, 0x12, 16, 0xB6, 0, 14,
          0xB2, 0, 10, 0xB2, 0, 10, 0xB6, 0, 14, 0x12, 16, 0xAC]⟩] }
  limits := {}

/-- One line of each kind, and a text that is returned. -/
theorem values_and_lines_threeKinds :
    ∃ after, threeKinds.run 20 "main" (.start .unlimited none) =
        some (.ok (some (.text "Hi")), after) ∧
      after.output = [50, 10, 72, 105, 10, 102, 105, 101, 108, 100, 32, 35, 49, 48, 10] ∧
      (Value.text "Hi").Sourced threeKinds.classFile.pool ∧
      ∃ lines : List String, (∀ line ∈ lines, threeKinds.classFile.pool.Line line) ∧
        after.output = lines.flatMap fun line => Text.Utf8.encode (line ++ "\n") := by
  have hends : (threeKinds.run 20 "main" (.start .unlimited none)).map
      (fun found => (found.1, found.2.output)) = some (.ok (some (.text "Hi")),
        [50, 10, 72, 105, 10, 102, 105, 101, 108, 100, 32, 35, 49, 48, 10]) := by decide +kernel
  obtain ⟨⟨_, after⟩, hrun, heq⟩ := Option.map_eq_some_iff.1 hends
  simp only [Prod.mk.injEq] at heq
  obtain ⟨rfl, houtput⟩ := heq
  obtain ⟨hreturned, hlines⟩ := (threeKinds.values_and_lines_of_pool "main" _).2 _ _ _ hrun
  exact ⟨after, hrun, houtput, hreturned _ rfl, hlines Sink.neverFails_unlimited⟩

end Machine

end ClassVM
