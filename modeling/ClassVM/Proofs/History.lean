import ClassVM.Proofs.Simulation

/-! # Runs do not depend on history

A session keeps the methods that were decoded, the output and the depth from one run to the next,
also when runs fail. After any number of runs the depth is back at zero and what is kept is what
would be decoded again, so a further run answers as it would on a fresh machine, and writes the same
bytes. -/

namespace ClassVM

/-- The sink takes everything, and flushing it succeeds, whatever it was asked before. -/
def Sink.NeverFails (sink : Sink) : Prop :=
  ∀ past call, sink.answer past call = some .done

/-- Runs of methods, one after another on one machine, with their answers. -/
inductive Machine.Runs (machine : Machine) : Session → List (String × Answer) → Session → Prop
  | nil {session} : machine.Runs session [] session
  | cons {session name fuel answer middle calls last}
      (first : machine.run fuel name session = some (answer, middle))
      (rest : machine.Runs middle calls last) :
      machine.Runs session ((name, answer) :: calls) last

/-- Two sessions on the same course: at the same depth, each keeping the right instructions and
writing to a sink that never fails, they have written the same bytes since their outputs were
`before` and `before'`. -/
structure Session.SameCourse (classFile : ClassFile) (before before' : List UInt8)
    (session session' : Session) : Prop where
  depth : session.depth = session'.depth
  consistent : session.Consistent classFile ∧ session'.Consistent classFile
  reliable : session.sink.NeverFails ∧ session'.sink.NeverFails
  output : ∃ bytes, session.output = before ++ bytes ∧ session'.output = before' ++ bytes

theorem Sink.NeverFails.ask {sink : Sink} (h : sink.NeverFails) (call : Call) :
    sink.ask call = some (.ok (), sink.after call call.bytes) := by
  rw [Sink.ask, h]

theorem Session.ask_of_neverFails {session : Session} (h : session.sink.NeverFails)
    (call : Sink.Call) :
    session.ask call =
      some (.ok (), { session with sink := session.sink.after call call.bytes }) := by
  rw [Session.ask, h.ask]
  rfl

theorem Sink.neverFails_unlimited : unlimited.NeverFails := by
  intro past call
  cases call with
  | write bytes => rfl
  | flush => rfl

namespace Session.SameCourse

variable {classFile : ClassFile} {before before' : List UInt8} {session session' : Session}

theorem note (h : SameCourse classFile before before' session session') (event : MachineEvent) :
    SameCourse classFile before before' (session.note event) (session'.note event) :=
  ⟨h.depth, h.consistent, h.reliable, h.output⟩

theorem opened (h : SameCourse classFile before before' session session') (name : String) :
    SameCourse classFile before before' (session.opened name) (session'.opened name) :=
  ⟨congrArg (· + 1) h.depth, h.consistent, h.reliable, h.output⟩

theorem closed (h : SameCourse classFile before before' session session') (name : String) :
    SameCourse classFile before before' (session.closed name) (session'.closed name) :=
  ⟨congrArg (· - 1) h.depth, h.consistent, h.reliable, h.output⟩

theorem ask (h : SameCourse classFile before before' session session') (call : Sink.Call) :
    AnsweredAlike (SameCourse classFile before before') call session session' := by
  obtain ⟨hreliable, hreliable'⟩ := h.reliable
  obtain ⟨bytes, houtput, houtput'⟩ := h.output
  rw [AnsweredAlike, ask_of_neverFails hreliable, ask_of_neverFails hreliable']
  refine .some (.made rfl ?_)
  refine ⟨h.depth, h.consistent, ⟨hreliable, hreliable'⟩, bytes ++ call.bytes, ?_, ?_⟩
  · rw [← List.append_assoc, ← houtput]
    simp [Session.output, Sink.after]
  · rw [← List.append_assoc, ← houtput']
    simp [Session.output, Sink.after]

theorem load (h : SameCourse classFile before before' session session') (name : String) :
    (session.load classFile name).1 = (session'.load classFile name).1 ∧
      SameCourse classFile before before' (session.load classFile name).2
        (session'.load classFile name).2 := by
  obtain ⟨hconsistent, hconsistent'⟩ := h.consistent
  obtain ⟨hsink, hdepth, -⟩ := load_snd session classFile name
  obtain ⟨hsink', hdepth', -⟩ := load_snd session' classFile name
  constructor
  · rw [hconsistent.load_fst, hconsistent'.load_fst]
  · refine ⟨?_, ⟨hconsistent.load name, hconsistent'.load name⟩, ?_, ?_⟩
    · rw [hdepth, hdepth', h.depth]
    · rw [hsink, hsink']
      exact h.reliable
    · rw [Session.output, Session.output, hsink, hsink']
      exact h.output

end Session.SameCourse

namespace Machine

variable {machine : Machine} {before before' : List UInt8} {session session' : Session}

theorem enter_sameCourse
    (h : Session.SameCourse machine.classFile before before' session session') (name : String)
    (arguments : List Value) :
    Step.Entered Eq (Session.SameCourse machine.classFile before before')
      (machine.enter name arguments session) (machine.enter name arguments session') := by
  apply entered_of_load h h.depth (h.load name)
  intro first second hafter
  exact hafter.opened name

/-- A machine on two sessions on the same course follows itself. -/
theorem simulates_sameCourse (machine : Machine) (before before' : List UInt8) :
    machine.Simulates machine (Session.SameCourse machine.classFile before before')
      fun _ => False where
  classFile := rfl
  segment := rfl
  enter hsession name arguments := .inl (enter_sameCourse hsession name arguments)
  note hsession event := hsession.note event
  ask hsession call := hsession.ask call
  closed hsession name := hsession.closed name

theorem Runs.evolves {R : Session → Session → Prop} (h : Session.Evolution machine.classFile R)
    {calls : List (String × Answer)} {last : Session} (hruns : machine.Runs session calls last) :
    R session last := by
  induction hruns with
  | nil => exact h.refl _
  | cons first _ ih => exact h.trans (run_evolves h first) ih

/-- After any runs, what is kept is what would be decoded again. -/
theorem Runs.consistent {sink : Sink} {threshold : Log.Threshold} {calls : List (String × Answer)}
    (hruns : machine.Runs (.start sink threshold) calls session) :
    session.Consistent machine.classFile :=
  hruns.evolves Session.evolution_consistent (Session.consistent_start _ _)

/-- The machine ends a run from the one session exactly if it ends it from the other, with the same
answer and the same bytes added to the output. -/
def RunsAlike (machine : Machine) (session session' : Session) : Prop :=
  ∀ fuel name, Option.Rel
    (fun found found' => found.1 = found'.1 ∧ ∃ bytes,
      found.2.output = session.output ++ bytes ∧ found'.2.output = session'.output ++ bytes)
    (machine.run fuel name session) (machine.run fuel name session')

theorem runsAlike_of_sameCourse
    (h : Session.SameCourse machine.classFile session.output session'.output session session') :
    machine.RunsAlike session session' := by
  intro fuel name
  have hrun := (machine.simulates_sameCourse _ _).lockstep h fuel name
  apply rel_mono _ hrun
  intro found found' hfound
  exact ⟨hfound.1, hfound.2.output⟩

/-- After any runs of a machine with a sink that never fails, successful or not, the depth is zero,
every method is loaded as on a fresh machine, and further runs end as on a fresh machine. -/
theorem run_after_history {sink sink' : Sink} {threshold threshold' : Log.Threshold}
    {calls : List (String × Answer)} {session : Session} (hsink : sink.NeverFails)
    (hsink' : sink'.NeverFails) (hruns : machine.Runs (.start sink threshold) calls session) :
    session.depth = 0 ∧
      (∀ name, (session.load machine.classFile name).1 =
        ((Session.start sink' threshold').load machine.classFile name).1) ∧
      machine.RunsAlike session (.start sink' threshold') := by
  have hdepth : session.depth = 0 := hruns.evolves Session.evolution_depth
  have hanswers := hruns.evolves Session.evolution_sink
  have hconsistent := hruns.evolves Session.evolution_consistent (Session.consistent_start _ _)
  have hcourse : Session.SameCourse machine.classFile session.output
      (Session.start sink' threshold').output session (.start sink' threshold') :=
    { depth := hdepth
      consistent := ⟨hconsistent, Session.consistent_start _ _⟩
      reliable := ⟨fun past call => hanswers ▸ hsink past call, hsink'⟩
      output := ⟨[], by simp, by simp⟩ }
  exact ⟨hdepth, fun name => (hcourse.load name).1, runsAlike_of_sameCourse hcourse⟩

/-- A class whose `main` calls `sum`, which lacks an operand, and whose `one` returns a number. -/
def lackingOperand : Machine where
  classFile :=
    { minorVersion := 0
      majorVersion := 52
      pool := ⟨#[.utf8 "Test", .classRef ⟨1⟩, .utf8 "main", .utf8 "()I", .utf8 "sum",
        .nameAndType ⟨5⟩ ⟨4⟩, .methodRef ⟨⟨2⟩, ⟨6⟩⟩, .utf8 "one"]⟩
      access := 0
      thisClass := ⟨2⟩
      superClass := ⟨2⟩
      interfaces := []
      methods :=
        [⟨⟨8⟩, ⟨3⟩, ⟨4⟩, 4, 2, [0xB8, 0, 7, 0xAC]⟩, ⟨⟨8⟩, ⟨5⟩, ⟨4⟩, 4, 2, [0x04, 0x60, 0xAC]⟩,
          ⟨⟨8⟩, ⟨8⟩, ⟨4⟩, 4, 2, [0x04, 0xAC]⟩] }
  limits := { maxCallDepth := some 2 }

/-- A failure inside a call, then a success. -/
theorem run_after_history_lackingOperand :
    ∃ session,
      lackingOperand.Runs (.start .unlimited none)
        [("main", .error .emptyStack), ("one", .ok (some (.int 1)))] session ∧
      session.depth = 0 ∧ lackingOperand.RunsAlike session (.start .unlimited none) := by
  have hboth : ((lackingOperand.run 9 "main" (.start .unlimited none)).bind fun first =>
      (lackingOperand.run 9 "one" first.2).map fun second => (first.1, second.1)) =
        some (.error .emptyStack, .ok (some (.int 1))) := by decide +kernel
  obtain ⟨⟨_, middle⟩, hmain, hrest⟩ := Option.bind_eq_some_iff.1 hboth
  obtain ⟨⟨_, last⟩, hone, heq⟩ := Option.map_eq_some_iff.1 hrest
  cases heq
  have hsink := Sink.neverFails_unlimited
  have hruns : lackingOperand.Runs (.start .unlimited none) _ last := .cons hmain (.cons hone .nil)
  obtain ⟨hdepth, -, halike⟩ := run_after_history hsink hsink hruns
  exact ⟨last, hruns, hdepth, halike⟩

end Machine

end ClassVM
