import ClassVM.Proofs.Conduct

/-! # How sessions evolve

A machine changes its session in few ways: it reports an event, asks its sink to do something, loads
a method, and enters and leaves methods. A relation between earlier and later sessions that holds
along each of these holds along every run, whether it succeeds or fails. -/

namespace ClassVM

namespace Session

/-- The relation holds between a session and whatever a machine makes of it. Methods are entered
and left in pairs, whatever has happened in between. -/
structure Evolution (classFile : ClassFile) (R : Session → Session → Prop) : Prop where
  refl : ∀ session, R session session
  trans : ∀ {first second third}, R first second → R second third → R first third
  note : ∀ session event, R session (session.note event)
  ask : ∀ {session call result after}, session.ask call = some (result, after) → R session after
  load : ∀ session name, R session (session.load classFile name).2
  bracket : ∀ {session after} (name : String), R (session.opened name) after →
    R session (after.closed name)

end Session

/-- The relation holds between the session before a step and after it, or before a method was
entered in it. -/
def Step.Evolved {φ : Type} (R : Session → Session → Prop) (session : Session) : Step φ → Prop
  | .done _ after | .next _ after => R session after
  | .call name _ _ after => ∃ before, R session before ∧ after = before.opened name
  | .stalled => True

theorem Step.Evolved.trans {φ : Type} {R : Session → Session → Prop} {classFile : ClassFile}
    (h : Session.Evolution classFile R) {session middle : Session} {result : Step φ}
    (hfirst : R session middle) (hresult : result.Evolved R middle) : result.Evolved R session := by
  cases result with
  | done answer after => exact h.trans hfirst hresult
  | next frame after => exact h.trans hfirst hresult
  | call name callee resume after =>
      obtain ⟨before, hbefore, rfl⟩ := hresult
      exact ⟨before, h.trans hfirst hbefore, rfl⟩
  | stalled => trivial

namespace Machine

/-- All that a call can come to: it is refused for the depth, for its method or for its arguments,
or a frame is made and the method is entered. -/
inductive Enters (machine : Machine) (name : String) (arguments : List Value) (session : Session) :
    Except Fault Frame → Session → Prop
  | tooDeep {limit : Nat} (broken : machine.limits.brokenAt session.depth = some limit) :
      Enters machine name arguments session (.error (.callDepthExceeded limit)) session
  | notLoaded {fault : Fault} {after : Session}
      (within : machine.limits.brokenAt session.depth = none)
      (loads : session.load machine.classFile name = (.error fault, after)) :
      Enters machine name arguments session (.error fault) after
  | noRoom {program : Program} {maxLocals : Nat} {fault : Fault} {after : Session}
      (within : machine.limits.brokenAt session.depth = none)
      (loads : session.load machine.classFile name = (.ok (program, maxLocals), after))
      (creates : Locals.create (max machine.limits.localsCapacity maxLocals) arguments =
        .error fault) :
      Enters machine name arguments session (.error fault) after
  | made {program : Program} {maxLocals : Nat} {locals : Locals} {after : Session}
      (within : machine.limits.brokenAt session.depth = none)
      (loads : session.load machine.classFile name = (.ok (program, maxLocals), after))
      (creates : Locals.create (max machine.limits.localsCapacity maxLocals) arguments =
        .ok locals) :
      Enters machine name arguments session (.ok ⟨program, 0, ⟨.empty, locals⟩⟩)
        (after.opened name)

variable {machine : Machine} {R : Session → Session → Prop}

theorem enters_of_enter {name : String} {arguments : List Value} {session after : Session}
    {result : Except Fault Frame}
    (h : machine.enter name arguments session = (result, after)) :
    machine.Enters name arguments session result after := by
  unfold enter at h
  split at h
  · next hbroken =>
      cases h
      exact .tooDeep hbroken
  · next hwithin =>
      split at h
      · next hload =>
          cases h
          exact .notLoaded hwithin hload
      · next hload =>
          split at h
          · next hlocals =>
              cases h
              exact .noRoom hwithin hload hlocals
          · next hlocals =>
              cases h
              exact .made hwithin hload hlocals

/-- Calls of one method from related sessions are related, if both are allowed, the method is loaded
alike and its arguments find room alike, unless one of these cuts a run short. -/
theorem entered_of_loads {other : Machine} {F : Frame → Frame → Prop} {S : Session → Session → Prop}
    {Cut : Fault → Prop} {name : String} {arguments : List Value} {session session' : Session}
    (hsession : S session session')
    (hbroken : machine.limits.brokenAt session.depth = other.limits.brokenAt session'.depth)
    (hload : Step.Entered
        (fun found found' => AgreesUnless Cut
          (fun locals locals' => F ⟨found.1, 0, ⟨.empty, locals⟩⟩ ⟨found'.1, 0, ⟨.empty, locals'⟩⟩)
          (Locals.create (max machine.limits.localsCapacity found.2) arguments)
          (Locals.create (max other.limits.localsCapacity found'.2) arguments))
        S (session.load machine.classFile name) (session'.load other.classFile name) ∨
      Step.IsCutCall Cut (session.load machine.classFile name))
    (hopened : ∀ {first second}, S first second → S (first.opened name) (second.opened name)) :
    Step.Entered F S (machine.enter name arguments session)
        (other.enter name arguments session') ∨
      Step.IsCutCall Cut (machine.enter name arguments session) := by
  rw [enter, enter, ← hbroken]
  split
  · exact .inl (.refused hsession)
  · obtain hloaded | ⟨fault, after, heq, hcut⟩ := hload
    · generalize session.load machine.classFile name = loaded at hloaded
      generalize session'.load other.classFile name = loaded' at hloaded
      cases hloaded with
      | refused sessions => exact .inl (.refused sessions)
      | @made found found' after after' created sessions =>
          simp only
          generalize Locals.create (max machine.limits.localsCapacity found.2) arguments = room
            at created
          generalize Locals.create (max other.limits.localsCapacity found'.2) arguments = room'
            at created
          cases created with
          | failed => exact .inl (.refused sessions)
          | found frames => exact .inl (.made frames (hopened sessions))
          | cut cuts => exact .inr ⟨_, _, rfl, cuts⟩
    · rw [heq]
      exact .inr ⟨fault, after, rfl, hcut⟩

/-- Calls of one method of one machine from related sessions are related, if the sessions stay so
while the method is loaded and entered. -/
theorem entered_of_load {S : Session → Session → Prop} {name : String} {arguments : List Value}
    {session session' : Session} (hsession : S session session')
    (hdepth : session.depth = session'.depth)
    (hload : (session.load machine.classFile name).1 = (session'.load machine.classFile name).1 ∧
      S (session.load machine.classFile name).2 (session'.load machine.classFile name).2)
    (hopened : ∀ {first second}, S first second → S (first.opened name) (second.opened name)) :
    Step.Entered Eq S (machine.enter name arguments session)
      (machine.enter name arguments session') := by
  have hentered : Step.Entered Eq S (machine.enter name arguments session)
        (machine.enter name arguments session') ∨
      Step.IsCutCall (fun _ => False) (machine.enter name arguments session) := by
    apply entered_of_loads hsession (congrArg _ hdepth) (.inl _) hopened
    apply (Step.entered_of_eq hload.1 hload.2).mono
    rintro found _ rfl
    cases Locals.create (max machine.limits.localsCapacity found.2) arguments with
    | error fault => exact .failed
    | ok locals => exact .found rfl
  obtain hentered | ⟨_, _, _, hfalse⟩ := hentered
  · exact hentered
  · exact hfalse.elim

/-- A call that is refused enters no method; one that is made enters its method last. -/
theorem enter_evolves (h : Session.Evolution machine.classFile R) {name : String}
    {arguments : List Value} {session after : Session} {result : Except Fault Frame}
    (henter : machine.enter name arguments session = (result, after)) :
    match result with
    | .error _ => R session after
    | .ok _ => ∃ before, R session before ∧ after = before.opened name := by
  have hload := h.load session name
  cases enters_of_enter henter with
  | tooDeep _ => exact h.refl session
  | notLoaded _ loads =>
      rw [loads] at hload
      exact hload
  | noRoom _ loads _ =>
      rw [loads] at hload
      exact hload
  | made _ loads _ =>
      rw [loads] at hload
      exact ⟨_, hload, rfl⟩

theorem perform_evolved (h : Session.Evolution machine.classFile R) (frame : Frame)
    (session : Session) (action : Action Nat) :
    (action.perform frame.next frame.goto machine.enter session).Evolved R session := by
  cases action with
  | advance memory => exact h.refl session
  | jump target memory => exact h.refl session
  | finish result => exact h.refl session
  | print value memory =>
      rw [Action.perform]
      split
      · trivial
      · next hprint => exact h.ask hprint
      · next hprint => exact h.ask hprint
  | call name arguments memory =>
      rw [Action.perform]
      split
      · next heq => exact enter_evolves h heq
      · next heq => exact enter_evolves h heq

theorem step_evolved (h : Session.Evolution machine.classFile R) (frame : Frame)
    (session : Session) : (machine.step frame session).Evolved R session := by
  unfold step
  split
  · split
    · exact h.note session _
    · exact h.refl session
  · next instruction _ =>
      have hnote := h.note session (.executing frame.pc instruction frame.memory.stack)
      simp only
      split
      · exact hnote
      · exact (perform_evolved h frame _ _).trans h hnote

theorem step_carries (h : Session.Evolution machine.classFile R) :
    Step.Carries machine.step R where
  trans := h.trans
  done {frame session _ _} hstep := by
    have hevolved := step_evolved h frame session
    rwa [hstep] at hevolved
  next {frame session _ _} hstep := by
    have hevolved := step_evolved h frame session
    rwa [hstep] at hevolved
  call {frame session name _ _ _ _} hstep hcallee := by
    have hevolved := step_evolved h frame session
    rw [hstep] at hevolved
    obtain ⟨before, hbefore, rfl⟩ := hevolved
    exact h.trans hbefore (h.bracket name hcallee)

theorem invoke_evolves (h : Session.Evolution machine.classFile R) {fuel : Nat} {name : String}
    {session after : Session} {answer : Answer}
    (hinvoke : machine.invoke fuel name session = some (answer, after)) : R session after := by
  unfold invoke at hinvoke
  split at hinvoke
  · next henter =>
      cases hinvoke
      exact enter_evolves h henter
  · next henter =>
      obtain ⟨before, hbefore, rfl⟩ := enter_evolves h henter
      split at hinvoke
      · simp at hinvoke
      · next hexecute =>
          cases hinvoke
          exact h.trans hbefore (h.bracket name ((step_carries h).run hexecute))

/-- All that settling an answer can come to: a fault stays as it is, and for a result the sink is
flushed, which may fail. -/
inductive Settles (session : Session) : Answer → Answer → Session → Prop
  | failed {fault : Fault} : Settles session (.error fault) (.error fault) session
  | flushed {result : Option Value} {after : Session}
      (flushes : session.ask .flush = some (.ok (), after)) :
      Settles session (.ok result) (.ok result) after
  | unflushed {result : Option Value} {fault : Fault} {after : Session}
      (flushes : session.ask .flush = some (.error fault, after)) :
      Settles session (.ok result) (.error fault) after

theorem settles_of_settle {session after : Session} {raw answer : Answer}
    (h : settle raw session = some (answer, after)) :
    Settles session raw answer after := by
  unfold settle at h
  split at h
  · cases h
    exact .failed
  · split at h
    · cases h
    · next flushed _ hflush =>
        cases h
        cases flushed with
        | error fault => exact .unflushed hflush
        | ok _ => exact .flushed hflush

/-- An answer that is never settled waits for the sink to be flushed. -/
theorem settle_eq_none {session : Session} {raw : Answer} (h : settle raw session = none) :
    ∃ result, raw = .ok result ∧ session.ask .flush = none := by
  unfold settle at h
  split at h
  · cases h
  · next result =>
      split at h
      · next hwaits => exact ⟨result, rfl, hwaits⟩
      · cases h

theorem settle_evolves (h : Session.Evolution machine.classFile R) {session after : Session}
    {raw answer : Answer} (hsettle : settle raw session = some (answer, after)) :
    R session after := by
  cases settles_of_settle hsettle with
  | failed => exact h.refl session
  | flushed flushes => exact h.ask flushes
  | unflushed flushes => exact h.ask flushes

/-- Whether a run succeeds or fails, the relation holds between the session before it and
after it. -/
theorem run_evolves (h : Session.Evolution machine.classFile R) {fuel : Nat} {name : String}
    {session after : Session} {answer : Answer}
    (hrun : machine.run fuel name session = some (answer, after)) : R session after := by
  unfold run at hrun
  split at hrun
  · cases hrun
    exact h.refl session
  · next entry _ =>
      have hnote : R session (if entry.isStatic then session else session.note (.notStatic name)) := by
        split
        · exact h.refl session
        · exact h.note session _
      simp only at hrun
      split at hrun
      · simp at hrun
      · next hinvoke =>
          exact h.trans hnote (h.trans (invoke_evolves h hinvoke) (settle_evolves h hrun))

end Machine

/-! ## What sessions keep -/

/-- Whatever a sink is asked to do, it goes on answering as it would have, and has lost nothing. -/
theorem Sink.kept_of_ask {sink after : Sink} {call : Call} {result : Except Fault Unit}
    (h : sink.ask call = some (result, after)) :
    after.answer = sink.answer ∧ sink.written.toList <+: after.written.toList := by
  unfold ask at h
  split at h
  · cases h
  · cases h
    simp [Sink.after]
  · cases h
    simp [Sink.after]

/-- The instructions and local variables of a method, whatever has been decoded before. -/
def ClassFile.loaded (classFile : ClassFile) (name : String) : Except Fault (Program × Nat) :=
  match classFile.method? name with
  | none => .error (.method (.notFound name))
  | some method =>
      match method.instructions.outcome with
      | .error e => .error (.method e)
      | .ok instructions => .ok (instructions.toArray, method.maxLocals)

/-- Instructions that are loaded are those of the method's code. -/
theorem ClassFile.decode_of_loaded {classFile : ClassFile} {name : String} {program : Program}
    {maxLocals : Nat} (h : classFile.loaded name = .ok (program, maxLocals)) :
    ∃ method instructions, classFile.method? name = some method ∧
      (Code.decode method.code).outcome = .ok instructions ∧
      program = instructions.toArray := by
  unfold loaded at h
  split at h
  · cases h
  · next method hmethod =>
      split at h
      · cases h
      · next instructions houtcome =>
          cases h
          refine ⟨method, instructions, hmethod, ?_, rfl⟩
          simp only [Method.instructions, Log.Traced.mapError] at houtcome
          cases hdecode : (Code.decode method.code).outcome with
          | error e => simp [hdecode, Except.mapError] at houtcome
          | ok found => simpa [hdecode, Except.mapError] using houtcome

namespace Session

variable {classFile : ClassFile}

/-- A call to the sink changes the sink, and nothing else. -/
theorem exists_sink_of_ask {session after : Session} {call : Sink.Call}
    {result : Except Fault Unit} (h : session.ask call = some (result, after)) :
    ∃ answered sink, session.sink.ask call = some (answered, sink) ∧
      result = answered.mapError Fault.output ∧ after = { session with sink } := by
  unfold ask at h
  split at h
  · cases h
  · next answered sink hask =>
      cases h
      exact ⟨answered, sink, hask, rfl, rfl⟩

/-- Every method that is kept is kept with its instructions. -/
def Consistent (classFile : ClassFile) (session : Session) : Prop :=
  ∀ kept ∈ session.programs, (classFile.instructionsOf kept.1).outcome = .ok kept.2.toList

/-- Reporting decoded instructions adds to the journal only. -/
theorem noteDecoded_eq (session : Session) (places : List Code.Located) :
    ∃ journal, session.noteDecoded places = { session with journal } := by
  induction places generalizing session with
  | nil => exact ⟨session.journal, rfl⟩
  | cons place places ih =>
      obtain ⟨journal, hrest⟩ := ih (session.note (.decoded place))
      exact ⟨journal, hrest⟩

/-- All that loading a method can do to a session: the sink and the depth stay, and at most the
method's own instructions are added to what is kept. -/
theorem load_snd (session : Session) (classFile : ClassFile) (name : String) :
    (session.load classFile name).2.sink = session.sink ∧
      (session.load classFile name).2.depth = session.depth ∧
      ((session.load classFile name).2.programs = session.programs ∨
        ∃ program : Program,
          (session.load classFile name).2.programs = (name, program) :: session.programs ∧
          (classFile.instructionsOf name).outcome = .ok program.toList) := by
  unfold load ClassFile.instructionsOf
  cases classFile.method? name with
  | none => exact ⟨rfl, rfl, .inl rfl⟩
  | some method =>
      simp only
      cases session.programs.lookup name with
      | some program => exact ⟨rfl, rfl, .inl rfl⟩
      | none =>
          obtain ⟨journal, hdecoded⟩ := noteDecoded_eq session method.instructions.events
          simp only [hdecoded]
          cases method.instructions.outcome with
          | error e => simp
          | ok instructions => simp [remember]

theorem Consistent.load {session : Session} (h : session.Consistent classFile) (name : String) :
    (session.load classFile name).2.Consistent classFile := by
  obtain ⟨-, -, heq | ⟨program, heq, hprogram⟩⟩ := load_snd session classFile name
  · intro kept hkept
    exact h kept (heq ▸ hkept)
  · intro kept hkept
    rw [heq] at hkept
    obtain rfl | hkept := List.mem_cons.1 hkept
    · exact hprogram
    · exact h kept hkept

/-- What is found under a name is one of the methods kept. -/
theorem mem_programs_of_lookup {session : Session} {name : String} {program : Program}
    (h : session.programs.lookup name = some program) : (name, program) ∈ session.programs := by
  obtain ⟨front, back, hsplit, -⟩ := List.lookup_eq_some_iff.1 h
  simp [hsplit]

/-- Loading a method gives the same whether it is kept or not. -/
theorem Consistent.load_fst {session : Session} (h : session.Consistent classFile)
    (name : String) : (session.load classFile name).1 = classFile.loaded name := by
  unfold Session.load ClassFile.loaded
  cases hmethod : classFile.method? name with
  | none => rfl
  | some method =>
      simp only
      cases hlookup : session.programs.lookup name with
      | some program =>
          have hkept := h _ (mem_programs_of_lookup hlookup)
          simp only [ClassFile.instructionsOf, hmethod] at hkept
          simp [hkept]
      | none =>
          simp only
          cases method.instructions.outcome with
          | error e => rfl
          | ok instructions => rfl

theorem consistent_start (sink : Sink) (threshold : Log.Threshold) :
    (start sink threshold).Consistent classFile := by
  intro kept hkept
  cases hkept

/-! ## Laws of evolution -/

theorem evolution_consistent :
    Evolution classFile fun session after =>
      session.Consistent classFile → after.Consistent classFile where
  refl _ := id
  trans hfirst hsecond h := hsecond (hfirst h)
  note _ _ := id
  ask hask h := by
    obtain ⟨_, _, _, _, rfl⟩ := exists_sink_of_ask hask
    exact h
  load _ name h := h.load name
  bracket _ h := h

/-- A method is left as often as it was entered. -/
theorem evolution_depth : Evolution classFile fun session after => after.depth = session.depth where
  refl _ := rfl
  trans hfirst hsecond := hsecond.trans hfirst
  note _ _ := rfl
  ask hask := by
    obtain ⟨_, _, _, _, rfl⟩ := exists_sink_of_ask hask
    rfl
  load session name := (load_snd session classFile name).2.1
  bracket _ h := congrArg (· - 1) h

/-- Output is only ever added to. -/
theorem evolution_output :
    Evolution classFile fun session after => session.output <+: after.output where
  refl _ := List.prefix_refl _
  trans := List.IsPrefix.trans
  note _ _ := List.prefix_refl _
  ask hask := by
    obtain ⟨_, _, hsink, _, rfl⟩ := exists_sink_of_ask hask
    exact (Sink.kept_of_ask hsink).2
  load session name := by
    rw [output, output, (load_snd session classFile name).1]
  bracket _ h := h

/-- The sink goes on answering as it would have. -/
theorem evolution_sink :
    Evolution classFile fun session after => after.sink.answer = session.sink.answer where
  refl _ := rfl
  trans hfirst hsecond := hsecond.trans hfirst
  note _ _ := rfl
  ask hask := by
    obtain ⟨_, _, hsink, _, rfl⟩ := exists_sink_of_ask hask
    exact (Sink.kept_of_ask hsink).1
  load session name := by rw [(load_snd session classFile name).1]
  bracket _ h := h

end Session

/-- Frames are run at the depth that they started at. -/
theorem Machine.carries_depth (machine : Machine) :
    Step.Carries machine.step fun session after => after.depth = session.depth :=
  step_carries Session.evolution_depth

/-! ## Failures and output -/

theorem Session.ask_failed {session after : Session} {call : Sink.Call} {fault : Fault}
    (h : session.ask call = some (.error fault, after)) : ∃ cause, fault = .output cause := by
  obtain ⟨answered, sink, -, hresult, -⟩ := exists_sink_of_ask h
  cases answered with
  | error cause => exact ⟨cause, Except.error.inj hresult⟩
  | ok _ => cases hresult

/-- Flushing adds no output. -/
theorem Session.flush_output {session after : Session} {result : Except Fault Unit}
    (h : session.ask .flush = some (result, after)) : after.output = session.output := by
  obtain ⟨answered, sink, hask, -, rfl⟩ := exists_sink_of_ask h
  unfold Sink.ask at hask
  split at hask
  · cases hask
  · cases hask
    simp [output, Sink.after, Sink.Call.bytes]
  · cases hask
    simp [output, Sink.after, Sink.Call.bytes]

namespace Machine

variable {machine : Machine}

theorem settle_output {session after : Session} {raw answer : Answer}
    (h : settle raw session = some (answer, after)) : after.output = session.output := by
  cases settles_of_settle h with
  | failed => rfl
  | flushed flushes => exact Session.flush_output flushes
  | unflushed flushes => exact Session.flush_output flushes

theorem enter_output {name : String} {arguments : List Value} {session after : Session}
    {result : Except Fault Frame}
    (henter : machine.enter name arguments session = (result, after)) :
    after.output = session.output := by
  have hload : (session.load machine.classFile name).2.output = session.output := by
    rw [Session.output, Session.output, (Session.load_snd session machine.classFile name).1]
  cases enters_of_enter henter with
  | tooDeep _ => rfl
  | notLoaded _ loads => rwa [loads] at hload
  | noRoom _ loads _ => rwa [loads] at hload
  | made _ loads _ =>
      rw [loads] at hload
      exact hload

/-- A step that fails writes nothing, unless writing is what failed. -/
theorem step_failed_output {frame : Frame} {session after : Session} {fault : Fault}
    (hstep : machine.step frame session = .done (.error fault) after) :
    after.output = session.output ∨ ∃ cause, fault = .output cause := by
  unfold step at hstep
  split at hstep
  · split at hstep
    · simp at hstep
    · cases hstep
      exact .inl rfl
  · simp only at hstep
    split at hstep
    · cases hstep
      exact .inl rfl
    · next action _ =>
        cases action with
        | advance memory => simp [Action.perform] at hstep
        | jump target memory => simp [Action.perform] at hstep
        | finish result => simp [Action.perform] at hstep
        | print value memory =>
            rw [Action.perform] at hstep
            split at hstep
            · simp at hstep
            · next hprint =>
                cases hstep
                exact .inr (Session.ask_failed hprint)
            · simp at hstep
        | call name arguments memory =>
            rw [Action.perform] at hstep
            split at hstep
            · next henter =>
                cases hstep
                have houtput := enter_output henter
                exact .inl houtput
            · simp at hstep

end Machine

end ClassVM
