import ClassVM.Proofs.Conduct
import ClassVM.Proofs.Visits
import Mathlib.Data.List.Forall2

/-! # Machines that follow each other

Two machines whose frames and sessions are related, and stay related from step to step and from call
to call, answer alike, except that the one may be cut short. So a statement about two runs of any
length comes down to statements about lookups, local variables, calls and output. -/

namespace ClassVM

/-- The same instruction of the same program, on the same operands and related local variables. -/
structure Frame.Alike (L : Locals → Locals → Prop) (frame frame' : Frame) : Prop where
  program : frame.program = frame'.program
  pc : frame.pc = frame'.pc
  memory : Memory.Related L frame.memory frame'.memory

theorem Frame.alike_self (frame : Frame) : Frame.Alike Eq frame frame :=
  ⟨rfl, rfl, rfl, rfl⟩

theorem Frame.Alike.eq {frame frame' : Frame} (h : Frame.Alike Eq frame frame') :
    frame = frame' := by
  obtain ⟨hprogram, hpc, hmemory⟩ := h
  cases frame
  cases frame'
  cases hprogram
  cases hpc
  cases Memory.related_eq_iff.1 hmemory
  rfl

/-- Among methods that are paired so that each bears a name if its partner does, the first ones that
bear it are partners. -/
theorem ClassFile.rel_find? {classFile other : ClassFile} {R : Method → Method → Prop} {name : String}
    (hnamed : ∀ {method method'}, R method method' →
      classFile.isNamed name method = other.isNamed name method')
    {methods methods' : List Method} (hall : List.Forall₂ R methods methods') :
    Option.Rel R (methods.find? (classFile.isNamed name)) (methods'.find? (other.isNamed name)) := by
  induction hall with
  | nil => exact .none
  | @cons method method' rest rest' hfirst _ ih =>
      simp only [List.find?_cons, hnamed hfirst]
      cases other.isNamed name method' with
      | true => exact .some hfirst
      | false => exact ih

namespace Session

/-- Sessions that keep the same programs at the same depth, and stay related whatever a machine does
to both of them, output apart. -/
structure Companions (S : Session → Session → Prop) : Prop where
  programs : ∀ {session session'}, S session session' → session.programs = session'.programs
  depth : ∀ {session session'}, S session session' → session.depth = session'.depth
  note : ∀ {session session'}, S session session' → ∀ event,
    S (session.note event) (session'.note event)
  remember : ∀ {session session'}, S session session' → ∀ name program,
    S (session.remember name program) (session'.remember name program)
  opened : ∀ {session session'}, S session session' → ∀ name,
    S (session.opened name) (session'.opened name)
  closed : ∀ {session session'}, S session session' → ∀ name,
    S (session.closed name) (session'.closed name)

theorem companions_eq : Companions Eq where
  programs hsession := congrArg Session.programs hsession
  depth hsession := congrArg Session.depth hsession
  note hsession event := congrArg (·.note event) hsession
  remember hsession name program := congrArg (·.remember name program) hsession
  opened hsession name := congrArg (·.opened name) hsession
  closed hsession name := congrArg (·.closed name) hsession

/-- The same programs at the same depth, and sinks that are related. The journals may differ. -/
structure Alike (K : Sink → Sink → Prop) (session session' : Session) : Prop where
  programs : session.programs = session'.programs
  depth : session.depth = session'.depth
  sink : K session.sink session'.sink

theorem companions_alike (K : Sink → Sink → Prop) : Companions (Alike K) where
  programs hsession := hsession.programs
  depth hsession := hsession.depth
  note hsession _ := ⟨hsession.programs, hsession.depth, hsession.sink⟩
  remember hsession name program :=
    ⟨congrArg ((name, program) :: ·) hsession.programs, hsession.depth, hsession.sink⟩
  opened hsession _ := ⟨hsession.programs, congrArg (· + 1) hsession.depth, hsession.sink⟩
  closed hsession _ := ⟨hsession.programs, congrArg (· - 1) hsession.depth, hsession.sink⟩

/-- Only the journal tells whether the method that is called from outside is static. -/
theorem Alike.announced {K : Sink → Sink → Prop} {session session' : Session}
    (h : Alike K session session') (name : String) (entry entry' : Method) :
    Alike K (session.announced name entry) (session'.announced name entry') := by
  unfold Session.announced
  split <;> split <;> exact ⟨h.programs, h.depth, h.sink⟩

/-- The sinks answer the call alike and the sessions are related afterwards, or neither answers. -/
def AnsweredAlike (S : Session → Session → Prop) (call : Sink.Call) (session session' : Session) :
    Prop :=
  Option.Rel (Step.Entered Eq S) (session.ask call) (session'.ask call)

theorem AnsweredAlike.flip {S : Session → Session → Prop} {call : Sink.Call}
    {session session' : Session} (h : AnsweredAlike S call session session') :
    AnsweredAlike (flip S) call session' session := by
  unfold AnsweredAlike at h ⊢
  generalize session.ask call = asked at h
  generalize session'.ask call = asked' at h
  cases h with
  | none => exact .none
  | some hasked => exact .some hasked.symm

theorem answeredAlike_of_eq (call : Sink.Call) {session session' : Session}
    (h : session = session') : AnsweredAlike Eq call session session' := by
  subst h
  exact rel_self (fun _ => Step.entered_of_eq rfl rfl) _

/-- Sessions answer alike if their sinks do. -/
theorem Alike.answeredAlike {K : Sink → Sink → Prop} {session session' : Session} {call : Sink.Call}
    (h : Alike K session session')
    (hsinks : Option.Rel (fun asked asked' => asked.1 = asked'.1 ∧ K asked.2 asked'.2)
      (session.sink.ask call) (session'.sink.ask call)) :
    AnsweredAlike (Alike K) call session session' := by
  unfold AnsweredAlike Session.ask
  generalize session.sink.ask call = asked at hsinks
  generalize session'.sink.ask call = asked' at hsinks
  cases hsinks with
  | none => exact .none
  | some hasked =>
      have hresult := congrArg (Except.mapError Fault.output) hasked.1
      exact .some (Step.entered_of_eq hresult ⟨h.programs, h.depth, hasked.2⟩)

/-- Sessions with the same sink answer alike. -/
theorem Alike.answered {session session' : Session} (h : Alike Eq session session')
    (call : Sink.Call) : AnsweredAlike (Alike Eq) call session session' := by
  apply h.answeredAlike
  rw [h.sink]
  exact rel_self (fun _ => ⟨rfl, rfl⟩) _

namespace Companions

variable {S : Session → Session → Prop} {session session' : Session}

theorem noteDecoded (h : Companions S) (hsession : S session session')
    (places : List Code.Located) :
    S (session.noteDecoded places) (session'.noteDecoded places) := by
  induction places generalizing session session' with
  | nil => exact hsession
  | cons place places ih => exact ih (h.note hsession _)

/-- Methods with the same code are loaded alike. -/
theorem load (h : Companions S) {classFile other : ClassFile} {name : String}
    {method method' : Method} (hmethod : classFile.method? name = some method)
    (hmethod' : other.method? name = some method') (hcode : method.code = method'.code)
    (hsession : S session session') :
    Step.Entered
      (fun found found' =>
        found.1 = found'.1 ∧ found.2 = method.maxLocals ∧ found'.2 = method'.maxLocals)
      S (session.load classFile name) (session'.load other name) := by
  have hinstructions : method'.instructions = method.instructions := by
    rw [Method.instructions, Method.instructions, hcode]
  rw [Session.load, Session.load, hmethod, hmethod']
  simp only [← h.programs hsession, hinstructions]
  split
  · exact .made ⟨rfl, rfl, rfl⟩ hsession
  · have hdecoded := h.noteDecoded hsession method.instructions.events
    split
    · exact .refused hdecoded
    · exact .made ⟨rfl, rfl, rfl⟩ (h.remember hdecoded name _)

end Companions

end Session

namespace Machine

/-- A run of a method that exists is a call of it from outside, settled. -/
theorem run_eq_bind_invoke {machine : Machine} {name : String} {entry : Method}
    (h : machine.classFile.method? name = some entry) (fuel : Nat) (session : Session) :
    machine.run fuel name session =
      (machine.invoke fuel name (session.announced name entry)).bind fun found =>
        settle found.1 found.2 := by
  rw [run, h]
  simp only [Session.announced]
  split <;> next heq => rw [heq]; rfl

/-- Answers are settled alike if the sinks are flushed alike. -/
theorem settle_alike {S : Session → Session → Prop} {session session' after : Session}
    {raw answer : Answer} (hflush : Session.AnsweredAlike S .flush session session')
    (hsession : S session session') (h : settle raw session = some (answer, after)) :
    ∃ after', settle raw session' = some (answer, after') ∧ S after after' := by
  cases raw with
  | error fault =>
      cases h
      exact ⟨session', rfl, hsession⟩
  | ok result =>
      unfold Session.AnsweredAlike at hflush
      unfold settle at h ⊢
      simp only at h ⊢
      generalize session.ask .flush = asked at hflush h
      generalize session'.ask .flush = asked' at hflush
      cases hflush with
      | none => cases h
      | some hasked =>
          cases hasked with
          | refused sessions =>
              cases h
              exact ⟨_, rfl, sessions⟩
          | made _ sessions =>
              cases h
              exact ⟨_, rfl, sessions⟩

/-- A run that is known by its answer and its output ends in some session. -/
theorem exists_of_observed {ending : Option (Answer × Session)} {answer : Answer}
    {bytes : List UInt8}
    (h : ending.map (fun found => (found.1, found.2.output)) = some (answer, bytes)) :
    ∃ after, ending = some (answer, after) ∧ after.output = bytes := by
  obtain ⟨⟨_, after⟩, hending, heq⟩ := Option.map_eq_some_iff.1 h
  cases heq
  exact ⟨after, hending, rfl⟩

/-- From related sessions, and on frames that are alike, the machine does what the other does, unless
it is cut short. -/
structure Follows (machine other : Machine) (L : Locals → Locals → Prop)
    (S : Session → Session → Prop) (Cut : Fault → Prop) : Prop where
  segment : machine.segment = other.segment
  lookups : machine.classFile.Parallel other.classFile Cut
  locals : Locals.Parallel L Cut
  enter : ∀ {session session'}, S session session' → ∀ name arguments,
    Step.Entered (Frame.Alike L) S (machine.enter name arguments session)
        (other.enter name arguments session') ∨
      Step.IsCutCall Cut (machine.enter name arguments session)
  found : ∀ {name entry}, machine.classFile.method? name = some entry →
    ∃ entry', other.classFile.method? name = some entry' ∧
      ∀ {session session'}, S session session' →
        S (session.announced name entry) (session'.announced name entry')
  absent : ∀ {name}, machine.classFile.method? name = none →
    other.classFile.method? name = none ∨ Cut (.method (.notFound name))
  note : ∀ {session session'}, S session session' → ∀ event,
    S (session.note event) (session'.note event)
  print : ∀ {session session'}, S session session' → ∀ value,
    Option.Rel (Step.Entered Eq S) (session.printLine value) (session'.printLine value) ∨
      ∃ printed ∈ session.printLine value, Step.IsCutCall Cut printed
  closed : ∀ {session session'}, S session session' → ∀ name,
    S (session.closed name) (session'.closed name)

namespace Follows

variable {machine other : Machine} {L : Locals → Locals → Prop} {S : Session → Session → Prop}
  {Cut : Fault → Prop} {fuel fuel' : Nat} {name : String}
  {session session' after after' : Session} {answer answer' : Answer}

/-- From frames that are alike, the steps of the machines are related. -/
theorem steps (h : machine.Follows other L S Cut) :
    Step.Simulates machine.step other.step (Frame.Alike L) S Cut where
  step {frame frame' session session'} hframe hsession := by
    obtain ⟨hprogram, hpc, hmemory⟩ := hframe
    unfold step
    rw [← hprogram, ← hpc, ← hmemory.stack, ← h.segment]
    split
    · split
      · exact .inl (.done (h.note hsession _))
      · exact .inl (.done hsession)
    · next instruction _ =>
        have hexecuting := h.note hsession (.executing frame.pc instruction frame.memory.stack)
        have hact := Instruction.act_parallel machine.segment instruction.retarget_ok h.lookups
          h.locals hmemory
        simp only
        generalize instruction.act machine.segment machine.classFile frame.memory = result at hact
        generalize instruction.act machine.segment other.classFile frame'.memory = result' at hact
        cases hact with
        | failed => exact .inl (.done hexecuting)
        | cut cuts => exact .inr ⟨_, _, rfl, cuts⟩
        | found actions =>
            apply actions.perform Memory.Related.receive _ _ hexecuting (h.print hexecuting)
              (h.enter hexecuting)
            · intro memory memory' hrelated
              exact ⟨hprogram, congrArg (· + 1) hpc, hrelated⟩
            · intro target target' memory memory' htarget hrelated
              exact ⟨hprogram, (Except.ok.inj htarget).symm, hrelated⟩
  closed name hsession := h.closed hsession name

/-- A call from outside that is not cut short is answered alike. -/
theorem invoke (h : machine.Follows other L S Cut) (hsession : S session session')
    (hinvoke : machine.invoke fuel name session = some (answer, after)) :
    (∃ after', other.invoke fuel name session' = some (answer, after') ∧ S after after') ∨
      ∃ fault, answer = .error fault ∧ Cut fault := by
  rw [Machine.invoke] at hinvoke ⊢
  obtain hentered | ⟨fault, refused, heq, hcut⟩ := h.enter hsession name []
  · generalize machine.enter name [] session = result at hentered hinvoke
    generalize other.enter name [] session' = result' at hentered
    cases hentered with
    | refused sessions =>
        cases hinvoke
        exact .inl ⟨_, rfl, sessions⟩
    | made frames sessions =>
        simp only at hinvoke ⊢
        split at hinvoke
        · simp at hinvoke
        · next hexecute =>
            cases hinvoke
            obtain ⟨left, hleft, hafter⟩ | hcut := h.steps.run frames sessions hexecute
            · rw [execute, hleft]
              exact .inl ⟨_, rfl, h.closed hafter name⟩
            · exact .inr hcut
  · rw [heq] at hinvoke
    cases hinvoke
    exact .inr ⟨fault, rfl, hcut⟩

/-- A run that is not cut short is answered alike, if the sinks are flushed alike. -/
theorem run (h : machine.Follows other L S Cut)
    (hflush : ∀ {session session'}, S session session' →
      Session.AnsweredAlike S .flush session session')
    (hsession : S session session')
    (hrun : machine.run fuel name session = some (answer, after)) :
    (∃ after', other.run fuel name session' = some (answer, after') ∧ S after after') ∨
      ∃ fault, answer = .error fault ∧ Cut fault := by
  cases hmethod : machine.classFile.method? name with
  | none =>
      rw [Machine.run, hmethod] at hrun
      cases hrun
      obtain habsent | hcut := h.absent hmethod
      · rw [Machine.run, habsent]
        exact .inl ⟨_, rfl, hsession⟩
      · exact .inr ⟨_, rfl, hcut⟩
  | some entry =>
      obtain ⟨entry', hmethod', hannounced⟩ := h.found hmethod
      rw [run_eq_bind_invoke hmethod, Option.bind_eq_some_iff] at hrun
      obtain ⟨⟨raw, last⟩, hinvoke, hsettle⟩ := hrun
      obtain ⟨last', hinvoke', hlast⟩ | ⟨fault, rfl, hcut⟩ :=
        h.invoke (hannounced hsession) hinvoke
      · rw [run_eq_bind_invoke hmethod', hinvoke']
        exact .inl (settle_alike (hflush hlast) hlast hsettle)
      · cases hsettle
        exact .inr ⟨fault, rfl, hcut⟩

/-- If the other machine's call from outside ends, so does this one: alike, or cut short with an
output that stands in the relation to the other's, which only grows. -/
theorem invoke_ends (h : machine.Follows other L S Cut) {P : List UInt8 → List UInt8 → Prop}
    (hlater : ∀ {found whole more}, P found whole → whole <+: more → P found more)
    (hstep : ∀ {frame frame' session session' fault after fuel answer' after'},
      Frame.Alike L frame frame' → S session session' →
      machine.step frame session = .done (.error fault) after → Cut fault →
      other.execute fuel frame' session' = some (answer', after') → P after.output after'.output)
    (hrefused : ∀ {session session' name fault after}, S session session' →
      machine.enter name [] session = (.error fault, after) → Cut fault →
      P after.output session'.output)
    (hsession : S session session')
    (hinvoke' : other.invoke fuel name session' = some (answer', after')) :
    ∃ answer after, machine.invoke fuel name session = some (answer, after) ∧
      (answer = answer' ∧ S after after' ∨
        ∃ fault, answer = .error fault ∧ Cut fault ∧ P after.output after'.output) := by
  have hgrows := invoke_evolves Session.evolution_output hinvoke'
  rw [Machine.invoke] at hinvoke' ⊢
  obtain hentered | ⟨fault, last, heq, hcut⟩ := h.enter hsession name []
  · generalize machine.enter name [] session = result at hentered
    generalize other.enter name [] session' = result' at hentered hinvoke'
    cases hentered with
    | refused sessions =>
        cases hinvoke'
        exact ⟨_, _, rfl, .inl ⟨rfl, sessions⟩⟩
    | made frames sessions =>
        simp only at hinvoke' ⊢
        split at hinvoke'
        · simp at hinvoke'
        · next hexecute' =>
            cases hinvoke'
            have hends := h.steps.ends (O := fun left left' => P left.output left'.output) hstep
              (fun hleft hrest => hlater hleft ((step_carries Session.evolution_output).run hrest))
              (fun _ hleft => hleft) frames sessions hexecute'
            obtain ⟨raw, left, hexecute, hraw⟩ := hends
            rw [execute, hexecute]
            refine ⟨_, _, rfl, ?_⟩
            obtain ⟨rfl, hleft⟩ | hcut := hraw
            · exact .inl ⟨rfl, h.closed hleft name⟩
            · exact .inr hcut
  · rw [heq]
    exact ⟨_, _, rfl, .inr ⟨fault, rfl, hcut, hlater (hrefused hsession heq hcut) hgrows⟩⟩

/-- The output of a run, cut short or not, begins the output of the other machine's run, if it is
not output itself that cuts a run short. -/
theorem run_output_isPrefix (h : machine.Follows other L S Cut)
    (hbegins : ∀ {session session'}, S session session' → session.output <+: session'.output)
    (hquiet : ∀ cause, ¬ Cut (.output cause)) (hsession : S session session')
    (hrun : machine.run fuel name session = some (answer, after))
    (hrun' : other.run fuel' name session' = some (answer', after')) :
    after.output <+: after'.output := by
  cases hmethod : machine.classFile.method? name with
  | none =>
      rw [Machine.run, hmethod] at hrun
      cases hrun
      exact (hbegins hsession).trans (run_evolves Session.evolution_output hrun')
  | some entry =>
      obtain ⟨entry', hmethod', hannounced⟩ := h.found hmethod
      rw [run_eq_bind_invoke hmethod, Option.bind_eq_some_iff] at hrun
      rw [run_eq_bind_invoke hmethod', Option.bind_eq_some_iff] at hrun'
      obtain ⟨⟨raw, last⟩, hinvoke, hsettle⟩ := hrun
      obtain ⟨⟨raw', last'⟩, hinvoke', hsettle'⟩ := hrun'
      rw [settle_output hsettle, settle_output hsettle']
      have hends := h.invoke_ends (P := (· <+: ·)) List.IsPrefix.trans ?_ ?_
        (hannounced hsession) hinvoke'
      · obtain ⟨_, _, hinvoke₁, hlast⟩ := hends
        cases machine.invoke_unique hinvoke hinvoke₁
        obtain ⟨-, hlast⟩ | ⟨-, -, -, hlast⟩ := hlast
        · exact hbegins hlast
        · exact hlast
      · intro frame frame' session session' fault after fuel answer' after' _ hsession hstep hcut
          hexecute
        obtain houtput | ⟨cause, rfl⟩ := step_failed_output hstep
        · rw [houtput]
          exact (hbegins hsession).trans ((step_carries Session.evolution_output).run hexecute)
        · exact absurd hcut (hquiet cause)
      · intro session session' name fault after hsession henter _
        rw [enter_output henter]
        exact hbegins hsession

end Follows

/-! ## Machines whose methods have the same code -/

/-- The methods that two machines find under a name have the same code, are announced alike, and have
room for the same arguments, unless the first is cut short. -/
structure Counterpart (machine other : Machine) (L : Locals → Locals → Prop)
    (S : Session → Session → Prop) (Cut : Fault → Prop) (name : String)
    (method method' : Method) : Prop where
  code : method.code = method'.code
  announced : ∀ {session session'}, S session session' →
    S (session.announced name method) (session'.announced name method')
  room : ∀ arguments, AgreesUnless Cut L
    (Locals.create (max machine.limits.localsCapacity method.maxLocals) arguments)
    (Locals.create (max other.limits.localsCapacity method'.maxLocals) arguments)

/-- Machines follow each other if their sessions are companions, their classes answer lookups alike,
their methods are counterparts, and lines are written alike, unless the first is cut short. -/
theorem follows_of_counterparts {machine other : Machine} {L : Locals → Locals → Prop}
    {S : Session → Session → Prop} {Cut : Fault → Prop} (hcompanions : Session.Companions S)
    (hsegment : machine.segment = other.segment)
    (hlookups : machine.classFile.Parallel other.classFile Cut) (hlocals : Locals.Parallel L Cut)
    (hdepth : machine.limits.maxCallDepth = other.limits.maxCallDepth)
    (hfound : ∀ {name method}, machine.classFile.method? name = some method →
      ∃ method', other.classFile.method? name = some method' ∧
        machine.Counterpart other L S Cut name method method')
    (habsent : ∀ {name}, machine.classFile.method? name = none →
      other.classFile.method? name = none ∨ Cut (.method (.notFound name)))
    (hprint : ∀ {session session'}, S session session' → ∀ value,
      Option.Rel (Step.Entered Eq S) (session.printLine value) (session'.printLine value) ∨
        ∃ printed ∈ session.printLine value, Step.IsCutCall Cut printed) :
    machine.Follows other L S Cut where
  segment := hsegment
  lookups := hlookups
  locals := hlocals
  enter {session session'} hsession name arguments := by
    apply entered_of_loads hsession _ _ fun hafter => hcompanions.opened hafter name
    · rw [Limits.brokenAt, Limits.brokenAt, hdepth, hcompanions.depth hsession]
    cases hmethod : machine.classFile.method? name with
    | none =>
        obtain habsent' | hcut := habsent hmethod
        · rw [Session.load, Session.load, hmethod, habsent']
          exact .inl (.refused hsession)
        · rw [Session.load, hmethod]
          exact .inr ⟨_, _, rfl, hcut⟩
    | some method =>
        obtain ⟨method', hmethod', hcounterpart⟩ := hfound hmethod
        left
        apply (hcompanions.load hmethod hmethod' hcounterpart.code hsession).mono
        rintro ⟨program, _⟩ ⟨_, _⟩ ⟨rfl, rfl, rfl⟩
        have hroom := hcounterpart.room arguments
        simp only
        generalize Locals.create _ arguments = room at hroom
        generalize Locals.create _ arguments = room' at hroom
        cases hroom with
        | failed => exact .failed
        | cut cuts => exact .cut cuts
        | found related => exact .found ⟨rfl, rfl, rfl, related⟩
  found hmethod := by
    obtain ⟨method', hmethod', hcounterpart⟩ := hfound hmethod
    exact ⟨method', hmethod', hcounterpart.announced⟩
  absent := habsent
  note := hcompanions.note
  print := hprint
  closed := hcompanions.closed

/-! ## Machines for one class -/

/-- From related sessions, the machine does what the other does for the same class, unless it is cut
short. -/
structure Simulates (machine other : Machine) (S : Session → Session → Prop)
    (Cut : Fault → Prop) : Prop where
  classFile : machine.classFile = other.classFile
  segment : machine.segment = other.segment
  enter : ∀ {session session'}, S session session' → ∀ name arguments,
    Step.Entered Eq S (machine.enter name arguments session)
        (other.enter name arguments session') ∨
      Step.IsCutCall Cut (machine.enter name arguments session)
  note : ∀ {session session'}, S session session' → ∀ event,
    S (session.note event) (session'.note event)
  ask : ∀ {session session'}, S session session' → ∀ call,
    Session.AnsweredAlike S call session session'
  closed : ∀ {session session'}, S session session' → ∀ name,
    S (session.closed name) (session'.closed name)

namespace Simulates

variable {machine other : Machine} {S : Session → Session → Prop} {Cut : Fault → Prop}
  {fuel fuel' : Nat} {name : String} {session session' after after' : Session}
  {answer answer' : Answer}

theorem follows (h : machine.Simulates other S Cut) : machine.Follows other Eq S Cut where
  segment := h.segment
  lookups := h.classFile ▸ machine.classFile.parallel_self Cut
  locals := Locals.parallel_eq Cut
  enter hsession name arguments := by
    obtain hentered | hcut := h.enter hsession name arguments
    · left
      apply hentered.mono
      rintro frame _ rfl
      exact frame.alike_self
    · exact .inr hcut
  found {name entry} hmethod := by
    refine ⟨entry, h.classFile ▸ hmethod, ?_⟩
    intro session session' hsession
    unfold Session.announced
    split
    · exact hsession
    · exact h.note hsession _
  absent hmethod := .inl (h.classFile ▸ hmethod)
  note := h.note
  print hsession value := .inl (h.ask hsession _)
  closed := h.closed

/-- Machines that are never cut short follow each other. -/
theorem flip (h : machine.Simulates other S fun _ => False) :
    other.Simulates machine (flip S) fun _ => False where
  classFile := h.classFile.symm
  segment := h.segment.symm
  enter hsession name arguments := by
    obtain hentered | ⟨_, _, _, hfalse⟩ := h.enter hsession name arguments
    · exact .inl hentered.symm
    · exact hfalse.elim
  note hsession event := h.note hsession event
  ask hsession call := (h.ask hsession call).flip
  closed hsession name := h.closed hsession name

/-- A run that is not cut short is answered alike. -/
theorem run (h : machine.Simulates other S Cut) (hsession : S session session')
    (hrun : machine.run fuel name session = some (answer, after)) :
    (∃ after', other.run fuel name session' = some (answer, after') ∧ S after after') ∨
      ∃ fault, answer = .error fault ∧ Cut fault :=
  h.follows.run (fun hsession => h.ask hsession .flush) hsession hrun

/-- The output of a run, cut short or not, begins the output of the other machine's run. -/
theorem run_output_isPrefix (h : machine.Simulates other S Cut)
    (hbegins : ∀ {session session'}, S session session' → session.output <+: session'.output)
    (hquiet : ∀ cause, ¬ Cut (.output cause)) (hsession : S session session')
    (hrun : machine.run fuel name session = some (answer, after))
    (hrun' : other.run fuel' name session' = some (answer', after')) :
    after.output <+: after'.output :=
  h.follows.run_output_isPrefix hbegins hquiet hsession hrun hrun'

/-- Machines that are never cut short answer alike, or both do not answer. -/
theorem lockstep (h : machine.Simulates other S fun _ => False)
    (hsession : S session session') (fuel : Nat) (name : String) :
    Option.Rel (fun found found' => found.1 = found'.1 ∧ S found.2 found'.2)
      (machine.run fuel name session) (other.run fuel name session') := by
  apply rel_of_matched
  · rintro ⟨answer, after⟩ hrun
    obtain ⟨after', hrun', hafter⟩ | ⟨_, _, hfalse⟩ := h.run hsession hrun
    · exact ⟨_, hrun', rfl, hafter⟩
    · exact hfalse.elim
  · rintro ⟨answer, after'⟩ hrun'
    obtain ⟨after, hrun, -⟩ | ⟨_, _, hfalse⟩ := h.flip.run hsession hrun'
    · exact ⟨_, hrun⟩
    · exact hfalse.elim

end Simulates

end Machine

end ClassVM
