import ClassVM.Proofs.Evolution

/-! # The frames that a run comes to

A run goes from frame to frame, in the method it was asked for and in those that are called. What
every step keeps holds of each frame on the way and of each value that is returned, whether the run
ends or not. If it ends, it ends in one of these frames. -/

namespace ClassVM

/-- A fault gives nothing back. -/
theorem forall_of_error {α ε : Type} {e : ε} {P : α → Prop} :
    ∀ a, (.error e : Except ε α) = .ok a → P a := by
  intro a h
  cases h

namespace Step

variable {φ : Type} {step : φ → Session → Step φ} {F : φ → Prop} {S : Session → Prop}
  {R : Option Value → Prop}

/-! ## What every step keeps -/

/-- The step leads to frames and a session with the properties, and a frame that ends well returns
what it may. A caller may rely on what its callee may return. -/
def Kept (F : φ → Prop) (S : Session → Prop) (R : Option Value → Prop) : Step φ → Prop
  | .done answer after => (∀ result, answer = .ok result → R result) ∧ S after
  | .next frame after => F frame ∧ S after
  | .call _ callee resume after => F callee ∧ S after ∧ ∀ result, R result → F (resume result)
  | .stalled => True

/-- Every step from a frame and a session with the properties keeps them. -/
structure Preserves (step : φ → Session → Step φ) (F : φ → Prop) (S : Session → Prop)
    (R : Option Value → Prop) : Prop where
  step : ∀ {frame session}, F frame → S session → Kept F S R (step frame session)
  closed : ∀ {session} (name : String), S session → S (session.closed name)

/-- What every step keeps, a run keeps that has an answer. -/
theorem Preserves.run (h : Preserves step F S R) {fuel : Nat} {frame : φ}
    {session after : Session} {answer : Answer} (hframe : F frame) (hsession : S session)
    (hrun : run step fuel frame session = some (answer, after)) :
    (∀ result, answer = .ok result → R result) ∧ S after := by
  induction fuel generalizing frame session after answer with
  | zero => simp [Step.run] at hrun
  | succ fuel ih =>
      have hstep := h.step hframe hsession
      rw [Step.run] at hrun
      split at hrun
      · next heq =>
          rw [heq] at hstep
          cases hrun
          exact hstep
      · next heq =>
          rw [heq] at hstep
          exact ih hstep.1 hstep.2 hrun
      · next name callee resume middle heq =>
          rw [heq] at hstep
          obtain ⟨hcallee, hmiddle, hresume⟩ := hstep
          split at hrun
          · simp at hrun
          · next hends =>
              have hcalled := ih hcallee hmiddle hends
              cases hrun
              exact ⟨forall_of_error, h.closed name hcalled.2⟩
          · next result left hends =>
              have hcalled := ih hcallee hmiddle hends
              exact ih (hresume result (hcalled.1 result rfl)) (h.closed name hcalled.2) hrun
      · simp at hrun

/-- What every step keeps holds wherever a run comes to, also of a run without an answer. -/
theorem Preserves.reaches (h : Preserves step F S R) {frame last : φ} {session final : Session}
    (hframe : F frame) (hsession : S session)
    (hreach : Reaches step frame session last final) : F last ∧ S final := by
  induction hreach with
  | here => exact ⟨hframe, hsession⟩
  | next moves _ ih =>
      have hstep := h.step hframe hsession
      rw [moves] at hstep
      exact ih hstep.1 hstep.2
  | enter calls _ ih =>
      have hstep := h.step hframe hsession
      rw [calls] at hstep
      exact ih hstep.1 hstep.2.1
  | resume calls returns _ ih =>
      have hstep := h.step hframe hsession
      rw [calls] at hstep
      obtain ⟨hcallee, hmiddle, hresume⟩ := hstep
      have hcalled := h.run hcallee hmiddle returns
      exact ih (hresume _ (hcalled.1 _ rfl)) (h.closed _ hcalled.2)

/-! ## Where a run ends -/

/-- The answer of a run is the answer of a frame that it comes to: of the frame itself, or, if it is
a fault, perhaps of a frame that was called. -/
theorem exists_reaches_of_run {fuel : Nat} {frame : φ} {session after : Session} {answer : Answer}
    (hrun : run step fuel frame session = some (answer, after)) :
    ∃ last final ended,
      Reaches step frame session last final ∧ step last final = .done answer ended := by
  induction fuel generalizing frame session after answer with
  | zero => simp [Step.run] at hrun
  | succ fuel ih =>
      rw [Step.run] at hrun
      split at hrun
      · next heq =>
          cases hrun
          exact ⟨frame, session, _, .here, heq⟩
      · next heq =>
          obtain ⟨last, final, ended, htail, hdone⟩ := ih hrun
          exact ⟨last, final, ended, .next heq htail, hdone⟩
      · next heq =>
          split at hrun
          · simp at hrun
          · next hends =>
              obtain ⟨last, final, ended, htail, hdone⟩ := ih hends
              cases hrun
              exact ⟨last, final, ended, .enter heq htail, hdone⟩
          · next hends =>
              obtain ⟨last, final, ended, htail, hdone⟩ := ih hrun
              exact ⟨last, final, ended, .resume heq hends htail, hdone⟩
      · simp at hrun

/-- The one frame comes right after the other: by a step, by a call, or by the return of a call. -/
inductive Precedes (step : φ → Session → Step φ) : φ → Session → φ → Session → Prop
  | next {frame session frame' session'} (moves : step frame session = .next frame' session') :
      Precedes step frame session frame' session'
  | enter {frame session name callee resume session'}
      (calls : step frame session = .call name callee resume session') :
      Precedes step frame session callee session'
  | resume {frame session name callee resume session' fuel result after}
      (calls : step frame session = .call name callee resume session')
      (returns : Step.run step fuel callee session' = some (.ok result, after)) :
      Precedes step frame session (resume result) (after.closed name)

theorem Precedes.reaches {frame frame' last : φ} {session session' final : Session}
    (hfirst : Precedes step frame session frame' session')
    (htail : Reaches step frame' session' last final) : Reaches step frame session last final := by
  cases hfirst with
  | next moves => exact .next moves htail
  | enter calls => exact .enter calls htail
  | resume calls returns => exact .resume calls returns htail

/-- Whatever a run comes to after its first frame, it comes to right after another frame. -/
theorem Reaches.exists_precedes {frame last : φ} {session final : Session}
    (hreach : Reaches step frame session last final) :
    (last = frame ∧ final = session) ∨
      ∃ before earlier, Reaches step frame session before earlier ∧
        Precedes step before earlier last final := by
  -- The relation is built from its first frame on, so the last step is found along the induction.
  have hlonger : ∀ {frame frame' last : φ} {session session' final : Session},
      Precedes step frame session frame' session' →
      ((last = frame' ∧ final = session') ∨
        ∃ before earlier, Reaches step frame' session' before earlier ∧
          Precedes step before earlier last final) →
      ∃ before earlier, Reaches step frame session before earlier ∧
        Precedes step before earlier last final := by
    intro frame frame' last session session' final hfirst htail
    obtain ⟨hlast, hfinal⟩ | ⟨before, earlier, hbefore, hprecedes⟩ := htail
    · subst hlast hfinal
      exact ⟨frame, session, .here, hfirst⟩
    · exact ⟨before, earlier, hfirst.reaches hbefore, hprecedes⟩
  induction hreach with
  | here => exact .inl ⟨rfl, rfl⟩
  | next moves _ ih => exact .inr (hlonger (.next moves) ih)
  | enter calls _ ih => exact .inr (hlonger (.enter calls) ih)
  | resume calls returns _ ih => exact .inr (hlonger (.resume calls returns) ih)

end Step

/-- The session in which a method is called from outside. A method that is not static is
reported. -/
def Session.announced (session : Session) (name : String) (entry : Method) : Session :=
  if entry.isStatic then session else session.note (.notStatic name)

namespace Machine

/-! ## All that a step can come to -/

/-- All that carrying out an action can come to. -/
inductive Performs (machine : Machine) (frame : Frame) (session : Session) :
    Action Nat → Step Frame → Prop
  | advanced {memory : Memory} :
      Performs machine frame session (.advance memory) (.next (frame.next memory) session)
  | jumped {target : Nat} {memory : Memory} :
      Performs machine frame session (.jump target memory)
        (.next (frame.goto target memory) session)
  | printed {value : Value} {memory : Memory} {after : Session}
      (prints : session.printLine value = some (.ok (), after)) :
      Performs machine frame session (.print value memory) (.next (frame.next memory) after)
  | unprinted {value : Value} {memory : Memory} {fault : Fault} {after : Session}
      (prints : session.printLine value = some (.error fault, after)) :
      Performs machine frame session (.print value memory) (.done (.error fault) after)
  | stalled {value : Value} {memory : Memory} (waits : session.printLine value = none) :
      Performs machine frame session (.print value memory) .stalled
  | called {name : String} {arguments : List Value} {memory : Memory} {callee : Frame}
      {after : Session} (enters : machine.enter name arguments session = (.ok callee, after)) :
      Performs machine frame session (.call name arguments memory)
        (.call name callee (fun result => frame.next (memory.receive result)) after)
  | refused {name : String} {arguments : List Value} {memory : Memory} {fault : Fault}
      {after : Session} (enters : machine.enter name arguments session = (.error fault, after)) :
      Performs machine frame session (.call name arguments memory) (.done (.error fault) after)
  | finished {result : Option Value} :
      Performs machine frame session (.finish result) (.done (.ok result) session)

/-- All that a step can come to: the frame is at its end, or beyond it, or it has an instruction
that fails or asks for an action. -/
inductive Steps (machine : Machine) (frame : Frame) (session : Session) : Step Frame → Prop
  | fellOff (absent : frame.program[frame.pc]? = none) (atEnd : frame.pc = frame.program.size) :
      Steps machine frame session (.done (.ok none) (session.note .noReturn))
  | lost (absent : frame.program[frame.pc]? = none) (beyond : frame.pc ≠ frame.program.size) :
      Steps machine frame session (.done (.error (.invalidProgramCounter frame.pc)) session)
  | failed {instruction : Instruction Nat} {fault : Fault}
      (fetched : frame.program[frame.pc]? = some instruction)
      (acts : instruction.act machine.segment machine.classFile frame.memory = .error fault) :
      Steps machine frame session
        (.done (.error fault) (session.note (.executing frame.pc instruction frame.memory.stack)))
  | acted {instruction : Instruction Nat} {action : Action Nat} {result : Step Frame}
      (fetched : frame.program[frame.pc]? = some instruction)
      (acts : instruction.act machine.segment machine.classFile frame.memory = .ok action)
      (performs : machine.Performs frame
        (session.note (.executing frame.pc instruction frame.memory.stack)) action result) :
      Steps machine frame session result

variable {machine : Machine} {name : String} {session after : Session}

theorem performs_perform (machine : Machine) (frame : Frame) (session : Session)
    (action : Action Nat) :
    machine.Performs frame session action
      (action.perform frame.next frame.goto machine.enter session) := by
  cases action with
  | advance memory => exact .advanced
  | jump target memory => exact .jumped
  | finish result => exact .finished
  | print value memory =>
      rw [Action.perform]
      split
      · next heq => exact .stalled heq
      · next heq => exact .unprinted heq
      · next heq => exact .printed heq
  | call method arguments memory =>
      rw [Action.perform]
      split
      · next heq => exact .refused heq
      · next heq => exact .called heq

theorem steps_step (machine : Machine) (frame : Frame) (session : Session) :
    machine.Steps frame session (machine.step frame session) := by
  unfold step
  split
  · next habsent =>
      split
      · next hend => exact .fellOff habsent hend
      · next hbeyond => exact .lost habsent hbeyond
  · next hfetched =>
      simp only
      split
      · next hacts => exact .failed hfetched hacts
      · next hacts => exact .acted hfetched hacts (performs_perform machine frame _ _)

/-! ## All that a run can come to -/

/-- All that a run can come to: there is no such method, or its call is refused, or its frame runs
to its end. -/
inductive Ends (machine : Machine) (fuel : Nat) (name : String) (session : Session) :
    Answer → Session → Prop
  | notFound (absent : machine.classFile.method? name = none) :
      Ends machine fuel name session (.error (.method (.notFound name))) session
  | refused {entry : Method} {fault : Fault} {after : Session}
      (found : machine.classFile.method? name = some entry)
      (enters : machine.enter name [] (session.announced name entry) = (.error fault, after)) :
      Ends machine fuel name session (.error fault) after
  | executed {entry : Method} {first : Frame} {opened : Session} {raw answer : Answer}
      {ended after : Session} (found : machine.classFile.method? name = some entry)
      (enters : machine.enter name [] (session.announced name entry) = (.ok first, opened))
      (executes : machine.execute fuel first opened = some (raw, ended))
      (settles : settle raw (ended.closed name) = some (answer, after)) :
      Ends machine fuel name session answer after

theorem ends_of_run {fuel : Nat} {answer : Answer}
    (hrun : machine.run fuel name session = some (answer, after)) :
    machine.Ends fuel name session answer after := by
  unfold run at hrun
  split at hrun
  · next habsent =>
      cases hrun
      exact .notFound habsent
  · next entry hfound =>
      simp only [invoke] at hrun
      split at hrun
      · simp at hrun
      · next hinvoke =>
          split at hinvoke
          · next henter =>
              cases hinvoke
              cases hrun
              exact .refused hfound henter
          · next henter =>
              split at hinvoke
              · simp at hinvoke
              · next hexecute =>
                  cases hinvoke
                  exact .executed hfound henter hexecute hrun

/-- Running the method comes to the frame, with the session as it then is. -/
def Visits (machine : Machine) (name : String) (session : Session) (frame : Frame)
    (final : Session) : Prop :=
  ∃ entry first opened, machine.classFile.method? name = some entry ∧
    machine.enter name [] (session.announced name entry) = (.ok first, opened) ∧
    Step.Reaches machine.step first opened frame final

/-- What every step keeps, and what holds when a method is called from outside. -/
structure Maintains (machine : Machine) (F : Frame → Prop) (S : Session → Prop)
    (R : Option Value → Prop) : Prop where
  step : ∀ {frame session result}, F frame → S session → machine.Steps frame session result →
    result.Kept F S R
  closed : ∀ {session}, S session → ∀ name, S (session.closed name)
  note : ∀ {session}, S session → ∀ event, S (session.note event)
  flush : ∀ {session result after}, S session → session.ask .flush = some (result, after) → S after
  enter : ∀ {session name result after}, S session →
    machine.enter name [] session = (result, after) →
      (∀ frame, result = .ok frame → F frame) ∧ S after

namespace Maintains

variable {F : Frame → Prop} {S : Session → Prop} {R : Option Value → Prop}

theorem preserves (h : machine.Maintains F S R) : Step.Preserves machine.step F S R where
  step hframe hsession := h.step hframe hsession (machine.steps_step _ _)
  closed name hsession := h.closed hsession name

theorem announced (h : machine.Maintains F S R) (hsession : S session) (name : String)
    (entry : Method) : S (session.announced name entry) := by
  unfold Session.announced
  split
  · exact hsession
  · exact h.note hsession _

theorem visits (h : machine.Maintains F S R) (hsession : S session) {frame : Frame}
    {final : Session} (hvisits : machine.Visits name session frame final) :
    F frame ∧ S final := by
  obtain ⟨entry, first, opened, -, henter, hreach⟩ := hvisits
  have hentered := h.enter (h.announced hsession name entry) henter
  exact h.preserves.reaches (hentered.1 first rfl) hentered.2 hreach

theorem run (h : machine.Maintains F S R) (hsession : S session) {fuel : Nat} {answer : Answer}
    (hrun : machine.run fuel name session = some (answer, after)) :
    (∀ result, answer = .ok result → R result) ∧ S after := by
  cases ends_of_run hrun with
  | notFound _ => exact ⟨forall_of_error, hsession⟩
  | @refused entry fault after _ enters =>
      have hentered := h.enter (h.announced hsession name entry) enters
      exact ⟨forall_of_error, hentered.2⟩
  | @executed entry first opened raw answer ended after _ enters executes settles =>
      have hentered := h.enter (h.announced hsession name entry) enters
      have hended := h.preserves.run (hentered.1 first rfl) hentered.2 executes
      have hclosed := h.closed hended.2 name
      cases settles_of_settle settles with
      | failed => exact ⟨hended.1, hclosed⟩
      | flushed flushes => exact ⟨hended.1, h.flush hclosed flushes⟩
      | unflushed flushes => exact ⟨forall_of_error, h.flush hclosed flushes⟩

end Maintains

end Machine

end ClassVM
