import ClassVM.Machine.Fuel
import Mathlib.Data.List.Infix

/-! # From steps to runs

What one step does to the session, a whole run does, and two ways of stepping that agree on every
step agree on every run. The inductions over runs are made here, once, for frames of any kind; what
remains for a machine is to look at its steps. -/

namespace ClassVM

/-- Results that are found together, and related when they are. -/
theorem rel_of_matched {α β : Type} {R : α → β → Prop} {found : Option α} {found' : Option β}
    (hforth : ∀ a, found = some a → ∃ b, found' = some b ∧ R a b)
    (hback : ∀ b, found' = some b → ∃ a, found = some a) : Option.Rel R found found' := by
  cases found with
  | some a =>
      obtain ⟨b, rfl, hrelated⟩ := hforth a rfl
      exact .some hrelated
  | none =>
      cases found' with
      | none => exact .none
      | some b =>
          obtain ⟨a, ha⟩ := hback b rfl
          cases ha

theorem rel_mono {α β : Type} {R R' : α → β → Prop} (himp : ∀ a b, R a b → R' a b)
    {found : Option α} {found' : Option β} (h : Option.Rel R found found') :
    Option.Rel R' found found' := by
  cases h with
  | none => exact .none
  | some hrelated => exact .some (himp _ _ hrelated)

theorem rel_self {α : Type} {R : α → α → Prop} (hrefl : ∀ a, R a a) (found : Option α) :
    Option.Rel R found found := by
  cases found with
  | none => exact .none
  | some a => exact .some (hrefl a)

/-- The bytes written so far. -/
def Session.output (session : Session) : List UInt8 := session.sink.written.toList

namespace Step

variable {φ ψ : Type} {step : φ → Session → Step φ} {other : ψ → Session → Step ψ}

/-! ## What runs do to a session -/

/-- A relation between the session before and after that every step establishes, a call once its
callee has been left. -/
structure Carries (step : φ → Session → Step φ) (R : Session → Session → Prop) : Prop where
  trans : ∀ {first second third}, R first second → R second third → R first third
  done : ∀ {frame session answer after}, step frame session = .done answer after → R session after
  next : ∀ {frame session frame' after}, step frame session = .next frame' after → R session after
  call : ∀ {frame session name callee resume before after},
    step frame session = .call name callee resume before → R before after →
      R session (after.closed name)

theorem Carries.run {R : Session → Session → Prop} (h : Carries step R) {fuel : Nat} {frame : φ}
    {session after : Session} {answer : Answer}
    (hrun : run step fuel frame session = some (answer, after)) : R session after := by
  induction fuel generalizing frame session after answer with
  | zero => simp [Step.run] at hrun
  | succ fuel ih =>
      rw [Step.run] at hrun
      split at hrun
      · next hstep =>
          cases hrun
          exact h.done hstep
      · next hstep => exact h.trans (h.next hstep) (ih hrun)
      · next hstep =>
          split at hrun
          · simp at hrun
          · next hcallee =>
              cases hrun
              exact h.call hstep (ih hcallee)
          · next hcallee => exact h.trans (h.call hstep (ih hcallee)) (ih hrun)
      · simp at hrun

/-! ## Two runs -/

/-- Two steps of the same shape, with related frames and sessions, the same answers and calls of
the same methods. -/
inductive Related (F : φ → ψ → Prop) (S : Session → Session → Prop) : Step φ → Step ψ → Prop
  | done {answer session session'} (sessions : S session session') :
      Related F S (.done answer session) (.done answer session')
  | next {frame frame' session session'} (frames : F frame frame')
      (sessions : S session session') : Related F S (.next frame session) (.next frame' session')
  | call {name callee callee' resume resume' session session'} (callees : F callee callee')
      (callers : ∀ result, F (resume result) (resume' result)) (sessions : S session session') :
      Related F S (.call name callee resume session) (.call name callee' resume' session')
  | stalled : Related F S .stalled .stalled

/-- The step ends the frame with a fault for which a run may be cut short. -/
def IsCut (Cut : Fault → Prop) (result : Step φ) : Prop :=
  ∃ fault session, result = .done (.error fault) session ∧ Cut fault

/-- From related frames and sessions, the steps are related, unless the first of them cuts its run
short. -/
structure Simulates (step : φ → Session → Step φ) (other : ψ → Session → Step ψ)
    (F : φ → ψ → Prop) (S : Session → Session → Prop) (Cut : Fault → Prop) : Prop where
  step : ∀ {frame frame' session session'}, F frame frame' → S session session' →
    Related F S (step frame session) (other frame' session') ∨ IsCut Cut (step frame session)
  closed : ∀ {session session'} (name : String), S session session' →
    S (session.closed name) (session'.closed name)

variable {F : φ → ψ → Prop} {S : Session → Session → Prop} {Cut : Fault → Prop}

theorem Related.flip {result : Step φ} {result' : Step ψ} (h : Related F S result result') :
    Related (flip F) (flip S) result' result := by
  cases h with
  | done sessions => exact .done sessions
  | next frames sessions => exact .next frames sessions
  | call callees callers sessions => exact .call callees callers sessions
  | stalled => exact .stalled

theorem Simulates.related (h : Simulates step other F S fun _ => False) {frame : φ} {frame' : ψ}
    {session session' : Session} (hframe : F frame frame') (hsession : S session session') :
    Related F S (step frame session) (other frame' session') := by
  obtain hrelated | ⟨_, _, _, hfalse⟩ := h.step hframe hsession
  · exact hrelated
  · exact hfalse.elim

/-- Machines that never cut a run short simulate each other. -/
theorem Simulates.flip (h : Simulates step other F S fun _ => False) :
    Simulates other step (flip F) (flip S) fun _ => False where
  step hframe hsession := .inl (h.related hframe hsession).flip
  closed name hsession := h.closed name hsession

/-- A run that is not cut short is matched by a run of the other machine. -/
theorem Simulates.run (h : Simulates step other F S Cut) {fuel : Nat} {frame : φ} {frame' : ψ}
    {session session' after : Session} {answer : Answer} (hframe : F frame frame')
    (hsession : S session session') (hrun : run step fuel frame session = some (answer, after)) :
    (∃ after', Step.run other fuel frame' session' = some (answer, after') ∧ S after after') ∨
      ∃ fault, answer = .error fault ∧ Cut fault := by
  induction fuel generalizing frame frame' session session' after answer with
  | zero => simp [Step.run] at hrun
  | succ fuel ih =>
      rw [Step.run] at hrun
      rw [Step.run]
      obtain hrelated | ⟨fault, last, hdone, hcut⟩ := h.step hframe hsession
      · generalize hs : step frame session = result at hrelated hrun
        generalize ho : other frame' session' = result' at hrelated
        cases hrelated with
        | done sessions =>
            cases hrun
            exact .inl ⟨_, rfl, sessions⟩
        | next frames sessions => exact ih frames sessions hrun
        | call callees callers sessions =>
            simp only at hrun ⊢
            split at hrun
            · simp at hrun
            · next hcallee =>
                cases hrun
                obtain ⟨after', hcallee', hafter⟩ | ⟨fault, heq, hcut⟩ := ih callees sessions hcallee
                · exact .inl ⟨_, by rw [hcallee'], h.closed _ hafter⟩
                · exact .inr ⟨fault, heq, hcut⟩
            · next hcallee =>
                obtain ⟨after', hcallee', hafter⟩ | ⟨fault, heq, -⟩ := ih callees sessions hcallee
                · rw [hcallee']
                  exact ih (callers _) (h.closed _ hafter) hrun
                · cases heq
        | stalled => cases hrun
      · rw [hdone] at hrun
        cases hrun
        exact .inr ⟨fault, rfl, hcut⟩

/-- If the other machine's run ends, so does this one: alike, or cut short in a session that stands
in the relation to the other's last. The relation has to hold where a step is cut short, and to stay
as the other machine goes on and methods are left. -/
theorem Simulates.ends (h : Simulates step other F S Cut) {O : Session → Session → Prop}
    (hcut : ∀ {frame frame' session session' fault after fuel answer' after'}, F frame frame' →
      S session session' → step frame session = .done (.error fault) after → Cut fault →
      Step.run other fuel frame' session' = some (answer', after') → O after after')
    (hlater : ∀ {left frame' session' fuel answer' after'}, O left session' →
      Step.run other fuel frame' session' = some (answer', after') → O left after')
    (hclosed : ∀ {left left'} (name : String), O left left' →
      O (left.closed name) (left'.closed name))
    {fuel : Nat} {frame : φ} {frame' : ψ} {session session' after' : Session} {answer' : Answer}
    (hframe : F frame frame') (hsession : S session session')
    (hrun' : Step.run other fuel frame' session' = some (answer', after')) :
    ∃ answer after, Step.run step fuel frame session = some (answer, after) ∧
      (answer = answer' ∧ S after after' ∨
        ∃ fault, answer = .error fault ∧ Cut fault ∧ O after after') := by
  induction fuel generalizing frame frame' session session' after' answer' with
  | zero => simp [Step.run] at hrun'
  | succ fuel ih =>
      obtain hrelated | ⟨fault, last, hdone, hfault⟩ := h.step hframe hsession
      · rw [Step.run] at hrun' ⊢
        generalize step frame session = result at hrelated
        generalize other frame' session' = result' at hrelated hrun'
        cases hrelated with
        | done sessions =>
            cases hrun'
            exact ⟨_, _, rfl, .inl ⟨rfl, sessions⟩⟩
        | next frames sessions => exact ih frames sessions hrun'
        | @call name callee callee' resume resume' middle middle' callees callers sessions =>
            simp only at hrun' ⊢
            split at hrun'
            · simp at hrun'
            · next hcallee' =>
                cases hrun'
                obtain ⟨_, left, hcallee, ⟨rfl, hleft⟩ | ⟨fault, rfl, hfault, hleft⟩⟩ :=
                  ih callees sessions hcallee'
                · rw [hcallee]
                  exact ⟨_, _, rfl, .inl ⟨rfl, h.closed name hleft⟩⟩
                · rw [hcallee]
                  exact ⟨_, _, rfl, .inr ⟨fault, rfl, hfault, hclosed name hleft⟩⟩
            · next hcallee' =>
                obtain ⟨_, left, hcallee, ⟨rfl, hleft⟩ | ⟨fault, rfl, hfault, hleft⟩⟩ :=
                  ih callees sessions hcallee'
                · rw [hcallee]
                  exact ih (callers _) (h.closed name hleft) hrun'
                · -- The callee was cut short, so the caller goes no further; the other one does.
                  rw [hcallee]
                  exact ⟨_, _, rfl, .inr ⟨fault, rfl, hfault, hlater (hclosed name hleft) hrun'⟩⟩
        | stalled => cases hrun'
      · refine ⟨.error fault, last, ?_, .inr ⟨fault, rfl, hfault, ?_⟩⟩
        · rw [Step.run, hdone]
        · exact hcut hframe hsession hdone hfault hrun'

/-- Two machines that agree on every step agree on every run, also on those without an answer. -/
theorem Simulates.lockstep (h : Simulates step other F S fun _ => False) {frame : φ} {frame' : ψ}
    {session session' : Session} (hframe : F frame frame') (hsession : S session session')
    (fuel : Nat) :
    Option.Rel (fun found found' => found.1 = found'.1 ∧ S found.2 found'.2)
      (Step.run step fuel frame session) (Step.run other fuel frame' session') := by
  apply rel_of_matched
  · rintro ⟨answer, after⟩ hrun
    obtain ⟨after', hrun', hafter⟩ | ⟨_, _, hfalse⟩ := h.run hframe hsession hrun
    · exact ⟨_, hrun', rfl, hafter⟩
    · exact hfalse.elim
  · rintro ⟨answer, after'⟩ hrun'
    obtain ⟨after, hrun, -⟩ | ⟨_, _, hfalse⟩ := h.flip.run hframe hsession hrun'
    · exact ⟨_, hrun⟩
    · exact hfalse.elim

/-! ## Frames on the way -/

/-- Running the one frame comes to the other, in the same method, in a method that it calls, or
after such a method has been left. -/
inductive Reaches (step : φ → Session → Step φ) : φ → Session → φ → Session → Prop
  | here {frame session} : Reaches step frame session frame session
  | next {frame session frame' session' last final}
      (moves : step frame session = .next frame' session')
      (tail : Reaches step frame' session' last final) : Reaches step frame session last final
  | enter {frame session name callee resume session' last final}
      (calls : step frame session = .call name callee resume session')
      (tail : Reaches step callee session' last final) : Reaches step frame session last final
  | resume {frame session name callee resume session' fuel result after last final}
      (calls : step frame session = .call name callee resume session')
      (returns : Step.run step fuel callee session' = some (.ok result, after))
      (tail : Reaches step (resume result) (after.closed name) last final) :
      Reaches step frame session last final

/-- Whatever frame one machine comes to, the other comes to a related one. -/
theorem Reaches.simulated (h : Simulates step other F S fun _ => False) {frame last : φ}
    {session final : Session} (hreach : Reaches step frame session last final) {frame' : ψ}
    {session' : Session} (hframe : F frame frame') (hsession : S session session') :
    ∃ last' final', Reaches other frame' session' last' final' ∧ F last last' ∧ S final final' := by
  induction hreach generalizing frame' session' with
  | here => exact ⟨frame', session', .here, hframe, hsession⟩
  | next moves _ ih =>
      have hrelated := h.related hframe hsession
      rw [moves] at hrelated
      generalize ho : other frame' session' = result' at hrelated
      cases hrelated with
      | next frames sessions =>
          obtain ⟨last', final', htail, hlast⟩ := ih frames sessions
          exact ⟨last', final', .next ho htail, hlast⟩
  | enter calls _ ih =>
      have hrelated := h.related hframe hsession
      rw [calls] at hrelated
      generalize ho : other frame' session' = result' at hrelated
      cases hrelated with
      | call callees _ sessions =>
          obtain ⟨last', final', htail, hlast⟩ := ih callees sessions
          exact ⟨last', final', .enter ho htail, hlast⟩
  | resume calls returns _ ih =>
      have hrelated := h.related hframe hsession
      rw [calls] at hrelated
      generalize ho : other frame' session' = result' at hrelated
      cases hrelated with
      | call callees callers sessions =>
          obtain ⟨after', hreturns, hafter⟩ | ⟨_, _, hfalse⟩ := h.run callees sessions returns
          · obtain ⟨last', final', htail, hlast⟩ := ih (callers _) (h.closed _ hafter)
            exact ⟨last', final', .resume ho hreturns htail, hlast⟩
          · exact hfalse.elim

/-! ## Carrying out actions -/

/-- Two attempts, at a call or at a line of output, that are refused for the same reason or made with
related results. -/
inductive Entered (F : φ → ψ → Prop) (S : Session → Session → Prop) :
    Except Fault φ × Session → Except Fault ψ × Session → Prop
  | refused {fault session session'} (sessions : S session session') :
      Entered F S (.error fault, session) (.error fault, session')
  | made {frame frame' session session'} (frames : F frame frame')
      (sessions : S session session') : Entered F S (.ok frame, session) (.ok frame', session')

theorem Entered.symm {result result' : Except Fault φ × Session} (h : Entered Eq S result result') :
    Entered Eq (flip S) result' result := by
  cases h with
  | refused sessions => exact .refused sessions
  | made frames sessions => exact .made frames.symm sessions

theorem Entered.mono {F F' : φ → ψ → Prop} (himp : ∀ {frame frame'}, F frame frame' → F' frame frame')
    {result : Except Fault φ × Session} {result' : Except Fault ψ × Session}
    (h : Entered F S result result') : Entered F' S result result' := by
  cases h with
  | refused sessions => exact .refused sessions
  | made frames sessions => exact .made (himp frames) sessions

theorem entered_of_eq {result result' : Except Fault φ × Session} (hresult : result.1 = result'.1)
    (hsession : S result.2 result'.2) : Entered Eq S result result' := by
  obtain ⟨outcome, session⟩ := result
  obtain ⟨outcome', session'⟩ := result'
  cases hresult
  cases outcome with
  | error fault => exact .refused hsession
  | ok frame => exact .made rfl hsession

/-- The attempt is refused for a reason that cuts a run short. -/
def IsCutCall (Cut : Fault → Prop) (result : Except Fault φ × Session) : Prop :=
  ∃ fault session, result = (.error fault, session) ∧ Cut fault

end Step

namespace Action

variable {τ σ φ ψ : Type} {T : τ → σ → Prop} {M : Memory → Memory → Prop}

/-- The same action, but for the targets of jumps and for what the memories may differ in. -/
inductive Related (T : τ → σ → Prop) (M : Memory → Memory → Prop) : Action τ → Action σ → Prop
  | advance {memory memory'} (memories : M memory memory') :
      Related T M (.advance memory) (.advance memory')
  | jump {target target' memory memory'} (targets : T target target')
      (memories : M memory memory') : Related T M (.jump target memory) (.jump target' memory')
  | print {value memory memory'} (memories : M memory memory') :
      Related T M (.print value memory) (.print value memory')
  | call {method arguments memory memory'} (memories : M memory memory') :
      Related T M (.call method arguments memory) (.call method arguments memory')
  | finish {result} : Related T M (.finish result) (.finish result)

/-- Carrying out related actions gives related steps, unless a line is not taken or a call is
refused for a reason that cuts a run short. -/
theorem Related.perform {action : Action τ} {action' : Action σ} (h : Related T M action action')
    {F : φ → ψ → Prop} {S : Session → Session → Prop} {Cut : Fault → Prop}
    {next : Memory → φ} {next' : Memory → ψ} {jump : τ → Memory → φ} {jump' : σ → Memory → ψ}
    {enter : String → List Value → Session → Except Fault φ × Session}
    {enter' : String → List Value → Session → Except Fault ψ × Session}
    {session session' : Session}
    (hreceive : ∀ {memory memory'}, M memory memory' → ∀ result,
      M (memory.receive result) (memory'.receive result))
    (hnext : ∀ {memory memory'}, M memory memory' → F (next memory) (next' memory'))
    (hjump : ∀ {target target' memory memory'}, T target target' → M memory memory' →
      F (jump target memory) (jump' target' memory'))
    (hsession : S session session')
    (hprint : ∀ value,
      Option.Rel (Step.Entered Eq S) (session.printLine value) (session'.printLine value) ∨
        ∃ printed ∈ session.printLine value, Step.IsCutCall Cut printed)
    (henter : ∀ name arguments,
      Step.Entered F S (enter name arguments session) (enter' name arguments session') ∨
        Step.IsCutCall Cut (enter name arguments session)) :
    Step.Related F S (action.perform next jump enter session)
        (action'.perform next' jump' enter' session') ∨
      Step.IsCut Cut (action.perform next jump enter session) := by
  cases h with
  | advance memories => exact .inl (.next (hnext memories) hsession)
  | jump targets memories => exact .inl (.next (hjump targets memories) hsession)
  | finish => exact .inl (.done hsession)
  | @print value memory memory' memories =>
      rw [Action.perform, Action.perform]
      obtain hprinted | ⟨_, hrefused, fault, after, rfl, hcut⟩ := hprint value
      · generalize session.printLine value = printed at hprinted
        generalize session'.printLine value = printed' at hprinted
        cases hprinted with
        | none => exact .inl .stalled
        | some hlines =>
            cases hlines with
            | refused sessions => exact .inl (.done sessions)
            | made _ sessions => exact .inl (.next (hnext memories) sessions)
      · rw [Option.mem_def.1 hrefused]
        exact .inr ⟨fault, after, rfl, hcut⟩
  | @call method arguments memory memory' memories =>
      rw [Action.perform, Action.perform]
      obtain hentered | ⟨fault, after, hrefused, hcut⟩ := henter method arguments
      · generalize enter method arguments session = result at hentered
        generalize enter' method arguments session' = result' at hentered
        cases hentered with
        | refused sessions => exact .inl (.done sessions)
        | made frames sessions =>
            exact .inl (.call frames (fun result => hnext (hreceive memories result)) sessions)
      · rw [hrefused]
        exact .inr ⟨fault, after, rfl, hcut⟩

end Action

end ClassVM
