import ClassVM.Proofs.CallBrackets

/-! # Bounded programs end

If every branch leads forward and the depth of calls is limited, then every frame that comes after
another has less ahead of it: fewer instructions in the same method, or fewer calls that may still
be made. So every run ends, also if methods call each other in circles, and a bound on its fuel can
be read off the class and the limit. All that can hold a run up is a sink that does not answer. -/

namespace ClassVM

/-! ## A measure for runs -/

namespace Step

variable {φ : Type} {step : φ → Session → Step φ} {F : φ → Prop} {S : Session → Prop}
  {R : Option Value → Prop} {ahead : φ → Session → Nat}

/-- If every frame that comes right after another has less ahead of it, then a run ends that has
more fuel than its first frame has ahead of it, unless it comes to a step that never ends. -/
theorem Preserves.exists_run (h : Preserves step F S R)
    (hless : ∀ {frame session frame' session'}, F frame → S session →
      Precedes step frame session frame' session' → ahead frame' session' < ahead frame session)
    {fuel : Nat} {frame : φ} {session : Session} (hframe : F frame) (hsession : S session)
    (hfuel : ahead frame session < fuel) :
    (∃ answer after, Step.run step fuel frame session = some (answer, after)) ∨
      ∃ last final, Reaches step frame session last final ∧ step last final = .stalled := by
  induction fuel generalizing frame session with
  | zero => omega
  | succ fuel ih =>
      have hstep := h.step hframe hsession
      rw [Step.run]
      split
      · exact .inl ⟨_, _, rfl⟩
      · next heq =>
          rw [heq] at hstep
          have hnext := hless hframe hsession (.next heq)
          obtain hends | ⟨last, final, htail, hstalled⟩ := ih hstep.1 hstep.2 (by omega)
          · exact .inl hends
          · exact .inr ⟨last, final, .next heq htail, hstalled⟩
      · next name callee resume middle heq =>
          rw [heq] at hstep
          obtain ⟨hcallee, hmiddle, hresume⟩ := hstep
          have henter := hless hframe hsession (.enter heq)
          obtain ⟨answer, after, hends⟩ | ⟨last, final, htail, hstalled⟩ :=
            ih hcallee hmiddle (by omega)
          · have hcalled := h.run hcallee hmiddle hends
            rw [hends]
            cases answer with
            | error fault => exact .inl ⟨_, _, rfl⟩
            | ok result =>
                have hback := hless hframe hsession (.resume heq hends)
                have hresumed := hresume result (hcalled.1 result rfl)
                obtain hrest | ⟨last, final, htail, hstalled⟩ :=
                  ih hresumed (h.closed name hcalled.2) (by omega)
                · exact .inl hrest
                · exact .inr ⟨last, final, .resume heq hends htail, hstalled⟩
          · exact .inr ⟨last, final, .enter heq htail, hstalled⟩
      · next heq => exact .inr ⟨frame, session, .here, heq⟩

end Step

/-! ## Sinks that answer -/

/-- Every call of the sink returns, whatever it was asked before. -/
def Sink.Returns (sink : Sink) : Prop :=
  ∀ past call, (sink.answer past call).isSome

theorem Sink.NeverFails.returns {sink : Sink} (h : sink.NeverFails) : sink.Returns := by
  intro past call
  rw [h past call]
  rfl

theorem Sink.Returns.of_answer_eq {sink sink' : Sink} (h : sink.Returns)
    (hanswer : sink'.answer = sink.answer) : sink'.Returns := by
  rw [Returns, hanswer]
  exact h

theorem Session.ask_ne_none {session : Session} (h : session.sink.Returns) (call : Sink.Call) :
    session.ask call ≠ none := by
  have hanswer := h session.sink.toPast call
  unfold ask Sink.ask
  cases hreply : session.sink.answer session.sink.toPast call with
  | none => simp [hreply] at hanswer
  | some reply => cases reply <;> simp

namespace Machine

/-- The run waits for its sink for ever, while it writes a line or flushes in the end. -/
inductive Stalls (machine : Machine) (name : String) (session : Session) : Prop
  | printing {frame : Frame} {final : Session} (visits : machine.Visits name session frame final)
      (waits : machine.step frame final = .stalled) : Stalls machine name session
  | flushing {entry : Method} {fuel : Nat} {result : Option Value} {ended : Session}
      (found : machine.classFile.method? name = some entry)
      (invokes : machine.invoke fuel name (session.announced name entry) =
        some (.ok result, ended))
      (waits : ended.ask .flush = none) : Stalls machine name session

/-- Steps leave it to the sink how it answers. -/
theorem preserves_answer (machine : Machine) (answer : Sink.Past → Sink.Call → Option Sink.Reply) :
    Step.Preserves machine.step (fun _ => True) (fun session => session.sink.answer = answer)
      fun _ => True where
  step {frame session} _ hsession := by
    have hevolved := machine.step_evolved Session.evolution_sink frame session
    generalize machine.step frame session = result at hevolved ⊢
    cases result with
    | done _ after =>
        have hafter : after.sink.answer = session.sink.answer := hevolved
        exact ⟨fun _ _ => trivial, hafter.trans hsession⟩
    | next _ after =>
        have hafter : after.sink.answer = session.sink.answer := hevolved
        exact ⟨trivial, hafter.trans hsession⟩
    | call _ _ _ _ =>
        obtain ⟨before, hbefore, rfl⟩ := hevolved
        exact ⟨trivial, hbefore.trans hsession, fun _ _ => trivial⟩
    | stalled => trivial
  closed _ hsession := hsession

theorem step_ne_stalled {machine : Machine} {frame : Frame} {session : Session}
    (h : session.sink.Returns) : machine.step frame session ≠ .stalled := by
  intro hstep
  have hsteps := machine.steps_step frame session
  rw [hstep] at hsteps
  cases hsteps with
  | acted _ _ performs =>
      cases performs with
      | stalled waits =>
          refine Session.ask_ne_none ?_ _ waits
          exact h

/-- A sink whose calls return holds no run up. -/
theorem not_stalls_of_returns {machine : Machine} {name : String} {session : Session}
    (h : session.sink.Returns) : ¬ machine.Stalls name session := by
  have hannounced : ∀ entry, (session.announced name entry).sink = session.sink := by
    intro entry
    unfold Session.announced
    split <;> rfl
  intro hstalls
  cases hstalls with
  | @printing frame final visits waits =>
      obtain ⟨entry, first, opened, -, henter, hreach⟩ := visits
      obtain ⟨before, hbefore, rfl⟩ := enter_evolves Session.evolution_sink henter
      rw [hannounced] at hbefore
      have hopened : (before.opened name).sink.answer = session.sink.answer := hbefore
      have hfinal := ((machine.preserves_answer _).reaches trivial hopened hreach).2
      exact step_ne_stalled (h.of_answer_eq hfinal) waits
  | @flushing entry fuel result ended _ invokes waits =>
      have hended := invoke_evolves Session.evolution_sink invokes
      rw [hannounced] at hended
      exact Session.ask_ne_none (h.of_answer_eq hended) .flush waits

end Machine

/-! ## Programs without loops -/

/-- Every branch leads to an instruction behind it. -/
def Code.Forward (instructions : List (Instruction Nat)) : Prop :=
  ∀ index (_ : index < instructions.length), ∀ target ∈ instructions[index].target?, index < target

instance (instructions : List (Instruction Nat)) : Decidable (Code.Forward instructions) :=
  inferInstanceAs (Decidable (∀ index (_ : index < instructions.length),
    ∀ target ∈ instructions[index].target?, index < target))

namespace ClassFile

/-- In every method whose code can be decoded, every branch leads forward. -/
def Forward (classFile : ClassFile) : Prop :=
  ∀ method ∈ classFile.methods, ∀ instructions ∈ (Code.decode method.code).outcome.toOption,
    Code.Forward instructions

instance (classFile : ClassFile) : Decidable classFile.Forward :=
  inferInstanceAs (Decidable (∀ method ∈ classFile.methods,
    ∀ instructions ∈ (Code.decode method.code).outcome.toOption, Code.Forward instructions))

/-- The number of bytes of the longest code of a method. -/
def longestCode (classFile : ClassFile) : Nat :=
  (classFile.methods.map fun method => method.code.length).max?.getD 0

theorem length_code_le {classFile : ClassFile} {method : Method}
    (h : method ∈ classFile.methods) : method.code.length ≤ classFile.longestCode :=
  List.le_max?_getD_of_mem (List.mem_map_of_mem h)

end ClassFile

namespace Code

theorem Covers.length_le {cursor : Cursor} {located : List Located} (h : Covers cursor located) :
    located.length ≤ cursor.remaining := by
  induction h with
  | nil _ => exact Nat.zero_le _
  | cons reads _ ih => exact Nat.lt_of_le_of_lt ih (remaining_readOne_lt reads)

/-- Code has no more instructions than bytes. -/
theorem length_le_of_decode {code : List UInt8} {instructions : List (Instruction Nat)}
    (h : (decode code).outcome = .ok instructions) : instructions.length ≤ code.length := by
  obtain ⟨located, hscan, hresolve⟩ := outcome_decode_eq_ok_iff.1 h
  have hlength : located.length = instructions.length := (mapM_eq_ok_iff.1 hresolve).length_eq
  have hcovers : Covers (.ofBytes code) located := outcome_sweep_eq_ok_iff.1 hscan
  rw [← hlength]
  exact hcovers.length_le

end Code

namespace Frame.Inside

variable {classFile : ClassFile} {frame : Frame} {instruction : Instruction Nat} {target : Nat}

theorem size_le (h : frame.Inside classFile) : frame.program.size ≤ classFile.longestCode := by
  obtain ⟨method, hmethod, hdecode⟩ := h.program
  have hlength := Code.length_le_of_decode hdecode
  rw [Array.length_toList] at hlength
  exact Nat.le_trans hlength (ClassFile.length_code_le hmethod)

theorem lt_target (h : frame.Inside classFile) (hforward : classFile.Forward)
    (hfetch : frame.program[frame.pc]? = some instruction)
    (htarget : instruction.target? = some target) : frame.pc < target := by
  obtain ⟨method, hmethod, hdecode⟩ := h.program
  have hcode := hforward method hmethod frame.program.toList (by rw [hdecode]; rfl)
  obtain ⟨hlt, rfl⟩ := Array.getElem?_eq_some_iff.1 hfetch
  exact hcode frame.pc hlt target htarget

end Frame.Inside

/-! ## Runs -/

namespace Machine

variable {machine : Machine} {frame frame' : Frame} {session session' : Session}

/-- A frame that comes right after another is further on in the same method, with as many methods
open, or it is the frame of a call that the limit allows. -/
theorem further_or_deeper (hforward : machine.classFile.Forward)
    (hframe : frame.Inside machine.classFile)
    (hprecedes : Step.Precedes machine.step frame session frame' session') :
    (frame'.program = frame.program ∧ frame.pc < frame.program.size ∧ frame.pc < frame'.pc ∧
        session'.depth = session.depth) ∨
      (machine.limits.brokenAt session.depth = none ∧ session'.depth = session.depth + 1) := by
  have hdepth := machine.carries_depth
  have hsteps := machine.steps_step frame session
  cases hprecedes with
  | next moves =>
      have hsame := hdepth.next moves
      rw [moves] at hsteps
      cases hsteps with
      | acted fetched acts performs =>
          have hlt := (Array.getElem?_eq_some_iff.1 fetched).1
          cases performs with
          | advanced => exact .inl ⟨rfl, hlt, Nat.lt_succ_self _, hsame⟩
          | printed _ => exact .inl ⟨rfl, hlt, Nat.lt_succ_self _, hsame⟩
          | jumped =>
              have htarget := (Instruction.acts_of_act acts).target?_eq
              exact .inl ⟨rfl, hlt, hframe.lt_target hforward fetched htarget, hsame⟩
  | enter calls =>
      have hcalls := machine.step_calls frame session
      rw [calls] at hcalls
      obtain ⟨before, hbefore, hallowed, rfl⟩ := hcalls
      rw [hbefore.depth] at hallowed
      exact .inr ⟨hallowed, congrArg (· + 1) hbefore.depth⟩
  | @resume name callee resume opened fuel result after calls returns =>
      have hsame := hdepth.call calls (hdepth.run returns)
      rw [calls] at hsteps
      cases hsteps with
      | acted fetched acts performs =>
          have hlt := (Array.getElem?_eq_some_iff.1 fetched).1
          cases performs with
          | called _ => exact .inl ⟨rfl, hlt, Nat.lt_succ_self _, hsame⟩

/-- What a frame has ahead of it: the instructions that are left, and the calls that the limit still
allows inside of one another, each of a method of the greatest length. -/
def ahead (longest limit : Nat) (frame : Frame) (session : Session) : Nat :=
  (limit - session.depth) * (longest + 1) + (frame.program.size - frame.pc)

/-- A call that the limit allows leaves less ahead, whatever its frame has ahead of it. -/
theorem ahead_lt_of_deeper {limit : Nat} (hframe : frame'.Inside machine.classFile)
    (hlimit : machine.limits.maxCallDepth = some limit)
    (hallowed : machine.limits.brokenAt session.depth = none)
    (hdeeper : session'.depth = session.depth + 1) :
    ahead machine.classFile.longestCode limit frame' session' <
      (limit - session.depth) * (machine.classFile.longestCode + 1) := by
  have hbelow := Limits.lt_of_brokenAt hallowed hlimit
  have hsize := hframe.size_le
  have hone : limit - session.depth = limit - session'.depth + 1 := by omega
  rw [ahead, hone, Nat.succ_mul]
  omega

/-- Every frame that comes right after another has less ahead of it. -/
theorem ahead_lt_of_precedes {limit : Nat} (hforward : machine.classFile.Forward)
    (hlimit : machine.limits.maxCallDepth = some limit)
    (hframe : frame.Inside machine.classFile) (hframe' : frame'.Inside machine.classFile)
    (hprecedes : Step.Precedes machine.step frame session frame' session') :
    ahead machine.classFile.longestCode limit frame' session' <
      ahead machine.classFile.longestCode limit frame session := by
  obtain ⟨hprogram, hlt, hfurther, hdepth⟩ | ⟨hallowed, hdeeper⟩ :=
    further_or_deeper hforward hframe hprecedes
  · rw [ahead, ahead, hprogram, hdepth]
    omega
  · exact Nat.lt_of_lt_of_le (ahead_lt_of_deeper hframe' hlimit hallowed hdeeper)
      (Nat.le_add_right _ _)

/-- A call from outside ends, with fuel for as many methods of the greatest length as the limit
allows inside of one another, unless it comes to a step that never ends. -/
theorem exists_invoke {limit : Nat} (hforward : machine.classFile.Forward)
    (hlimit : machine.limits.maxCallDepth = some limit)
    (hsession : session.Consistent machine.classFile) (name : String) :
    (∃ answer after,
      machine.invoke ((limit - session.depth) * (machine.classFile.longestCode + 1)) name session =
        some (answer, after)) ∨
      ∃ first opened last final, machine.enter name [] session = (.ok first, opened) ∧
        Step.Reaches machine.step first opened last final ∧
        machine.step last final = .stalled := by
  unfold invoke
  split
  · exact .inl ⟨_, _, rfl⟩
  · next first opened henter =>
      obtain ⟨hfirst, hopened⟩ := enter_inside hsession henter
      obtain ⟨before, hbefore, hallowed, rfl⟩ := opened_of_enter henter
      rw [hbefore.depth] at hallowed
      have hdeeper : (before.opened name).depth = session.depth + 1 :=
        congrArg (· + 1) hbefore.depth
      have hpreserves := machine.maintains_inside.preserves
      obtain ⟨answer, after, hends⟩ | ⟨last, final, hreach, hstalled⟩ := hpreserves.exists_run
        (fun hframe hsession hprecedes =>
          ahead_lt_of_precedes hforward hlimit hframe
            (hpreserves.reaches hframe hsession (hprecedes.reaches .here)).1 hprecedes)
        (hfirst first rfl).1 hopened
        (ahead_lt_of_deeper (hfirst first rfl).1 hlimit hallowed hdeeper)
      · rw [execute, hends]
        exact .inl ⟨_, _, rfl⟩
      · exact .inr ⟨first, _, last, final, henter, hreach, hstalled⟩

/-- The run ends, with one answer for all fuel from the bound on. -/
def EndsWithin (machine : Machine) (bound : Nat) (name : String) (session : Session) : Prop :=
  ∃ answer after, ∀ fuel, bound ≤ fuel → machine.run fuel name session = some (answer, after)

theorem ends_or_stalls {limit : Nat} (hforward : machine.classFile.Forward)
    (hlimit : machine.limits.maxCallDepth = some limit)
    (hsession : session.Consistent machine.classFile) (hdepth : session.depth = 0) (name : String) :
    machine.EndsWithin (limit * (machine.classFile.longestCode + 1)) name session ∨
      machine.Stalls name session := by
  cases hmethod : machine.classFile.method? name with
  | none =>
      refine .inl ⟨.error (.method (.notFound name)), session, fun fuel _ => ?_⟩
      rw [run, hmethod]
  | some entry =>
      have hannounced := machine.maintains_inside.announced hsession name entry
      have hdepth : (session.announced name entry).depth = 0 := by
        rw [(Session.SameCalls.announced session name entry).depth, hdepth]
      obtain ⟨raw, ended, hinvoke⟩ | ⟨first, opened, last, final, henter, hreach, hstalled⟩ :=
        exists_invoke hforward hlimit hannounced name
      · rw [hdepth, Nat.sub_zero] at hinvoke
        cases hsettle : settle raw ended with
        | some settled =>
            refine .inl ⟨settled.1, settled.2, fun fuel hfuel => ?_⟩
            rw [run_eq_bind_invoke hmethod, machine.invoke_of_le hfuel hinvoke]
            exact hsettle
        | none =>
            obtain ⟨result, rfl, hwaits⟩ := settle_eq_none hsettle
            exact .inr (.flushing hmethod hinvoke hwaits)
      · exact .inr (.printing ⟨entry, first, opened, hmethod, henter, hreach⟩ hstalled)

/-- If every branch of a class leads forward and the depth of calls is limited, then after any runs
a further run ends, with one answer for all fuel that is enough for as many methods of the greatest
length as the limit allows inside of one another. Whatever its sink, nothing can keep a run from its
end but a call of the sink that the run makes and that never returns. If all calls of the sink
return, the run ends. -/
theorem run_ends_of_forward {limit : Nat} {sink : Sink} {threshold : Log.Threshold}
    {calls : List (String × Answer)} (hforward : machine.classFile.Forward)
    (hlimit : machine.limits.maxCallDepth = some limit)
    (hruns : machine.Runs (.start sink threshold) calls session) (name : String) :
    (machine.EndsWithin (limit * (machine.classFile.longestCode + 1)) name session ∨
      machine.Stalls name session) ∧
    (sink.Returns →
      machine.EndsWithin (limit * (machine.classFile.longestCode + 1)) name session) := by
  have hdepth : session.depth = 0 := hruns.evolves Session.evolution_depth
  have hanswer := hruns.evolves Session.evolution_sink
  have hends := ends_or_stalls hforward hlimit hruns.consistent hdepth name
  refine ⟨hends, ?_⟩
  intro hreturns
  obtain hends | hstalls := hends
  · exact hends
  · exact absurd hstalls (not_stalls_of_returns (hreturns.of_answer_eq hanswer))

/-- A class whose `main` has a branch over a call of `other`, which calls `main` again. -/
def circularCalls : Machine where
  classFile :=
    { minorVersion := 0
      majorVersion := 52
      pool := ⟨#[.utf8 "Test", .classRef ⟨1⟩, .utf8 "main", .utf8 "()V", .utf8 "other",
        .nameAndType ⟨5⟩ ⟨4⟩, .methodRef ⟨⟨2⟩, ⟨6⟩⟩, .nameAndType ⟨3⟩ ⟨4⟩,
        .methodRef ⟨⟨2⟩, ⟨8⟩⟩]⟩
      access := 0
      thisClass := ⟨2⟩
      superClass := ⟨2⟩
      interfaces := []
      methods :=
        [⟨⟨8⟩, ⟨3⟩, ⟨4⟩, 4, 2, [0x03, 0x9A, 0, 6, 0xB8, 0, 7, 0xB1]⟩,
          ⟨⟨8⟩, ⟨5⟩, ⟨4⟩, 4, 2, [0xB8, 0, 9, 0xB1]⟩] }
  limits := { maxCallDepth := some 3 }

/-- Calls in a circle end at the limit, also the second time. -/
theorem run_ends_circularCalls :
    ∃ session after,
      circularCalls.Runs (.start .unlimited none) [("main", .error (.callDepthExceeded 3))]
        session ∧
      circularCalls.classFile.Forward ∧
      ∀ fuel, 27 ≤ fuel →
        circularCalls.run fuel "main" session = some (.error (.callDepthExceeded 3), after) := by
  have hboth : ((circularCalls.run 27 "main" (.start .unlimited none)).bind fun first =>
      (circularCalls.run 27 "main" first.2).map fun second => (first.1, second.1)) =
        some (.error (.callDepthExceeded 3), .error (.callDepthExceeded 3)) := by decide +kernel
  have hforward : circularCalls.classFile.Forward := by decide +kernel
  obtain ⟨⟨_, session⟩, hfirst, hrest⟩ := Option.bind_eq_some_iff.1 hboth
  obtain ⟨⟨_, last⟩, hsecond, heq⟩ := Option.map_eq_some_iff.1 hrest
  cases heq
  have hruns : circularCalls.Runs (.start .unlimited none) _ session := .cons hfirst .nil
  obtain ⟨answer, after, hends⟩ :=
    (run_ends_of_forward hforward rfl hruns "main").2 Sink.neverFails_unlimited.returns
  have hbound : 3 * (circularCalls.classFile.longestCode + 1) = 27 := by decide
  rw [hbound] at hends
  have hanswer := hends 27 (Nat.le_refl 27)
  rw [hsecond] at hanswer
  cases hanswer
  exact ⟨session, last, hruns, hforward, hends⟩

end Machine

end ClassVM
