import ClassVM.Proofs.DepthLimit
import ClassVM.Proofs.FaultOrigins
import ClassVM.Proofs.History

/-! # A full sink only truncates

A run that writes to a sink with a limit does what it does with a sink that takes everything, as
long as its output fits. The first line that does not fit is cut at the limit, and nothing is written
after it: the fault ends the frame, and with it every frame below. Flushing comes last, and only if
there was no fault. -/

namespace ClassVM

namespace Sink

/-- The whole is longer than the limit, and what is found are its first bytes. -/
def Truncated (limit : Option Nat) (found whole : List UInt8) : Prop :=
  ∃ bound ∈ limit, bound < whole.length ∧ found = whole.take bound

/-- Within its limit, the sink holds all the bytes of the other, which never fails. -/
structure Keeps (limit : Option Nat) (flushFails : Bool) (sink whole : Sink) : Prop where
  written : sink.written = whole.written
  limited : sink.answer = answerWithin limit flushFails
  fits : ∀ bound ∈ limit, sink.written.size ≤ bound
  reliable : whole.NeverFails

variable {limit : Option Nat} {flushFails : Bool} {sink whole : Sink}

theorem Truncated.of_isPrefix {found whole more : List UInt8} (h : Truncated limit found whole)
    (hmore : whole <+: more) : Truncated limit found more := by
  obtain ⟨bound, hbound, hlong, rfl⟩ := h
  refine ⟨bound, hbound, Nat.lt_of_lt_of_le hlong hmore.length_le, ?_⟩
  obtain ⟨rest, rfl⟩ := hmore
  rw [List.take_append_of_le_length (Nat.le_of_lt hlong)]

theorem written_after (sink : Sink) (call : Call) (taken : List UInt8) :
    (sink.after call taken).written.toList = sink.written.toList ++ taken := by
  simp [after]

theorem write_of_fits (hlimited : sink.answer = answerWithin limit flushFails) {bytes : List UInt8}
    (hfits : ∀ bound ∈ limit, sink.written.size + bytes.length ≤ bound) :
    sink.ask (.write bytes) = some (.ok (), sink.after (.write bytes) bytes) := by
  unfold ask
  rw [hlimited]
  cases limit with
  | none => rfl
  | some bound =>
      have hbound := hfits bound rfl
      have hroom : bytes.length ≤ sink.toPast.room bound := by
        unfold Past.room
        omega
      simp only [answerWithin, if_pos hroom]
      rfl

theorem write_of_full {bound : Nat} (hlimited : sink.answer = answerWithin (some bound) flushFails)
    {bytes : List UInt8} (hsize : sink.written.size ≤ bound)
    (hfull : bound < sink.written.size + bytes.length) :
    sink.ask (.write bytes) =
      some (.error .full, sink.after (.write bytes) (bytes.take (bound - sink.written.size))) := by
  have hroom : ¬ bytes.length ≤ sink.toPast.room bound := by
    unfold Past.room
    omega
  unfold ask
  rw [hlimited]
  simp only [answerWithin, if_neg hroom]
  rfl

theorem flush_limited (hlimited : sink.answer = answerWithin limit flushFails) :
    sink.ask .flush =
      some (if flushFails then .error .flushFailed else .ok (), sink.after .flush []) := by
  unfold ask
  rw [hlimited]
  cases flushFails with
  | false => rfl
  | true => rfl

theorem Keeps.output_eq (h : sink.Keeps limit flushFails whole) :
    sink.written.toList = whole.written.toList ∧
      ∀ bound ∈ limit, whole.written.toList.length ≤ bound := by
  refine ⟨congrArg Array.toList h.written, ?_⟩
  intro bound hbound
  rw [Array.length_toList, ← h.written]
  exact h.fits bound hbound

/-- Bytes are taken by both sinks, or they are cut at the limit of the one. -/
theorem Keeps.write (h : sink.Keeps limit flushFails whole) (bytes : List UInt8) :
    (sink.ask (.write bytes) = some (.ok (), sink.after (.write bytes) bytes) ∧
        (sink.after (.write bytes) bytes).Keeps limit flushFails
          (whole.after (.write bytes) bytes)) ∨
      ∃ after, sink.ask (.write bytes) = some (.error .full, after) ∧
        Truncated limit after.written.toList
          (whole.after (.write bytes) bytes).written.toList := by
  by_cases hfits : ∀ bound ∈ limit, sink.written.size + bytes.length ≤ bound
  · refine .inl ⟨write_of_fits h.limited hfits, ?_, h.limited, ?_, h.reliable⟩
    · rw [after, after, h.written]
    · have hsize : (sink.after (.write bytes) bytes).written.size =
          sink.written.size + bytes.length := by
        rw [← Array.length_toList, written_after, List.length_append, Array.length_toList]
      rwa [hsize]
  · push Not at hfits
    obtain ⟨bound, hbound, hfull⟩ := hfits
    cases Option.mem_def.1 hbound
    have hsize := h.fits bound rfl
    refine .inr ⟨_, write_of_full h.limited hsize hfull, bound, rfl, ?_, ?_⟩
    · simpa [written_after, ← h.written] using hfull
    · simp [written_after, ← h.written, List.take_append, List.take_of_length_le, hsize]

end Sink

/-- What a run answers if its output does not arrive in the end. -/
def Answer.unflushed : Answer → Answer
  | .error fault => .error fault
  | .ok _ => .error (.output .flushFailed)

namespace Machine

variable {machine : Machine} {frame : Frame} {session after : Session} {limit : Option Nat}
  {flushFails : Bool}

/-- If a step fails because output is not taken, then in writing a line. -/
theorem step_not_taken {cause : Sink.Fault}
    (hstep : machine.step frame session = .done (.error (.output cause)) after) :
    ∃ instruction value memory, frame.program[frame.pc]? = some instruction ∧
      instruction.act machine.segment machine.classFile frame.memory = .ok (.print value memory) ∧
      (session.note (.executing frame.pc instruction frame.memory.stack)).printLine value =
        some (.error (.output cause), after) := by
  have hsteps := machine.steps_step frame session
  rw [hstep] at hsteps
  cases hsteps with
  | failed fetched acts =>
      have hfaults := Instruction.faults_of_act acts
      cases hfaults with
      | own ofInstruction => exact ofInstruction.elim
  | acted fetched acts performs =>
      cases performs with
      | unprinted prints => exact ⟨_, _, _, fetched, acts, prints⟩
      | refused enters => exact (enter_failed enters).elim

/-- From a frame that is about to write a line, the output of a run goes on from that line. -/
theorem printed_isPrefix {fuel : Nat} {instruction : Instruction Nat} {value : Value}
    {memory : Memory} {answer : Answer} {result : Except Fault Unit} {printed : Session}
    (hfetched : frame.program[frame.pc]? = some instruction)
    (hacts : instruction.act machine.segment machine.classFile frame.memory =
      .ok (.print value memory))
    (hprint : (session.note (.executing frame.pc instruction frame.memory.stack)).printLine value =
      some (result, printed))
    (hexecute : machine.execute fuel frame session = some (answer, after)) :
    printed.output <+: after.output := by
  cases fuel with
  | zero => simp [execute, Step.run] at hexecute
  | succ fuel =>
      rw [execute, Step.run, step, hfetched] at hexecute
      simp only [hacts, Action.perform, hprint] at hexecute
      cases result with
      | error fault =>
          cases hexecute
          exact List.prefix_refl _
      | ok _ => exact (step_carries Session.evolution_output).run hexecute

/-- Where a line does not fit, the sink holds the first bytes of what the run writes to a sink that
takes everything. -/
theorem truncated_of_step {whole ended : Session} {fuel : Nat} {answer : Answer}
    (hsession : session.Alike (Sink.Keeps limit flushFails) whole)
    (hstep : machine.step frame session = .done (.error (.output .full)) after)
    (hexecute : machine.execute fuel frame whole = some (answer, ended)) :
    Sink.Truncated limit after.output ended.output := by
  obtain ⟨instruction, value, memory, hfetched, hacts, hprint⟩ := step_not_taken hstep
  obtain ⟨answered, sink, hask, hresult, rfl⟩ := Session.exists_sink_of_ask hprint
  -- The same frame writes the whole of the line to the other sink, and perhaps more after it.
  obtain ⟨htaken, -⟩ | ⟨cut, hcut, htruncated⟩ :=
    hsession.sink.write (Text.Utf8.encode (value.display ++ "\n"))
  · cases htaken.symm.trans hask
    cases hresult
  · cases hcut.symm.trans hask
    have hreliable : (whole.note
        (.executing frame.pc instruction frame.memory.stack)).sink.NeverFails :=
      hsession.sink.reliable
    have hwhole := Session.ask_of_neverFails hreliable
      (.write (Text.Utf8.encode (value.display ++ "\n")))
    exact htruncated.of_isPrefix (printed_isPrefix hfetched hacts hwhole hexecute)

/-- A machine with a limited sink does what it does with one that takes everything, until the sink is
full. -/
theorem follows_keeps (machine : Machine) (limit : Option Nat) (flushFails : Bool) :
    machine.Follows machine Eq (Session.Alike (Sink.Keeps limit flushFails))
      (· = .output .full) := by
  apply follows_of_counterparts (Session.companions_alike _) rfl (machine.classFile.parallel_self _)
    (Locals.parallel_eq _) rfl
  · intro name method hmethod
    exact ⟨method, hmethod, rfl, fun hsession => hsession.announced name _ _, fun _ => .refl _⟩
  · intro name habsent
    exact .inl habsent
  · intro session whole hsession value
    obtain ⟨htaken, hkeeps⟩ | ⟨cut, hcut, -⟩ :=
      hsession.sink.write (Text.Utf8.encode (value.display ++ "\n"))
    · left
      apply hsession.answeredAlike
      rw [htaken, hsession.sink.reliable.ask]
      exact .some ⟨rfl, hkeeps⟩
    · right
      refine ⟨(.error (.output .full), { session with sink := cut }), ?_, _, _, rfl, rfl⟩
      rw [Session.printLine, Session.ask, hcut]
      rfl

/-- A call from outside with a limited sink is answered as with one that takes everything, or the
sink is full and holds the first bytes of what is written there. -/
theorem invoke_keeps {whole ended : Session} {fuel : Nat} {name : String} {answer : Answer}
    (hsession : session.Alike (Sink.Keeps limit flushFails) whole)
    (hinvoke : machine.invoke fuel name whole = some (answer, ended)) :
    ∃ answer' after, machine.invoke fuel name session = some (answer', after) ∧
      (answer' = answer ∧ after.Alike (Sink.Keeps limit flushFails) ended ∨
        answer' = .error (.output .full) ∧ Sink.Truncated limit after.output ended.output) := by
  have hends := (machine.follows_keeps limit flushFails).invoke_ends (P := Sink.Truncated limit)
    Sink.Truncated.of_isPrefix ?_ ?_ hsession hinvoke
  · obtain ⟨answer', after, hinvoke', halike | ⟨_, rfl, rfl, htruncated⟩⟩ := hends
    · exact ⟨answer', after, hinvoke', .inl halike⟩
    · exact ⟨_, after, hinvoke', .inr ⟨rfl, htruncated⟩⟩
  · rintro frame frame' session whole _ after fuel answer ended hframe hsession hstep rfl hexecute
    obtain rfl := hframe.eq
    exact truncated_of_step hsession hstep hexecute
  · -- No call is refused because of output.
    rintro session whole name _ after _ henter rfl
    exact (enter_failed henter).elim

/-- Flushing a limited sink changes an answer only where there was no fault, and only if it
fails. -/
theorem settle_limited (hlimited : session.sink.answer = Sink.answerWithin limit flushFails)
    (answer : Answer) :
    ∃ after, settle answer session =
      some (if flushFails then answer.unflushed else answer, after) := by
  unfold settle Session.ask
  rw [Sink.flush_limited hlimited]
  cases answer with
  | error fault => exact ⟨session, by simp [Answer.unflushed]⟩
  | ok result => cases flushFails <;> exact ⟨_, rfl⟩

/-- Flushing a sink that never fails changes no answer. -/
theorem settle_of_neverFails {raw answer : Answer} (hreliable : session.sink.NeverFails)
    (h : settle raw session = some (answer, after)) : answer = raw := by
  cases settles_of_settle h with
  | failed => rfl
  | flushed _ => rfl
  | unflushed flushes =>
      cases flushes.symm.trans (Session.ask_of_neverFails hreliable .flush)

/-- A run with a limited sink ends as with one that takes everything, except that flushing may fail,
or the sink is full and holds the first bytes of what is written there. -/
theorem run_keeps {whole ended : Session} {fuel : Nat} {name : String} {answer : Answer}
    (hsession : session.Alike (Sink.Keeps limit flushFails) whole)
    (hrun : machine.run fuel name whole = some (answer, ended)) :
    ∃ answer' after, machine.run fuel name session = some (answer', after) ∧
      (answer' = (if flushFails then answer.unflushed else answer) ∧
          after.output = ended.output ∧ (∀ bound ∈ limit, ended.output.length ≤ bound) ∨
        answer' = .error (.output .full) ∧ Sink.Truncated limit after.output ended.output) := by
  cases hmethod : machine.classFile.method? name with
  | none =>
      rw [run, hmethod] at hrun ⊢
      cases hrun
      exact ⟨_, _, rfl, .inl ⟨by simp [Answer.unflushed], hsession.sink.output_eq⟩⟩
  | some entry =>
      rw [run_eq_bind_invoke hmethod, Option.bind_eq_some_iff] at hrun
      obtain ⟨⟨raw, last⟩, hinvoke, hsettle⟩ := hrun
      obtain ⟨raw', last', hinvoke', ⟨rfl, halike⟩ | ⟨rfl, htruncated⟩⟩ :=
        invoke_keeps (hsession.announced name entry entry) hinvoke
      · obtain ⟨after, hsettle'⟩ := settle_limited halike.sink.limited raw'
        cases settle_of_neverFails halike.sink.reliable hsettle
        refine ⟨_, after, ?_, .inl ⟨rfl, ?_⟩⟩
        · rw [run_eq_bind_invoke hmethod, hinvoke']
          exact hsettle'
        · rw [settle_output hsettle, settle_output hsettle']
          exact halike.sink.output_eq
      · refine ⟨_, last', ?_, .inr ⟨rfl, settle_output hsettle ▸ htruncated⟩⟩
        rw [run_eq_bind_invoke hmethod, hinvoke']
        rfl

/-- A fresh machine with a limited sink ends every run that it ends with a sink that takes everything.
If all the output fits, the answer and the output are the same, except that a failing flush takes the
place of a success. If not, the answer is that the sink is full, and it holds the first bytes of the
output, as many as it may. -/
theorem run_of_limited_sink {fuel : Nat} {name : String} {threshold : Log.Threshold}
    {answer : Answer} {whole : Session}
    (hrun : machine.run fuel name (.start .unlimited threshold) = some (answer, whole))
    (limit : Option Nat) (flushFails : Bool) :
    ∃ answer' after,
      machine.run fuel name (.start (.limited limit flushFails) threshold) = some (answer', after) ∧
      ((∀ bound ∈ limit, whole.output.length ≤ bound) →
        answer' = (if flushFails then answer.unflushed else answer) ∧
          after.output = whole.output) ∧
      ∀ bound ∈ limit, bound < whole.output.length →
        answer' = .error (.output .full) ∧ after.output = whole.output.take bound := by
  have hstart : (Session.start (.limited limit flushFails) threshold).Alike
      (Sink.Keeps limit flushFails) (.start .unlimited threshold) :=
    ⟨rfl, rfl, rfl, rfl, fun _ _ => Nat.zero_le _, Sink.neverFails_unlimited⟩
  obtain ⟨answer', after, hrun', hends⟩ := run_keeps hstart hrun
  refine ⟨answer', after, hrun', ?_⟩
  obtain ⟨hanswer, houtput, hfits⟩ | ⟨hanswer, bound, hbound, hlong, houtput⟩ := hends
  · refine ⟨fun _ => ⟨hanswer, houtput⟩, ?_⟩
    intro bound hbound hlong
    exact absurd hlong (Nat.not_lt.2 (hfits bound hbound))
  · constructor
    · intro hfits
      exact absurd hlong (Nat.not_lt.2 (hfits bound hbound))
    · intro bound' hbound' _
      cases hbound.symm.trans hbound'
      exact ⟨hanswer, houtput⟩

/-- The second line cut off before its end, in a call from `main`; and both lines written, but not
flushed. -/
theorem run_of_limited_sink_twoLines :
    (∃ after, twoLines.run 20 "main" (.start (.limited (some 3) false) none) =
      some (.error (.output .full), after) ∧ after.output = [50, 10, 51]) ∧
    ∃ after, twoLines.run 20 "main" (.start (.limited (some 4) true) none) =
      some (.error (.output .flushFailed), after) ∧ after.output = [50, 10, 51, 10] := by
  have hends : (twoLines.run 20 "main" (.start .unlimited none)).map
      (fun found => (found.1, found.2.output)) =
        some (.ok (some (.int 1)), [50, 10, 51, 10]) := by decide +kernel
  obtain ⟨whole, hrun, houtput⟩ := exists_of_observed hends
  constructor
  · obtain ⟨answer, after, hlimited, -, hcut⟩ := run_of_limited_sink hrun (some 3) false
    obtain ⟨rfl, hafter⟩ := hcut 3 rfl (by simp [houtput])
    exact ⟨after, hlimited, by rw [hafter, houtput]; rfl⟩
  · obtain ⟨answer, after, hlimited, hfits, -⟩ := run_of_limited_sink hrun (some 4) true
    obtain ⟨rfl, hafter⟩ := hfits (by simp [houtput])
    exact ⟨after, hlimited, hafter.trans houtput⟩

end Machine

end ClassVM
