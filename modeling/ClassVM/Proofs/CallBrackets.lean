import ClassVM.Proofs.ByteMachine
import ClassVM.Proofs.ProgramCounter
import Mathlib.Algebra.Ring.Int.Defs

/-! # Calls are reported in brackets

Entering and leaving a method are reported in pairs that nest as the calls do, also when a fault
ends many calls at once. A report of entering a method tells how many methods are open at that
moment, and a call that is refused is not reported. -/

namespace ClassVM

/-! ## Brackets -/

namespace MachineEvent

/-- The event reports that a method is entered or left. -/
def isCall : MachineEvent → Bool
  | .entered _ _ | .exited _ => true
  | _ => false

/-- By how much the number of open methods changes. -/
def opening : MachineEvent → Int
  | .entered _ _ => 1
  | .exited _ => -1
  | _ => 0

end MachineEvent

/-- The number of methods that have been entered and not left. -/
def openCalls (events : List MachineEvent) : Int :=
  (events.map MachineEvent.opening).sum

/-- Every report of entering a method is closed by one of leaving the same method, and in between
stand whole brackets only. -/
inductive Balanced : List MachineEvent → Prop
  | nil : Balanced []
  | call {method : String} {depth : Nat} {inner rest : List MachineEvent}
      (inside : Balanced inner) (behind : Balanced rest) :
      Balanced (.entered method depth :: (inner ++ .exited method :: rest))

/-- Brackets that are opened where so many methods are open already. Each tells this number, which
the limit on the depth allows. -/
inductive Nested (limits : Limits) : Nat → List MachineEvent → Prop
  | nil {depth : Nat} : Nested limits depth []
  | call {depth : Nat} {method : String} {inner rest : List MachineEvent}
      (allowed : limits.brokenAt depth = none) (inside : Nested limits (depth + 1) inner)
      (behind : Nested limits depth rest) :
      Nested limits depth (.entered method depth :: (inner ++ .exited method :: rest))

theorem openCalls_append (front back : List MachineEvent) :
    openCalls (front ++ back) = openCalls front + openCalls back := by
  simp [openCalls]

theorem openCalls_cons (event : MachineEvent) (events : List MachineEvent) :
    openCalls (event :: events) = event.opening + openCalls events := by
  simp [openCalls]

theorem Limits.brokenAt_eq_some_iff {limits : Limits} {depth limit : Nat} :
    limits.brokenAt depth = some limit ↔ limits.maxCallDepth = some limit ∧ limit ≤ depth := by
  simp [brokenAt, Option.filter_eq_some_iff]

theorem Limits.lt_of_brokenAt {limits : Limits} {depth limit : Nat}
    (h : limits.brokenAt depth = none) (hlimit : limits.maxCallDepth = some limit) :
    depth < limit := by
  by_contra hle
  rw [brokenAt_eq_some_iff.2 ⟨hlimit, Nat.le_of_not_lt hle⟩] at h
  cases h

theorem Balanced.openCalls_eq {events : List MachineEvent} (h : Balanced events) :
    openCalls events = 0 := by
  induction h with
  | nil => rfl
  | call _ _ ihInner ihRest =>
      simp only [openCalls_cons, openCalls_append, ihInner, ihRest, MachineEvent.opening]
      omega

namespace Nested

variable {limits : Limits} {base : Nat} {events back : List MachineEvent}

theorem append (h : Nested limits base events) (hback : Nested limits base back) :
    Nested limits base (events ++ back) := by
  induction h with
  | nil => exact hback
  | call allowed inside _ _ ihRest =>
      rw [List.cons_append, List.append_assoc, List.cons_append]
      exact .call allowed inside (ihRest hback)

theorem balanced (h : Nested limits base events) : Balanced events := by
  induction h with
  | nil => exact .nil
  | call _ _ _ ihInner ihRest => exact .call ihInner ihRest

/-- Wherever a method is entered, the depth that is told is the number of open methods. -/
theorem entered (h : Nested limits base events) {front : List MachineEvent} {method : String}
    {depth : Nat} (hsplit : events = front ++ .entered method depth :: back) :
    (depth : Int) = base + openCalls front ∧ limits.brokenAt depth = none := by
  induction h generalizing front back with
  | nil => simp at hsplit
  | @call base opened inner rest allowed inside behind ihInner ihRest =>
      cases front with
      | nil =>
          cases hsplit
          exact ⟨by simp [openCalls], allowed⟩
      | cons first front =>
          rw [List.cons_append, List.cons.injEq] at hsplit
          obtain ⟨rfl, hsplit⟩ := hsplit
          -- The method is entered inside of the first bracket or behind it.
          obtain ⟨middle, rfl, hmiddle⟩ | ⟨middle, hinner, hmiddle⟩ :=
            List.append_eq_append_iff.1 hsplit
          · cases middle with
            | nil => cases hmiddle
            | cons closing middle =>
                obtain ⟨rfl, hrest⟩ := List.cons.inj hmiddle
                obtain ⟨hdepth, hallowed⟩ := ihRest hrest
                refine ⟨?_, hallowed⟩
                simp only [openCalls_cons, openCalls_append, inside.balanced.openCalls_eq,
                  MachineEvent.opening]
                omega
          · cases middle with
            | nil => cases hmiddle
            | cons opening middle =>
                obtain ⟨rfl, -⟩ := List.cons.inj hmiddle
                obtain ⟨hdepth, hallowed⟩ := ihInner hinner
                refine ⟨?_, hallowed⟩
                simp only [openCalls_cons, MachineEvent.opening]
                omega

end Nested

/-! ## Sessions -/

namespace Session

/-- The reports of entering and leaving methods, in order. -/
def callRecords (session : Session) : List MachineEvent :=
  session.journal.events.toList.filter (·.isCall)

/-- No method has been entered or left from the one session to the other. -/
structure SameCalls (session after : Session) : Prop where
  depth : after.depth = session.depth
  threshold : after.journal.threshold = session.journal.threshold
  records : after.callRecords = session.callRecords

/-- The methods that have been entered from the one session to the other have been left, in
brackets, and have been reported so if debugging is reported. -/
structure CallsNested (limits : Limits) (session after : Session) : Prop where
  depth : after.depth = session.depth
  threshold : after.journal.threshold = session.journal.threshold
  records : ∃ brackets, Nested limits session.depth brackets ∧
    after.callRecords =
      session.callRecords ++ if Log.admits session.journal.threshold .debug then brackets else []

variable {session middle after : Session} {limits : Limits}

theorem callRecords_note (session : Session) (event : MachineEvent) :
    (session.note event).callRecords =
      session.callRecords ++
        if Log.admits session.journal.threshold event.level && event.isCall then [event]
        else [] := by
  unfold callRecords note Log.Journal.note
  cases Log.admits session.journal.threshold event.level with
  | false => simp
  | true => cases hcall : event.isCall <;> simp [hcall]

theorem callRecords_opened (session : Session) (name : String) :
    (session.opened name).callRecords =
      session.callRecords ++
        if Log.admits session.journal.threshold .debug then [.entered name session.depth]
        else [] := by
  have hnote := session.callRecords_note (.entered name session.depth)
  rwa [MachineEvent.isCall, Bool.and_true] at hnote

theorem callRecords_closed (session : Session) (name : String) :
    (session.closed name).callRecords =
      session.callRecords ++
        if Log.admits session.journal.threshold .debug then [.exited name] else [] := by
  have hnote := callRecords_note { session with depth := session.depth - 1 } (.exited name)
  rwa [MachineEvent.isCall, Bool.and_true] at hnote

namespace SameCalls

theorem refl (session : Session) : session.SameCalls session := ⟨rfl, rfl, rfl⟩

theorem trans (h : session.SameCalls middle) (h' : middle.SameCalls after) :
    session.SameCalls after :=
  ⟨h'.depth.trans h.depth, h'.threshold.trans h.threshold, h'.records.trans h.records⟩

theorem note (session : Session) {event : MachineEvent} (hcall : event.isCall = false) :
    session.SameCalls (session.note event) where
  depth := rfl
  threshold := session.note_threshold event
  records := by simp [callRecords_note, hcall]

theorem noteDecoded (session : Session) (places : List Code.Located) :
    session.SameCalls (session.noteDecoded places) := by
  induction places generalizing session with
  | nil => exact refl session
  | cons place places ih => exact (note session rfl).trans (ih _)

theorem load (session : Session) (classFile : ClassFile) (name : String) :
    session.SameCalls (session.load classFile name).2 := by
  unfold Session.load
  cases classFile.method? name with
  | none => exact refl session
  | some method =>
      simp only
      cases session.programs.lookup name with
      | some program => exact refl session
      | none =>
          have hdecoded := noteDecoded session method.instructions.events
          simp only
          cases method.instructions.outcome with
          | error e => exact hdecoded
          | ok instructions => exact ⟨hdecoded.depth, hdecoded.threshold, hdecoded.records⟩

theorem ask {call : Sink.Call} {result : Except Fault Unit}
    (h : session.ask call = some (result, after)) : session.SameCalls after := by
  obtain ⟨_, _, _, _, rfl⟩ := exists_sink_of_ask h
  exact ⟨rfl, rfl, rfl⟩

theorem settle {raw answer : Answer} (h : Machine.settle raw session = some (answer, after)) :
    session.SameCalls after := by
  cases Machine.settles_of_settle h with
  | failed => exact refl session
  | flushed flushes => exact ask flushes
  | unflushed flushes => exact ask flushes

theorem announced (session : Session) (name : String) (entry : Method) :
    session.SameCalls (session.announced name entry) := by
  unfold Session.announced
  split
  · exact refl session
  · exact note session rfl

theorem callsNested (h : session.SameCalls after) : session.CallsNested limits after :=
  ⟨h.depth, h.threshold, [], .nil, by simp [h.records]⟩

end SameCalls

namespace CallsNested

theorem trans (h : session.CallsNested limits middle) (h' : middle.CallsNested limits after) :
    session.CallsNested limits after := by
  obtain ⟨brackets, hnested, hrecords⟩ := h.records
  obtain ⟨brackets', hnested', hrecords'⟩ := h'.records
  rw [h.depth] at hnested'
  refine ⟨h'.depth.trans h.depth, h'.threshold.trans h.threshold, brackets ++ brackets',
    hnested.append hnested', ?_⟩
  rw [hrecords', hrecords, h.threshold]
  split <;> simp

/-- A call is one bracket around the calls that its method makes. -/
theorem exists_bracket {name : String} (hallowed : limits.brokenAt session.depth = none)
    (h : (session.opened name).CallsNested limits after) :
    ∃ inner,
      Nested limits session.depth (.entered name session.depth :: (inner ++ [.exited name])) ∧
      (after.closed name).callRecords =
        session.callRecords ++
          if Log.admits session.journal.threshold .debug then
            .entered name session.depth :: (inner ++ [.exited name])
          else [] := by
  obtain ⟨inner, hnested, hrecords⟩ := h.records
  have hopened : (session.opened name).journal.threshold = session.journal.threshold :=
    session.note_threshold _
  refine ⟨inner, .call hallowed hnested .nil, ?_⟩
  rw [callRecords_closed, hrecords, callRecords_opened, h.threshold, hopened]
  split <;> simp

theorem bracket {name : String} (hallowed : limits.brokenAt session.depth = none)
    (h : (session.opened name).CallsNested limits after) :
    session.CallsNested limits (after.closed name) := by
  obtain ⟨inner, hnested, hrecords⟩ := h.exists_bracket hallowed
  have hthreshold := h.threshold.trans (session.note_threshold _)
  exact ⟨congrArg (· - 1) h.depth, (note_threshold _ _).trans hthreshold, _, hnested, hrecords⟩

end CallsNested

/-- What is reported stays what it was at the start. -/
theorem evolution_threshold {classFile : ClassFile} :
    Evolution classFile fun session after =>
      after.journal.threshold = session.journal.threshold where
  refl _ := rfl
  trans hfirst hsecond := hsecond.trans hfirst
  note session event := session.note_threshold event
  ask hask := (SameCalls.ask hask).threshold
  load session name := (SameCalls.load session classFile name).threshold
  bracket _ h := (note_threshold _ _).trans (h.trans (note_threshold _ _))

end Session

/-! ## Calls -/

/-- The instructions of a method that is found, or why it has none, and its local variables. -/
theorem ClassFile.loaded_of_method? {classFile : ClassFile} {name : String} {method : Method}
    (h : classFile.method? name = some method) :
    classFile.loaded name =
      match (Code.decode method.code).outcome with
      | .error e => .error (.method (.decoding e))
      | .ok instructions => .ok (instructions.toArray, method.maxLocals) := by
  simp only [loaded, h, Method.instructions, Log.Traced.mapError]
  cases (Code.decode method.code).outcome with
  | error e => rfl
  | ok instructions => rfl

/-- The frame is at an instruction that calls the method with the arguments. -/
def Frame.Calls (machine : Machine) (frame : Frame) (name : String) (arguments : List Value) :
    Prop :=
  ∃ instruction memory, frame.program[frame.pc]? = some instruction ∧
    instruction.act machine.segment machine.classFile frame.memory =
      .ok (.call name arguments memory)

namespace Machine

variable {machine : Machine} {name : String} {arguments : List Value} {session after : Session}
  {frame : Frame}

/-- A call with so many methods open is refused: for the limit on the depth, because its method is
not found or cannot be decoded, or because its arguments outnumber the local variables. -/
inductive Refuses (machine : Machine) (depth : Nat) (name : String) (arguments : List Value) : Prop
  | tooDeep {limit : Nat} (limited : machine.limits.maxCallDepth = some limit)
      (reached : limit ≤ depth) : Refuses machine depth name arguments
  | notFound (absent : machine.classFile.method? name = none) :
      Refuses machine depth name arguments
  | undecodable {method : Method} {e : Code.DecodeError}
      (found : machine.classFile.method? name = some method)
      (fails : (Code.decode method.code).outcome = .error e) :
      Refuses machine depth name arguments
  | tooMany {method : Method} (found : machine.classFile.method? name = some method)
      (exceeds : max machine.limits.localsCapacity method.maxLocals < arguments.length) :
      Refuses machine depth name arguments

theorem refuses_of_enter {fault : Fault} (hsession : session.Consistent machine.classFile)
    (henter : machine.enter name arguments session = (.error fault, after)) :
    machine.Refuses session.depth name arguments := by
  have hloaded := hsession.load_fst name
  cases hmethod : machine.classFile.method? name with
  | none => exact .notFound hmethod
  | some method =>
      rw [ClassFile.loaded_of_method? hmethod] at hloaded
      cases hdecode : (Code.decode method.code).outcome with
      | error e => exact .undecodable hmethod hdecode
      | ok instructions =>
          rw [hdecode] at hloaded
          cases enters_of_enter henter with
          | tooDeep broken =>
              obtain ⟨hlimited, hreached⟩ := Limits.brokenAt_eq_some_iff.1 broken
              exact .tooDeep hlimited hreached
          | notLoaded _ loads =>
              rw [loads] at hloaded
              cases hloaded
          | noRoom _ loads creates =>
              rw [loads] at hloaded
              cases hloaded
              unfold Locals.create at creates
              split at creates
              · cases creates
              · next hexceeds => exact .tooMany hmethod (Nat.lt_of_not_le hexceeds)

theorem not_refuses_of_enter (hsession : session.Consistent machine.classFile)
    (henter : machine.enter name arguments session = (.ok frame, after)) :
    ¬ machine.Refuses session.depth name arguments := by
  have hloaded := hsession.load_fst name
  intro hrefuses
  cases enters_of_enter henter with
  | made within loads creates =>
      rw [loads] at hloaded
      cases hrefuses with
      | tooDeep limited reached => exact Nat.not_lt.2 reached (Limits.lt_of_brokenAt within limited)
      | notFound absent =>
          rw [ClassFile.loaded, absent] at hloaded
          cases hloaded
      | undecodable found fails =>
          rw [ClassFile.loaded_of_method? found, fails] at hloaded
          cases hloaded
      | @tooMany method found exceeds =>
          rw [ClassFile.loaded_of_method? found] at hloaded
          split at hloaded
          · cases hloaded
          · cases hloaded
            rw [Locals.create, if_neg (Nat.not_le.2 exceeds)] at creates
            cases creates

/-- A call that is refused is not reported. -/
theorem sameCalls_of_enter {fault : Fault}
    (henter : machine.enter name arguments session = (.error fault, after)) :
    session.SameCalls after := by
  have hload := Session.SameCalls.load session machine.classFile name
  cases enters_of_enter henter with
  | tooDeep _ => exact .refl session
  | notLoaded _ loads =>
      rw [loads] at hload
      exact hload
  | noRoom _ loads _ =>
      rw [loads] at hload
      exact hload

/-- A call that is made enters its method last, at a depth that the limit allows. -/
theorem opened_of_enter (henter : machine.enter name arguments session = (.ok frame, after)) :
    ∃ before, session.SameCalls before ∧ machine.limits.brokenAt before.depth = none ∧
      after = before.opened name := by
  have hload := Session.SameCalls.load session machine.classFile name
  cases enters_of_enter henter with
  | made within loads _ =>
      rw [loads] at hload
      exact ⟨_, hload, by rwa [hload.depth], rfl⟩

/-! ## Steps and runs -/

/-- A step enters at most the method that it calls, and leaves none. -/
theorem step_calls (machine : Machine) (frame : Frame) (session : Session) :
    match machine.step frame session with
    | .done _ after | .next _ after => session.SameCalls after
    | .call name _ _ after => ∃ before, session.SameCalls before ∧
        machine.limits.brokenAt before.depth = none ∧ after = before.opened name
    | .stalled => True := by
  have hsteps := machine.steps_step frame session
  generalize machine.step frame session = result at hsteps
  cases hsteps with
  | fellOff _ _ => exact .note session rfl
  | lost _ _ => exact .refl session
  | failed _ _ => exact .note session rfl
  | @acted instruction action _ _ _ performs =>
      have hnote := Session.SameCalls.note session
        (rfl : (MachineEvent.executing frame.pc instruction frame.memory.stack).isCall = false)
      cases performs with
      | advanced => exact hnote
      | jumped => exact hnote
      | finished => exact hnote
      | printed prints => exact hnote.trans (.ask prints)
      | unprinted prints => exact hnote.trans (.ask prints)
      | stalled _ => trivial
      | called enters =>
          obtain ⟨before, hbefore, hallowed, rfl⟩ := opened_of_enter enters
          exact ⟨before, hnote.trans hbefore, hallowed, rfl⟩
      | refused enters => exact hnote.trans (sameCalls_of_enter enters)

theorem carries_callsNested (machine : Machine) :
    Step.Carries machine.step (Session.CallsNested machine.limits) where
  trans := .trans
  done {frame session _ _} hstep := by
    have hcalls := machine.step_calls frame session
    rw [hstep] at hcalls
    exact hcalls.callsNested
  next {frame session _ _} hstep := by
    have hcalls := machine.step_calls frame session
    rw [hstep] at hcalls
    exact hcalls.callsNested
  call {frame session name _ _ _ _} hstep hcallee := by
    have hcalls := machine.step_calls frame session
    rw [hstep] at hcalls
    obtain ⟨before, hbefore, hallowed, rfl⟩ := hcalls
    exact hbefore.callsNested.trans (hcallee.bracket hallowed)

/-- A frame that calls a method ends without a report if the call is refused. Otherwise it enters
the method, which is reported with the number of open methods. -/
theorem step_of_calls (hsession : session.Consistent machine.classFile)
    (hcalls : frame.Calls machine name arguments) :
    (machine.Refuses session.depth name arguments →
      ∃ fault after, machine.step frame session = .done (.error fault) after ∧
        after.callRecords = session.callRecords) ∧
    (¬ machine.Refuses session.depth name arguments →
      ∃ callee resume after, machine.step frame session = .call name callee resume after ∧
        after.callRecords = session.callRecords ++
          if Log.admits session.journal.threshold .debug then [.entered name session.depth]
          else []) := by
  obtain ⟨instruction, memory, hfetch, hact⟩ := hcalls
  have hkept := machine.step_calls frame session
  have hnoted := hsession.note (.executing frame.pc instruction frame.memory.stack)
  have hstep : machine.step frame session =
      (Action.call name arguments memory).perform frame.next frame.goto machine.enter
        (session.note (.executing frame.pc instruction frame.memory.stack)) := by
    simp only [step, hfetch, hact]
  rw [Action.perform] at hstep
  split at hstep
  · next fault after henter =>
      rw [hstep] at hkept
      have hrefuses := refuses_of_enter hnoted henter
      exact ⟨fun _ => ⟨fault, after, hstep, hkept.records⟩, fun h => absurd hrefuses h⟩
  · next callee after henter =>
      rw [hstep] at hkept
      have hmade := not_refuses_of_enter hnoted henter
      obtain ⟨before, hbefore, -, rfl⟩ := hkept
      refine ⟨fun h => absurd h hmade, fun _ => ⟨callee, _, _, hstep, ?_⟩⟩
      rw [Session.callRecords_opened, hbefore.records, hbefore.threshold, hbefore.depth]

/-- What a run reports is one bracket for its own call, or nothing if that call is refused. -/
theorem exists_brackets_of_run {fuel : Nat} {answer : Answer}
    (hsession : session.Consistent machine.classFile)
    (hrun : machine.run fuel name session = some (answer, after)) :
    ∃ brackets, Nested machine.limits session.depth brackets ∧
      after.callRecords =
        session.callRecords ++
          (if Log.admits session.journal.threshold .debug then brackets else []) ∧
      (machine.Refuses session.depth name [] → brackets = []) ∧
      (¬ machine.Refuses session.depth name [] →
        ∃ inner, brackets = .entered name session.depth :: (inner ++ [.exited name])) := by
  cases ends_of_run hrun with
  | notFound absent =>
      have hrefuses : machine.Refuses session.depth name [] := .notFound absent
      exact ⟨[], .nil, by simp, fun _ => rfl, fun h => absurd hrefuses h⟩
  | @refused entry fault after found enters =>
      have hannounced := Session.SameCalls.announced session name entry
      have hconsistent := machine.maintains_inside.announced hsession name entry
      have hrefuses := refuses_of_enter hconsistent enters
      rw [hannounced.depth] at hrefuses
      have hsame := hannounced.trans (sameCalls_of_enter enters)
      exact ⟨[], .nil, by simp [hsame.records], fun _ => rfl, fun h => absurd hrefuses h⟩
  | @executed entry first opened raw answer ended after found enters executes settles =>
      have hannounced := Session.SameCalls.announced session name entry
      have hconsistent := machine.maintains_inside.announced hsession name entry
      have hmade := not_refuses_of_enter hconsistent enters
      rw [hannounced.depth] at hmade
      obtain ⟨before, hbefore, hallowed, rfl⟩ := opened_of_enter enters
      have hsame := hannounced.trans hbefore
      obtain ⟨inner, hnested, hrecords⟩ :=
        (machine.carries_callsNested.run executes).exists_bracket hallowed
      rw [hsame.depth] at hnested hrecords
      rw [hsame.records, hsame.threshold, ← (Session.SameCalls.settle settles).records] at hrecords
      exact ⟨_, hnested, hrecords, fun h => absurd h hmade, fun _ => ⟨inner, rfl⟩⟩

/-- After any runs of a machine, a further run reports the methods that it enters and leaves in
balanced brackets, which begin with no method open. Each report of entering a method tells how many
methods are open, and these are fewer than the limit allows. A call that is refused, the run's own
or one of a frame on the way, is not reported; any other is, if debugging is. -/
theorem calls_reported_in_brackets {sink : Sink} {threshold : Log.Threshold}
    {calls : List (String × Answer)}
    (hruns : machine.Runs (.start sink threshold) calls session) {fuel : Nat} {answer : Answer}
    (hrun : machine.run fuel name session = some (answer, after)) :
    (∃ records, after.callRecords = session.callRecords ++ records ∧ Balanced records ∧
      (∀ front method (depth : Nat) back, records = front ++ .entered method depth :: back →
        (depth : Int) = openCalls front ∧
          ∀ limit, machine.limits.maxCallDepth = some limit → depth < limit) ∧
      (machine.Refuses 0 name [] → records = []) ∧
      (¬ machine.Refuses 0 name [] → Log.admits threshold .debug →
        ∃ inner, records = .entered name 0 :: (inner ++ [.exited name]))) ∧
    ∀ frame final called arguments, machine.Visits name session frame final →
      frame.Calls machine called arguments →
      (machine.Refuses final.depth called arguments →
        ∃ fault ended, machine.step frame final = .done (.error fault) ended ∧
          ended.callRecords = final.callRecords) ∧
      (¬ machine.Refuses final.depth called arguments →
        ∃ callee resume opened, machine.step frame final = .call called callee resume opened ∧
          opened.callRecords = final.callRecords ++
            if Log.admits final.journal.threshold .debug then [.entered called final.depth]
            else []) := by
  have hdepth : session.depth = 0 := hruns.evolves Session.evolution_depth
  have hthreshold : session.journal.threshold = threshold :=
    hruns.evolves Session.evolution_threshold
  have hsession := hruns.evolves Session.evolution_consistent (Session.consistent_start _ _)
  constructor
  · obtain ⟨brackets, hnested, hrecords, hrefused, hmade⟩ := exists_brackets_of_run hsession hrun
    rw [hdepth] at hnested hrefused hmade
    rw [hthreshold] at hrecords
    have hreported : Nested machine.limits 0
        (if Log.admits threshold .debug then brackets else []) := by
      split
      · exact hnested
      · exact .nil
    refine ⟨_, hrecords, hreported.balanced, ?_, ?_, ?_⟩
    · intro front method depth back hsplit
      obtain ⟨hopen, hallowed⟩ := hreported.entered hsplit
      refine ⟨by simpa using hopen, ?_⟩
      intro limit hlimit
      exact Limits.lt_of_brokenAt hallowed hlimit
    · intro hrefuses
      simp [hrefused hrefuses]
    · intro hnot hadmits
      rw [if_pos hadmits]
      exact hmade hnot
  · intro frame final called arguments hvisits hcalls
    exact step_of_calls (machine.maintains_inside.visits hsession hvisits).2 hcalls

/-- A sink that takes everything, but fails when it is flushed for the first time. -/
def lateSink : Sink where
  calls := []
  written := #[]
  answer past
    | .write _ => some .done
    | .flush => if .flush ∈ past.calls then some .done else some (.failed 0 .flushFailed)

/-- A run of `lackingOperand` that fails inside of a call, after one that is not flushed and one
that is, closes both of its brackets. -/
theorem calls_reported_lackingOperand :
    ∃ session after,
      lackingOperand.Runs (.start lateSink (some .debug))
        [("one", .error (.output .flushFailed)), ("one", .ok (some (.int 1)))] session ∧
      lackingOperand.run 9 "main" session = some (.error .emptyStack, after) ∧
      after.callRecords = session.callRecords ++
        [.entered "main" 0, .entered "sum" 1, .exited "sum", .exited "main"] ∧
      Balanced [.entered "main" 0, .entered "sum" 1, .exited "sum", .exited "main"] := by
  have hthree : ((lackingOperand.run 9 "one" (.start lateSink (some .debug))).bind fun first =>
      (lackingOperand.run 9 "one" first.2).bind fun second =>
        (lackingOperand.run 9 "main" second.2).map fun third =>
          ([first.1, second.1, third.1], [second.2.callRecords, third.2.callRecords])) =
        some ([.error (.output .flushFailed), .ok (some (.int 1)), .error .emptyStack],
          [[.entered "one" 0, .exited "one", .entered "one" 0, .exited "one"],
           [.entered "one" 0, .exited "one", .entered "one" 0, .exited "one", .entered "main" 0,
             .entered "sum" 1, .exited "sum", .exited "main"]]) := by decide +kernel
  obtain ⟨⟨_, middle⟩, hunflushed, hrest⟩ := Option.bind_eq_some_iff.1 hthree
  obtain ⟨⟨_, session⟩, hone, hrest⟩ := Option.bind_eq_some_iff.1 hrest
  obtain ⟨⟨_, after⟩, hmain, heq⟩ := Option.map_eq_some_iff.1 hrest
  simp only [Prod.mk.injEq, List.cons.injEq, and_true] at heq
  obtain ⟨⟨rfl, rfl, rfl⟩, hearlier, hlater⟩ := heq
  have hruns : lackingOperand.Runs (.start lateSink (some .debug)) _ session :=
    .cons hunflushed (.cons hone .nil)
  obtain ⟨⟨records, hrecords, hbalanced, -⟩, -⟩ := calls_reported_in_brackets hruns hmain
  have hsplit := hrecords
  rw [hearlier, hlater] at hsplit
  obtain rfl : _ = records := by simpa using hsplit
  exact ⟨session, after, hruns, hmain, hrecords, hbalanced⟩

end Machine

end ClassVM
