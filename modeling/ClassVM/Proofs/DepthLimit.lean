import ClassVM.Proofs.Simulation

/-! # A limit on the depth only cuts runs off

Nothing but a call looks at the limit, and it looks at it first. So a machine with a limit does what
a machine with a wider one does, step by step, until a call is refused. -/

namespace ClassVM

namespace Machine

/-- The machine with another limit on the depth of calls. -/
def withDepth (machine : Machine) (bound : Option Nat) : Machine :=
  { machine with limits := { machine.limits with maxCallDepth := bound } }

variable (machine : Machine) {limit fuel : Nat} {wider : Option Nat}

/-- A depth that a wider limit does not allow is not allowed by the limit. -/
theorem brokenAt_withDepth_of_wider (hwider : ∀ bound ∈ wider, limit ≤ bound) (depth : Nat) :
    (machine.withDepth (some limit)).limits.brokenAt depth = some limit ∨
      (machine.withDepth (some limit)).limits.brokenAt depth = none ∧
        (machine.withDepth wider).limits.brokenAt depth = none := by
  simp only [withDepth, Limits.brokenAt, Option.filter_some, Option.filter_eq_none_iff,
    decide_eq_true_eq]
  by_cases hdepth : limit ≤ depth
  · left
    rw [if_pos hdepth]
  · right
    refine ⟨if_neg hdepth, ?_⟩
    intro bound hbound
    have hle := hwider bound hbound
    omega

/-- A call is refused for the limit, or made as with a wider one. -/
theorem enter_withDepth_of_wider (hwider : ∀ bound ∈ wider, limit ≤ bound) (name : String)
    (arguments : List Value) (session : Session) :
    (machine.withDepth (some limit)).enter name arguments session =
        (machine.withDepth wider).enter name arguments session ∨
      (machine.withDepth (some limit)).enter name arguments session =
        (.error (.callDepthExceeded limit), session) := by
  obtain hbroken | ⟨hnarrow, hwide⟩ :=
    machine.brokenAt_withDepth_of_wider hwider session.depth
  · right
    rw [enter, hbroken]
  · left
    rw [enter, hnarrow, enter, hwide]
    rfl

/-- A machine does what it would do with a wider limit, until the limit cuts it off. -/
theorem simulates_wider (hwider : ∀ bound ∈ wider, limit ≤ bound) :
    (machine.withDepth (some limit)).Simulates (machine.withDepth wider) Eq
      (· = .callDepthExceeded limit) where
  classFile := rfl
  segment := rfl
  enter {session _} hsession name arguments := by
    subst hsession
    obtain hsame | hrefused := machine.enter_withDepth_of_wider hwider name arguments session
    · left
      rw [hsame]
      exact Step.entered_of_eq rfl rfl
    · exact .inr ⟨_, _, hrefused, rfl⟩
  note := by
    rintro session _ rfl event
    rfl
  ask hsession call := Session.answeredAlike_of_eq call hsession
  closed := by
    rintro session _ rfl name
    rfl

/-- A run that ends within a limit on the depth ends the same way with any wider limit and without
one, and what a run writes until the limit cuts it off is where the output of the wider run
begins. -/
theorem run_withDepth_of_wider (hwider : ∀ bound ∈ wider, limit ≤ bound) {name : String}
    {session after : Session} {answer : Answer}
    (hrun : (machine.withDepth (some limit)).run fuel name session = some (answer, after)) :
    (answer ≠ .error (.callDepthExceeded limit) →
      (machine.withDepth wider).run fuel name session = some (answer, after)) ∧
    (answer = .error (.callDepthExceeded limit) →
      ∀ fuel' answer' after',
        (machine.withDepth wider).run fuel' name session = some (answer', after') →
          after.output <+: after'.output) := by
  have hsimulates := machine.simulates_wider hwider
  constructor
  · intro hanswer
    obtain ⟨after', hrun', rfl⟩ | ⟨fault, rfl, rfl⟩ := hsimulates.run rfl hrun
    · exact hrun'
    · exact absurd rfl hanswer
  · intro _ fuel' answer' after' hrun'
    apply hsimulates.run_output_isPrefix _ _ rfl hrun hrun'
    · rintro session _ rfl
      exact List.prefix_refl _
    · intro cause hcut
      cases hcut

/-- A class whose `main` writes a line and calls `inner`, which writes another. -/
def twoLines : Machine where
  classFile :=
    { minorVersion := 0
      majorVersion := 52
      pool := ⟨#[.utf8 "Test", .classRef ⟨1⟩, .utf8 "main", .utf8 "()I", .utf8 "inner",
        .nameAndType ⟨5⟩ ⟨4⟩, .methodRef ⟨⟨2⟩, ⟨6⟩⟩, .utf8 "java/lang/System", .classRef ⟨8⟩,
        .utf8 "out", .utf8 "Ljava/io/PrintStream;", .nameAndType ⟨10⟩ ⟨11⟩,
        .fieldRef ⟨⟨9⟩, ⟨12⟩⟩, .utf8 "println", .utf8 "(I)V", .nameAndType ⟨14⟩ ⟨15⟩,
        .methodRef ⟨⟨9⟩, ⟨16⟩⟩]⟩
      access := 0
      thisClass := ⟨2⟩
      superClass := ⟨2⟩
      interfaces := []
      methods :=
        [⟨⟨8⟩, ⟨3⟩, ⟨4⟩, 4, 2, [0xB2, 0, 13, 0x05, 0xB6, 0, 17, 0xB8, 0, 7, 0xAC]⟩,
          ⟨⟨8⟩, ⟨5⟩, ⟨4⟩, 4, 2, [0xB2, 0, 13, 0x06, 0xB6, 0, 17, 0x04, 0xAC]⟩] }
  limits := {}

/-- Cut off after the first line, and ending within the limit. -/
theorem run_withDepth_twoLines :
    (∃ after, (twoLines.withDepth (some 1)).run 20 "main" (.start .unlimited none) =
        some (.error (.callDepthExceeded 1), after) ∧ after.output = [50, 10] ∧
      ∀ fuel' answer' after',
        (twoLines.withDepth (some 2)).run fuel' "main" (.start .unlimited none) =
          some (answer', after') → after.output <+: after'.output) ∧
    ∃ after, (twoLines.withDepth none).run 20 "main" (.start .unlimited none) =
      some (.ok (some (.int 1)), after) ∧ after.output = [50, 10, 51, 10] := by
  constructor
  · have hcut : ((twoLines.withDepth (some 1)).run 20 "main" (.start .unlimited none)).map
        (fun found => (found.1, found.2.output)) =
          some (.error (.callDepthExceeded 1), [50, 10]) := by decide +kernel
    obtain ⟨⟨_, after⟩, hrun, heq⟩ := Option.map_eq_some_iff.1 hcut
    simp only [Prod.mk.injEq] at heq
    obtain ⟨rfl, houtput⟩ := heq
    exact ⟨after, hrun, houtput, (run_withDepth_of_wider twoLines (by simp) hrun).2 rfl⟩
  · have hends : ((twoLines.withDepth (some 2)).run 20 "main" (.start .unlimited none)).map
        (fun found => (found.1, found.2.output)) =
          some (.ok (some (.int 1)), [50, 10, 51, 10]) := by decide +kernel
    obtain ⟨⟨_, after⟩, hrun, heq⟩ := Option.map_eq_some_iff.1 hends
    simp only [Prod.mk.injEq] at heq
    obtain ⟨rfl, houtput⟩ := heq
    have hnone : ∀ bound ∈ (none : Option Nat), 2 ≤ bound := by simp
    exact ⟨after, (run_withDepth_of_wider twoLines hnone hrun).1 (by simp), houtput⟩

end Machine

end ClassVM
