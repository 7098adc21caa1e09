import ClassVM.Proofs.ProgramCounter

/-! # What is listed is what is run

A machine keeps the methods that it has decoded, and takes what it keeps for the code of a method
when the method is called again. Between runs and in the midst of them, whether runs succeed or
fail, what it loads is what decoding the first method of the name gives, and why it fails to load is
why that method cannot be decoded. -/

namespace ClassVM

namespace ClassFile

variable {classFile : ClassFile} {name : String}

/-! ## Methods by name -/

/-- The method bears the name, and none of the methods before it does. A method whose name cannot
be looked up may stand before it. -/
def FirstNamed (classFile : ClassFile) (name : String) (method : Method) : Prop :=
  ∃ front back, classFile.methods = front ++ method :: back ∧
    classFile.methodName method = .ok name ∧
    ∀ earlier ∈ front, classFile.methodName earlier ≠ .ok name

theorem isNamed_iff {method : Method} :
    classFile.isNamed name method = true ↔ classFile.methodName method = .ok name := by
  unfold isNamed
  cases classFile.methodName method with
  | error e => simp
  | ok found => simp

theorem method?_eq_some_iff {method : Method} :
    classFile.method? name = some method ↔ classFile.FirstNamed name method := by
  rw [method?, List.find?_eq_some_iff_append, isNamed_iff]
  constructor
  · rintro ⟨hnamed, front, back, hmethods, hearlier⟩
    refine ⟨front, back, hmethods, hnamed, ?_⟩
    intro earlier hmem hname
    have hnot := hearlier earlier hmem
    rw [isNamed_iff.2 hname] at hnot
    cases hnot
  · rintro ⟨front, back, hmethods, hnamed, hearlier⟩
    refine ⟨hnamed, front, back, hmethods, ?_⟩
    intro earlier hmem
    rw [Bool.not_eq_true', Bool.eq_false_iff]
    intro hfound
    exact hearlier earlier hmem (isNamed_iff.1 hfound)

/-! ## Decoding by name -/

/-- A method is loaded exactly if it is decoded, with the local variables of the first method of its
name. -/
theorem loaded_eq_ok_iff {program : Program} {maxLocals : Nat} :
    classFile.loaded name = .ok (program, maxLocals) ↔
      (classFile.instructionsOf name).outcome = .ok program.toList ∧
        ∃ method, classFile.FirstNamed name method ∧ maxLocals = method.maxLocals := by
  simp only [loaded, instructionsOf, ← method?_eq_some_iff]
  cases classFile.method? name with
  | none => simp [Log.Traced.fail]
  | some method =>
      simp only
      cases method.instructions.outcome with
      | error e => simp
      | ok instructions =>
          simp only [Except.ok.injEq, Prod.mk.injEq, Option.some.injEq, exists_eq_left']
          constructor
          · rintro ⟨rfl, rfl⟩
            exact ⟨rfl, rfl⟩
          · rintro ⟨rfl, rfl⟩
            exact ⟨rfl, rfl⟩

/-- A method is not loaded exactly if it is not decoded, for the same reason. -/
theorem loaded_eq_error_iff {fault : Fault} :
    classFile.loaded name = .error fault ↔
      ∃ cause, (classFile.instructionsOf name).outcome = .error cause ∧ fault = .method cause := by
  simp only [loaded, instructionsOf]
  cases classFile.method? name with
  | none => simp [Log.Traced.fail, eq_comm]
  | some method =>
      simp only
      cases method.instructions.outcome with
      | error e => simp [eq_comm]
      | ok instructions => simp

end ClassFile

/-! ## Sessions of a machine -/

namespace Machine

variable {machine : Machine} {session : Session}

/-- The session is one that the machine comes to: between runs, or at a frame of a run that is still
under way. -/
inductive Arises (machine : Machine) : Session → Prop
  | between {sink threshold calls session}
      (runs : machine.Runs (.start sink threshold) calls session) : Arises machine session
  | during {sink threshold calls session name frame final}
      (runs : machine.Runs (.start sink threshold) calls session)
      (visits : machine.Visits name session frame final) : Arises machine final

theorem Arises.consistent (h : machine.Arises session) : session.Consistent machine.classFile := by
  cases h with
  | between runs => exact runs.consistent
  | during runs visits => exact (machine.maintains_inside.visits runs.consistent visits).2

/-- In every session that a machine comes to, a method is loaded exactly if it is decoded, with the
instructions that decoding gives and the local variables of the first method of its name. If it is
not loaded, the reason is that of decoding. What is kept is what decoding gives, and a method that
cannot be decoded is not kept. -/
theorem load_agrees_with_decoding (h : machine.Arises session) :
    (∀ name,
      (∀ program maxLocals,
        (session.load machine.classFile name).1 = .ok (program, maxLocals) ↔
          (machine.classFile.instructionsOf name).outcome = .ok program.toList ∧
            ∃ method, machine.classFile.FirstNamed name method ∧ maxLocals = method.maxLocals) ∧
      ∀ fault,
        (session.load machine.classFile name).1 = .error fault ↔
          ∃ cause, (machine.classFile.instructionsOf name).outcome = .error cause ∧
            fault = .method cause) ∧
    (∀ kept ∈ session.programs,
      (machine.classFile.instructionsOf kept.1).outcome = .ok kept.2.toList) ∧
    ∀ name cause, (machine.classFile.instructionsOf name).outcome = .error cause →
      ∀ program, (name, program) ∉ session.programs := by
  have hconsistent := h.consistent
  refine ⟨fun name => ?_, hconsistent, ?_⟩
  · rw [hconsistent.load_fst name]
    exact ⟨fun _ _ => ClassFile.loaded_eq_ok_iff, fun _ => ClassFile.loaded_eq_error_iff⟩
  · intro name cause hcause program hkept
    rw [hconsistent _ hkept] at hcause
    cases hcause

/-- A class whose first method has no name, with two methods named `main`. The first of these calls
`good` and then `bad`, whose code cannot be decoded. -/
def brokenCallee : Machine where
  classFile :=
    { minorVersion := 0
      majorVersion := 52
      pool := ⟨#[.utf8 "Test", .classRef ⟨1⟩, .utf8 "main", .utf8 "()V", .utf8 "good",
        .nameAndType ⟨5⟩ ⟨4⟩, .methodRef ⟨⟨2⟩, ⟨6⟩⟩, .utf8 "bad", .nameAndType ⟨8⟩ ⟨4⟩,
        .methodRef ⟨⟨2⟩, ⟨9⟩⟩]⟩
      access := 0
      thisClass := ⟨2⟩
      superClass := ⟨2⟩
      interfaces := []
      methods :=
        [⟨⟨8⟩, ⟨40⟩, ⟨4⟩, 4, 1, [0xB1]⟩, ⟨⟨8⟩, ⟨3⟩, ⟨4⟩, 4, 2, [0xB8, 0, 7, 0xB8, 0, 10, 0xB1]⟩,
          ⟨⟨8⟩, ⟨3⟩, ⟨4⟩, 4, 7, [0xB1]⟩, ⟨⟨8⟩, ⟨5⟩, ⟨4⟩, 4, 3, [0xB1]⟩,
          ⟨⟨8⟩, ⟨8⟩, ⟨4⟩, 4, 4, [0x04, 0xFF]⟩] }
  limits := {}

/-- A run that fails because a method cannot be decoded keeps the other two. -/
theorem load_agrees_with_decoding_brokenCallee :
    ∃ session,
      brokenCallee.Runs (.start .unlimited none)
        [("main", .error (.method (.decoding (.unsupportedOpcode 0xFF 1))))] session ∧
      session.programs.map Prod.fst = ["good", "main"] ∧
      (session.load brokenCallee.classFile "main").1 =
        .ok (#[.invokeStatic ⟨7⟩, .invokeStatic ⟨10⟩, .returnNothing], 2) ∧
      (session.load brokenCallee.classFile "bad").1 =
        .error (.method (.decoding (.unsupportedOpcode 0xFF 1))) ∧
      ∀ program, ("bad", program) ∉ session.programs := by
  have hfails : ((brokenCallee.run 9 "main" (.start .unlimited none)).map fun found =>
      (found.1, found.2.programs.map Prod.fst)) =
        some (.error (.method (.decoding (.unsupportedOpcode 0xFF 1))), ["good", "main"]) := by
    decide +kernel
  have hmain : (brokenCallee.classFile.instructionsOf "main").outcome =
      .ok [.invokeStatic ⟨7⟩, .invokeStatic ⟨10⟩, .returnNothing] := by decide +kernel
  have hbad : (brokenCallee.classFile.instructionsOf "bad").outcome =
      .error (.decoding (.unsupportedOpcode 0xFF 1)) := by decide +kernel
  obtain ⟨⟨_, session⟩, hrun, heq⟩ := Option.map_eq_some_iff.1 hfails
  simp only [Prod.mk.injEq] at heq
  obtain ⟨rfl, hkept⟩ := heq
  have hruns : brokenCallee.Runs (.start .unlimited none) _ session := .cons hrun .nil
  obtain ⟨hload, -, habsent⟩ := load_agrees_with_decoding (.between hruns)
  have hfirst := ClassFile.method?_eq_some_iff.1
    (rfl : brokenCallee.classFile.method? "main" = some _)
  exact ⟨session, hruns, hkept, ((hload "main").1 _ _).2 ⟨hmain, _, hfirst, rfl⟩,
    ((hload "bad").2 _).2 ⟨_, hbad, rfl⟩, habsent "bad" _ hbad⟩

end Machine

end ClassVM
