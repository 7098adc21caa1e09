import ClassVM.Proofs.DepthLimit

/-! # The number of local variables is only a limit

A frame that has more local variables than another, and the same contents in those that both have,
does what the other does until that one asks for a variable that it lacks. So a machine that gives
its frames more room answers as before, unless a run was cut short for want of room, and then it
goes on from there. -/

namespace ClassVM

/-- The fault is a slot that a frame lacks, or more arguments than it has slots. -/
def Fault.OfRoom : Fault → Prop
  | .localOutOfRange _ _ | .tooManyArguments _ _ => True
  | _ => False

namespace Locals

/-- Every slot is also a slot of the other, with the same contents. -/
def Within (locals roomier : Locals) : Prop :=
  ∀ (i : Nat) contents, locals.slots[i]? = some contents → roomier.slots[i]? = some contents

variable {locals roomier : Locals}

theorem Within.slot (h : locals.Within roomier) (index : UInt8) :
    AgreesUnless Fault.OfRoom Eq (locals.slot index) (roomier.slot index) := by
  unfold Locals.slot
  cases hslot : locals.slots[index.toNat]? with
  | none => exact .cut trivial
  | some contents =>
      rw [h _ _ hslot]
      exact .found rfl

theorem Within.put (h : locals.Within roomier) (index : UInt8) (made : Option Value) :
    (locals.put index made).Within (roomier.put index made) := by
  intro i contents hslot
  simp only [Locals.put, Array.getElem?_setIfInBounds] at hslot ⊢
  split at hslot
  · next heq =>
      subst heq
      split at hslot
      · next hlt =>
          have hexists := h _ _ (Array.getElem?_eq_getElem hlt)
          have hlt' := (Array.getElem?_eq_some_iff.1 hexists).1
          rw [if_pos rfl, if_pos hlt', hslot]
      · cases hslot
  · next hne =>
      rw [if_neg hne]
      exact h i contents hslot

/-- Local variables within others are used alike, but for those that are lacking. -/
theorem parallel_within : Locals.Parallel Within Fault.OfRoom where
  get h index := by
    apply (h.slot index).bind
    rintro contents _ rfl
    exact .refl _
  change {locals roomier} h index make := by
    have hslot := h.slot index
    unfold Locals.change
    generalize locals.slot index = found at hslot
    generalize roomier.slot index = found' at hslot
    cases hslot with
    | failed => exact .failed
    | cut cuts => exact .cut cuts
    | @found contents _ same =>
        cases same
        simp only
        cases (make contents).1 with
        | error fault => exact .failed
        | ok _ => exact .found (h.put index _)

/-- The same arguments stand in the slots of a frame and in the first of a larger one. -/
theorem create_within {capacity capacity' : Nat} (hle : capacity ≤ capacity')
    (arguments : List Value) :
    AgreesUnless Fault.OfRoom Within (create capacity arguments) (create capacity' arguments) := by
  unfold create
  split
  · next hfits =>
      rw [if_pos (Nat.le_trans hfits hle)]
      refine .found ?_
      intro i contents hslot
      simp only [Array.getElem?_append, Array.getElem?_replicate] at hslot ⊢
      split at hslot
      · next hargument => rw [if_pos hargument, hslot]
      · next hempty =>
          -- Behind the arguments, a slot of the smaller frame is empty in both.
          split at hslot
          · next hlt =>
              have hlt' : i - (arguments.map some).toArray.size < capacity' - arguments.length := by
                omega
              rw [if_neg hempty, if_pos hlt', hslot]
          · cases hslot
  · exact .cut trivial

end Locals

/-- The same method, but for more local variables. -/
structure Method.Roomier (method roomier : Method) : Prop where
  same : roomier = { method with maxLocals := roomier.maxLocals }
  maxLocals : method.maxLocals ≤ roomier.maxLocals

namespace Machine

/-- The same class and the same limit on the depth, but more local variables for all frames or for
those of some methods. -/
structure Roomier (machine roomier : Machine) : Prop where
  classFile : roomier.classFile =
    { machine.classFile with methods := roomier.classFile.methods }
  methods : List.Forall₂ Method.Roomier machine.classFile.methods roomier.classFile.methods
  maxCallDepth : roomier.limits.maxCallDepth = machine.limits.maxCallDepth
  localsCapacity : machine.limits.localsCapacity ≤ roomier.limits.localsCapacity
  segment : roomier.segment = machine.segment

variable {machine roomier : Machine}

namespace Roomier

theorem pool (h : machine.Roomier roomier) : machine.classFile.pool = roomier.classFile.pool := by
  rw [h.classFile]

/-- The same methods are found, perhaps with more local variables. -/
theorem method? (h : machine.Roomier roomier) (name : String) :
    Option.Rel Method.Roomier (machine.classFile.method? name)
      (roomier.classFile.method? name) := by
  apply ClassFile.rel_find? _ h.methods
  intro method method' hroomier
  rw [ClassFile.isNamed, ClassFile.isNamed, ClassFile.methodName, ClassFile.methodName, h.pool,
    hroomier.same]

theorem counterpart (h : machine.Roomier roomier) (name : String) {method method' : Method}
    (hmethod : method.Roomier method') :
    machine.Counterpart roomier Locals.Within Eq Fault.OfRoom name method method' where
  code := by rw [hmethod.same]
  announced := by
    rintro session _ rfl
    rw [hmethod.same]
    rfl
  room arguments := by
    apply Locals.create_within
    have hcapacity := h.localsCapacity
    have hmaxLocals := hmethod.maxLocals
    omega

/-- A machine does what a roomier one does, until it lacks a local variable. -/
theorem follows (h : machine.Roomier roomier) :
    machine.Follows roomier Locals.Within Eq Fault.OfRoom := by
  apply follows_of_counterparts Session.companions_eq h.segment.symm _ Locals.parallel_within
    h.maxCallDepth.symm
  · intro name method hmethod
    have hrel := h.method? name
    rw [hmethod] at hrel
    generalize hmethod' : roomier.classFile.method? name = found at hrel
    cases hrel with
    | some hroomier => exact ⟨_, rfl, h.counterpart name hroomier⟩
  · intro name habsent
    have hrel := h.method? name
    rw [habsent] at hrel
    generalize roomier.classFile.method? name = found at hrel
    cases hrel with
    | none => exact .inl rfl
  · intro session session' hsession value
    exact .inl (Session.answeredAlike_of_eq _ hsession)
  · exact ClassFile.parallel_of_pool h.pool (by rw [h.classFile]) _

end Roomier

/-- A run that ends for any other reason than a lack of local variables ends the same way with more
of them, and what a run writes until it lacks one is where the output of the roomier run begins. -/
theorem run_of_roomier (h : machine.Roomier roomier) {fuel : Nat} {name : String}
    {session after : Session} {answer : Answer}
    (hrun : machine.run fuel name session = some (answer, after)) :
    ((∀ fault, answer = .error fault → ¬ fault.OfRoom) →
      roomier.run fuel name session = some (answer, after)) ∧
    ∀ fuel' answer' after', roomier.run fuel' name session = some (answer', after') →
      after.output <+: after'.output := by
  constructor
  · intro hanswer
    obtain ⟨after', hrun', rfl⟩ | ⟨fault, rfl, hcut⟩ :=
      h.follows.run (Session.answeredAlike_of_eq .flush) rfl hrun
    · exact hrun'
    · exact absurd hcut (hanswer fault rfl)
  · intro fuel' answer' after' hrun'
    apply h.follows.run_output_isPrefix _ _ rfl hrun hrun'
    · rintro session _ rfl
      exact List.prefix_refl _
    · intro cause hcut
      exact hcut

/-- The class of `twoLines`, with another `main`: it writes a line, then puts a number into its third
local variable and returns it. -/
def storesThird (localsCapacity maxLocals : Nat) : Machine where
  classFile :=
    { twoLines.classFile with
      methods :=
        [⟨⟨8⟩, ⟨3⟩, ⟨4⟩, 4, maxLocals, [0xB2, 0, 13, 0x05, 0xB6, 0, 17, 0x06, 0x3D, 0x1C, 0xAC]⟩] }
  limits := { localsCapacity }

theorem roomier_storesThird {capacity capacity' maxLocals maxLocals' : Nat}
    (hcapacity : capacity ≤ capacity') (hmaxLocals : maxLocals ≤ maxLocals') :
    (storesThird capacity maxLocals).Roomier (storesThird capacity' maxLocals') where
  classFile := rfl
  methods := .cons ⟨rfl, hmaxLocals⟩ .nil
  maxCallDepth := rfl
  localsCapacity := hcapacity
  segment := rfl

/-- Cut short after the first line for want of a third variable, and ending with three of them. -/
theorem run_of_roomier_storesThird :
    (∃ after, (storesThird 1 2).run 20 "main" (.start .unlimited none) =
        some (.error (.localOutOfRange 2 2), after) ∧ after.output = [50, 10] ∧
      ∀ fuel' answer' after',
        (storesThird 1 3).run fuel' "main" (.start .unlimited none) = some (answer', after') →
          after.output <+: after'.output) ∧
    ∃ after, (storesThird 10 2).run 20 "main" (.start .unlimited none) =
      some (.ok (some (.int 3)), after) ∧ after.output = [50, 10] := by
  constructor
  · have hcut : ((storesThird 1 2).run 20 "main" (.start .unlimited none)).map
        (fun found => (found.1, found.2.output)) =
          some (.error (.localOutOfRange 2 2), [50, 10]) := by decide +kernel
    obtain ⟨after, hrun, houtput⟩ := exists_of_observed hcut
    have hroomier := roomier_storesThird (Nat.le_refl 1) (Nat.le_succ 2)
    exact ⟨after, hrun, houtput, (run_of_roomier hroomier hrun).2⟩
  · have hends : ((storesThird 3 2).run 20 "main" (.start .unlimited none)).map
        (fun found => (found.1, found.2.output)) =
          some (.ok (some (.int 3)), [50, 10]) := by decide +kernel
    obtain ⟨after, hrun, houtput⟩ := exists_of_observed hends
    have hroomier := roomier_storesThird (by decide : 3 ≤ 10) (Nat.le_refl 2)
    exact ⟨after, (run_of_roomier hroomier hrun).1 (by simp), houtput⟩

end Machine

end ClassVM
