import ClassVM.Text.Cluster
import ClassVM.Text.Quoted

/-! # Method descriptors

A descriptor lists the types of a method's parameters and the type of its result. It is read by
clusters, so that a letter with a mark on it is no type letter; how texts are cut into clusters is
left open here. Nothing may stand before or after the descriptor, and a parameter is never of the
type `V`. -/

namespace ClassVM

open Text (Cluster Segmenter)

/-- The type of a value, or of no value. -/
inductive ValueType where
  | void
  | byte
  | char
  | int
  | long
  | float
  | double
  | short
  | boolean
  | reference (name : String)
  | array (element : ValueType)
  deriving DecidableEq

namespace ValueType

/-- The description of a type. -/
def describe : ValueType → String
  | .void => "Void"
  | .byte => "Byte"
  | .char => "Char"
  | .int => "Integer"
  | .long => "Long"
  | .float => "Float"
  | .double => "Double"
  | .short => "Short"
  | .boolean => "Boolean"
  | .reference name => "Reference(" ++ Text.quoted name ++ ")"
  | .array element => "Array(" ++ element.describe ++ ")"

/-- The type that a single letter stands for. -/
def ofLetter : Cluster → Option ValueType
  | ['B'] => some .byte
  | ['C'] => some .char
  | ['D'] => some .double
  | ['F'] => some .float
  | ['I'] => some .int
  | ['J'] => some .long
  | ['S'] => some .short
  | ['Z'] => some .boolean
  | ['V'] => some .void
  | _ => none

/-- The clusters up to the one given, and those after it. -/
def splitAt? (stop : Cluster) : List Cluster → Option (List Cluster × List Cluster)
  | [] => none
  | cluster :: rest =>
      if cluster = stop then some ([], rest)
      else (splitAt? stop rest).map fun (before, after) => (cluster :: before, after)

/-- Reads one type. The clusters that are left come with it, also when there is no type: a letter
that is none is used up, and a class name without an end uses up everything. -/
def parse : List Cluster → Option ValueType × List Cluster
  | [] => (none, [])
  | cluster :: rest =>
      if cluster = ['['] then
        match parse rest with
        | (element, after) => (element.map .array, after)
      else if cluster = ['L'] then
        match splitAt? [';'] rest with
        | none => (none, [])
        | some (name, after) => (some (.reference (String.ofList name.flatten)), after)
      else (ofLetter cluster, rest)

theorem splitAt?_length {stop : Cluster} {text before after : List Cluster}
    (h : splitAt? stop text = some (before, after)) : after.length < text.length := by
  induction text generalizing before after with
  | nil => simp [splitAt?] at h
  | cons cluster rest ih =>
      rw [splitAt?] at h
      split at h
      · simp only [Option.some.injEq, Prod.mk.injEq] at h
        simp [h.2]
      · obtain ⟨⟨name, left⟩, hsplit, heq⟩ := Option.map_eq_some_iff.1 h
        simp only [Prod.mk.injEq] at heq
        have := ih hsplit
        rw [← heq.2, List.length_cons]
        omega

/-- Reading a type uses up at least one cluster. -/
theorem length_parse_cons_le (cluster : Cluster) (rest : List Cluster) :
    (parse (cluster :: rest)).2.length ≤ rest.length := by
  induction rest generalizing cluster with
  | nil =>
      rw [parse]
      split
      · simp [parse]
      · split
        · simp [splitAt?]
        · simp
  | cons next rest ih =>
      rw [parse]
      split
      · exact Nat.le_trans (ih next) (by simp)
      · split
        · split
          · simp
          · next name after h => exact Nat.le_of_lt (splitAt?_length h)
        · simp

end ValueType

/-- The parameters and the result of a method. -/
structure Descriptor where
  parameters : List ValueType
  result : ValueType
  deriving DecidableEq

namespace Descriptor

/-- The text is no descriptor. -/
structure ParseError where
  text : String
  deriving DecidableEq

/-- The wording of the error. -/
def ParseError.message (e : ParseError) : String :=
  "invalid method descriptor " ++ e.text

/-- The number of parameters. -/
def arity (descriptor : Descriptor) : Nat := descriptor.parameters.length

/-- Reads parameters up to the closing parenthesis, and gives the clusters after it. -/
def parseParameters : List Cluster → Option (List ValueType × List Cluster)
  | [] => none
  | cluster :: rest =>
      if cluster = [')'] then some ([], rest)
      else
        match _h : ValueType.parse (cluster :: rest) with
        | (none, _) | (some .void, _) => none
        | (some first, after) =>
            match parseParameters after with
            | none => none
            | some (others, left) => some (first :: others, left)
termination_by text => text.length
decreasing_by
  have := ValueType.length_parse_cons_le cluster rest
  rw [_h] at this
  exact Nat.lt_succ_of_le this

/-- The descriptor that the clusters spell. -/
def ofClusters? (text : List Cluster) : Option Descriptor :=
  match text with
  | [] => none
  | cluster :: rest =>
      if cluster = ['('] then
        match parseParameters rest with
        | none => none
        | some (parameters, after) =>
            match ValueType.parse after with
            | (some result, []) => some { parameters, result }
            | _ => none
      else none

/-- The descriptor that a text spells, once it is cut into clusters. -/
def parse (segment : Segmenter) (text : String) : Except ParseError Descriptor :=
  match ofClusters? (segment text) with
  | some descriptor => .ok descriptor
  | none => .error ⟨text⟩

end Descriptor

end ClassVM
