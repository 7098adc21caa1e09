import ClassVM.Text.BreakClass

/-! # User-perceived characters

A text is cut into extended grapheme clusters: a base character with its marks, a syllable, a pair
of regional indicators, a pictograph sequence, an Indic conjunct. The cut is made in one pass from
left to right; a context of a few flags is all that is remembered of the cluster read so far. -/

namespace ClassVM.Text

/-- How far the cluster has come towards joining a further consonant. -/
inductive Conjunct where
  | none
  | consonant
  | linked
  deriving DecidableEq

/-- What the cluster read so far contributes to the decision about the next character. -/
structure Context where
  /-- The class of the last character. -/
  last : BreakClass
  /-- The cluster ends in an odd number of regional indicators. -/
  oddRegional : Bool
  /-- The cluster ends in a pictograph and characters that extend it. -/
  pictograph : Bool
  /-- The cluster ends in such a pictograph and a joiner. -/
  joined : Bool
  /-- The conjunct that the cluster ends in. -/
  conjunct : Conjunct
  deriving DecidableEq

namespace Context

/-- The context of a cluster that consists of one character. -/
def start (c : Char) : Context where
  last := breakClass c
  oddRegional := breakClass c = .regional
  pictograph := breakClass c = .pictograph
  joined := false
  conjunct := if conjunctClass c = .consonant then .consonant else .none

/-- The conjunct after one more character of the cluster. -/
def nextConjunct (conjunct : Conjunct) : ConjunctClass → Conjunct
  | .consonant => .consonant
  | .linker => if conjunct = .none then .none else .linked
  | .extend => conjunct
  | .other => .none

/-- The context after one more character of the cluster. -/
def push (context : Context) (c : Char) : Context where
  last := breakClass c
  oddRegional := breakClass c = .regional && !context.oddRegional
  pictograph := breakClass c = .pictograph || (breakClass c = .extend && context.pictograph)
  joined := breakClass c = .joiner && context.pictograph
  conjunct := nextConjunct context.conjunct (conjunctClass c)

end Context

/-- A character of the class stands apart from its neighbours on both sides. -/
def BreakClass.isolates : BreakClass → Bool
  | .carriageReturn | .lineFeed | .control => true
  | _ => false

/-- A character of the class never starts a cluster inside a line. -/
def BreakClass.attaches : BreakClass → Bool
  | .extend | .joiner | .spacingMark => true
  | _ => false

/-- Two parts of one Hangul syllable. -/
def BreakClass.sameSyllable : BreakClass → BreakClass → Bool
  | .leading, next =>
      next = .leading || next = .vowel || next = .openSyllable || next = .closedSyllable
  | .openSyllable, next | .vowel, next => next = .vowel || next = .trailing
  | .closedSyllable, next | .trailing, next => next = .trailing
  | _, _ => false

/-- The character belongs to the cluster read so far. -/
def Context.joins (context : Context) (c : Char) : Bool :=
  let next := breakClass c
  if context.last = .carriageReturn && next = .lineFeed then true
  else if context.last.isolates || next.isolates then false
  else
    context.last.sameSyllable next || next.attaches || context.last = .prepend ||
      (context.conjunct = .linked && conjunctClass c = .consonant) ||
      (context.joined && next = .pictograph) ||
      (context.oddRegional && next = .regional)

/-- One cluster, as its characters. -/
abbrev Cluster := List Char

/-- A way of cutting texts into clusters. -/
abbrev Segmenter := String → List Cluster

/-- The clusters of a text whose first cluster has been read up to `current`, latest character
first. -/
def clustersFrom (context : Context) (current : List Char) : List Char → List Cluster
  | [] => [current.reverse]
  | c :: rest =>
      if context.joins c then clustersFrom (context.push c) (c :: current) rest
      else current.reverse :: clustersFrom (Context.start c) [c] rest

/-- The extended grapheme clusters of a text, in order. -/
def clusters (text : String) : List Cluster :=
  match text.toList with
  | [] => []
  | c :: rest => clustersFrom (Context.start c) [c] rest

theorem flatten_clustersFrom (context : Context) (current rest : List Char) :
    (clustersFrom context current rest).flatten = current.reverse ++ rest := by
  induction rest generalizing context current with
  | nil => simp [clustersFrom]
  | cons c rest ih =>
      rw [clustersFrom]
      split
      · simp [ih]
      · simp [ih]

/-- Cutting a text into clusters loses nothing. -/
@[simp] theorem flatten_clusters (text : String) : (clusters text).flatten = text.toList := by
  rw [clusters]
  split
  · next h => simp [h]
  · next c rest h => simp [flatten_clustersFrom, h]

end ClassVM.Text
