import ClassVM.Log.Record
import ClassVM.Text.Likeness

/-! # Arguments of the program

Settings take a value, in the next argument or after an equals sign; switches take none. Single
letters may be grouped behind one dash, and what follows the letter of a setting is its value. After
`--` every argument is positional. The one positional argument names the class and is required.

A setting that is left without a value keeps its default, if it has one. An argument that begins
with a dash is never the value of the setting before it, except for a dash alone.

The arguments are read from left to right, and the first that has no place ends the reading, as does
the wish for help or the version. Only when all have been read is it asked whether the class is
there, then whether a value is missing, and last whether something was given more than once. -/

namespace ClassVM.CommandLine

/-- What takes a value. -/
inductive Setting where
  | classPath
  | method
  | maxDepth
  deriving DecidableEq

/-- A setting as messages show it. -/
def Setting.display : Setting → String
  | .classPath => "--classpath <DIR>"
  | .method => "--method <NAME>"
  | .maxDepth => "--max-depth <N>"

/-- What a name after two dashes stands for. -/
inductive LongName where
  | disassemble
  | help
  | version
  | setting (setting : Setting)

/-- The names after two dashes and their meaning, switches first. -/
def longNames : List (String × LongName) := [
  ("disassemble", .disassemble), ("help", .help), ("version", .version),
  ("classpath", .setting .classPath), ("method", .setting .method),
  ("max-depth", .setting .maxDepth)]

/-- The meaning of a name after two dashes. -/
def longName? (name : String) : Option LongName :=
  longNames.lookup name

/-- Why the arguments do not lead to a run. -/
inductive Refusal where
  /-- Only the help is asked for. -/
  | help
  /-- Only the version is asked for. -/
  | version
  /-- An argument has no place; a name that it looks like is proposed. -/
  | unexpected (argument : String) (proposal : Option String)
  | missingClass
  | missingValue (setting : Setting)
  | repeated (shown : String)
  deriving DecidableEq

/-- Text that a terminal shows in green. -/
def inGreen (text : String) : String :=
  "\x1b[32m" ++ text ++ "\x1b[0m"

/-- The line that proposes a name. -/
def proposalLine (name : String) : String :=
  "\tDid you mean " ++ inGreen "--" ++ inGreen name ++ "?"

/-- The wording of a refusal, line by line. -/
def Refusal.lines : Refusal → List String
  | .help | .version => []
  | .unexpected argument proposal =>
      ("error: Found argument '" ++ argument ++
        "' which wasn't expected, or isn't valid in this context") ::
          (proposal.map proposalLine).toList
  | .missingClass =>
      ["error: The following required arguments were not provided:", "    <CLASS>"]
  | .missingValue setting =>
      ["error: The argument '" ++ setting.display ++ "' requires a value but none was supplied"]
  | .repeated shown =>
      ["error: The argument '" ++ shown ++
        "' was provided more than once, but cannot be used multiple times"]

/-- How often a setting was given, and its value if it got one. -/
structure Given where
  times : Nat := 0
  value? : Option String := none
  deriving DecidableEq

/-- The setting was given and got no value. -/
def Given.isBare (given : Given) : Bool :=
  0 < given.times && given.value?.isNone

/-- What the arguments read so far say. -/
structure Seen where
  classPath : Given := {}
  method : Given := {}
  maxDepth : Given := {}
  disassemble : Nat := 0
  verbosity : Nat := 0
  className : Option String := none
  deriving DecidableEq

namespace Seen

/-- What is known of a setting. -/
def get (seen : Seen) : Setting → Given
  | .classPath => seen.classPath
  | .method => seen.method
  | .maxDepth => seen.maxDepth

/-- Records a setting. -/
def set (seen : Seen) (setting : Setting) (given : Given) : Seen :=
  match setting with
  | .classPath => { seen with classPath := given }
  | .method => { seen with method := given }
  | .maxDepth => { seen with maxDepth := given }

/-- Records the value of a setting that has been named. -/
def addValue (seen : Seen) (setting : Setting) (value : String) : Seen :=
  seen.set setting { seen.get setting with value? := some value }

/-- Records that a setting is named, and its value if that is attached to the name; otherwise the
setting waits for one. Equals signs before an attached value do not count. -/
def addSetting (seen : Seen) (setting : Setting) (attached : Option (List Char)) :
    Seen × Option Setting :=
  let given := seen.get setting
  let named := seen.set setting { given with times := given.times + 1 }
  match attached with
  | none => (named, some setting)
  | some text => (named.addValue setting (String.ofList (text.dropWhile (· = '='))), none)

/-- Records a positional argument, of which there is only one. -/
def addPositional (seen : Seen) (argument : String) : Except Refusal Seen :=
  match seen.className with
  | some _ => .error (.unexpected argument none)
  | none => .ok { seen with className := some argument }

/-- Records an argument that begins with two dashes. -/
def addLong (seen : Seen) (argument : String) : Except Refusal (Seen × Option Setting) :=
  let text := argument.toList.dropWhile (· = '-')
  let name := String.ofList (text.takeWhile (· ≠ '='))
  let attached := if argument.toList.contains '=' then
    some ((text.dropWhile (· ≠ '=')).drop 1) else none
  match longName? name with
  | none => .error (.unexpected ("--" ++ name) (Text.nearest? name (longNames.map (·.1))))
  | some .help => .error .help
  | some .version => .error .version
  | some .disassemble => .ok ({ seen with disassemble := seen.disassemble + 1 }, none)
  | some (.setting setting) => .ok (seen.addSetting setting attached)

/-- Records the letters behind one dash. -/
def addShort (seen : Seen) : List Char → Except Refusal (Seen × Option Setting)
  | [] => .ok (seen, none)
  | c :: rest =>
      if c = 'm' then .ok (seen.addSetting .method (if rest.isEmpty then none else some rest))
      else if c = 'v' then addShort { seen with verbosity := seen.verbosity + 1 } rest
      else if c = 'h' then .error .help
      else if c = 'V' then .error .version
      else .error (.unexpected (String.ofList ['-', c]) none)

/-- What was given more than once and may be given only once; of several, settings come first. -/
def repeated? (seen : Seen) : Option String :=
  let given := [(seen.classPath.times, Setting.classPath.display),
    (seen.method.times, Setting.method.display), (seen.maxDepth.times, Setting.maxDepth.display),
    (seen.disassemble, "--disassemble")]
  (given.find? (1 < ·.1)).map (·.2)

end Seen

/-- The positional arguments behind `--`. -/
def readPositional (seen : Seen) : List String → Except Refusal Seen
  | [] => .ok seen
  | argument :: rest => do readPositional (← seen.addPositional argument) rest

/-- Reads arguments from left to right, where `pending` still waits for its value. -/
def readArguments (seen : Seen) (pending : Option Setting) : List String → Except Refusal Seen
  | [] => .ok seen
  | argument :: rest =>
      match argument.toList with
      | ['-', '-'] => readPositional seen rest
      | '-' :: '-' :: _ => do
          let (seen, pending) ← seen.addLong argument
          readArguments seen pending rest
      | '-' :: c :: letters => do
          let (seen, pending) ← seen.addShort (c :: letters)
          readArguments seen pending rest
      | _ =>
          match pending with
          | some setting => readArguments (seen.addValue setting argument) none rest
          | none => do readArguments (← seen.addPositional argument) none rest

/-- What the program is asked to do. -/
structure Request where
  className : String
  classPath : String
  method : String
  maxDepth : Option String
  disassemble : Bool
  level : Log.Level
  deriving DecidableEq

/-- The least severe level that is logged. -/
def levelOf (verbosity : Nat) : Log.Level :=
  match verbosity with
  | 0 => .warn
  | 1 => .info
  | 2 => .debug
  | _ => .trace

/-- What the arguments ask for. -/
def Request.ofArguments (arguments : List String) : Except Refusal Request := do
  let seen ← readArguments {} none arguments
  match seen.className with
  | none => .error .missingClass
  | some className =>
      if seen.maxDepth.isBare then .error (.missingValue .maxDepth)
      else
        match seen.repeated? with
        | some shown => .error (.repeated shown)
        | none =>
            .ok
              { className
                classPath := seen.classPath.value?.getD "."
                method := seen.method.value?.getD "main"
                maxDepth := seen.maxDepth.value?
                disassemble := 0 < seen.disassemble
                level := levelOf seen.verbosity }

/-- Why a text is no count. -/
inductive CountError where
  | empty
  | invalidDigit
  | tooLarge
  deriving DecidableEq

/-- The wording of an error. -/
def CountError.message : CountError → String
  | .empty => "cannot parse integer from empty string"
  | .invalidDigit => "invalid digit found in string"
  | .tooLarge => "number too large to fit in target type"

/-- The greatest count. -/
def maxCount : Nat := 0xFFFFFFFFFFFFFFFF

/-- Reads digits after `high`; the first digit that cannot be taken decides the error. -/
def readDigits (high : Nat) : List Char → Except CountError Nat
  | [] => .ok high
  | c :: rest =>
      if '0' ≤ c && c ≤ '9' then
        let value := high * 10 + (c.toNat - '0'.toNat)
        if value ≤ maxCount then readDigits value rest else .error .tooLarge
      else .error .invalidDigit

/-- The count that a text writes in decimal, with or without a plus sign. -/
def parseCount (text : String) : Except CountError Nat :=
  match text.toList with
  | [] => .error .empty
  | ['+'] => .error .invalidDigit
  | '+' :: digits => readDigits 0 digits
  | digits => readDigits 0 digits

end ClassVM.CommandLine
