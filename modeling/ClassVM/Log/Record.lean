import ClassVM.Text.Layout

/-! # Log records

A record has a level, the part of the program it comes from, and a message. A threshold admits the
records that are at least as severe as it is. -/

namespace ClassVM.Log

/-- The severity of a record, the most severe first. -/
inductive Level where
  | error
  | warn
  | info
  | debug
  | trace
  deriving DecidableEq

namespace Level

/-- The place of a level in the order of severity. -/
def rank : Level → Nat
  | .error => 1
  | .warn => 2
  | .info => 3
  | .debug => 4
  | .trace => 5

/-- The name that a record is written with. -/
def name : Level → String
  | .error => "ERROR"
  | .warn => "WARN"
  | .info => "INFO"
  | .debug => "DEBUG"
  | .trace => "TRACE"

end Level

/-- The least severe level that is kept; nothing is kept without one. -/
abbrev Threshold := Option Level

/-- Records of the level are kept. -/
def admits (threshold : Threshold) (level : Level) : Bool :=
  match threshold with
  | none => false
  | some least => level.rank ≤ least.rank

/-- The part of the program that a record comes from. -/
inductive Source where
  | program
  | loader
  | classReader
  | decoder
  | machine
  deriving DecidableEq

/-- The name of the program, under which it logs and announces itself. -/
def programName : String := "toyjvm"

/-- The path that a record is written with. -/
def Source.path : Source → String
  | .program => programName
  | .loader => programName ++ "::class_loader"
  | .classReader => programName ++ "::class_parser"
  | .decoder => programName ++ "::bytecode::decoder"
  | .machine => programName ++ "::interpreter"

/-- One line of the log. -/
structure Record where
  level : Level
  source : Source
  message : String
  deriving DecidableEq

namespace Record

/-- The record as one line with its parts in order. -/
def line (record : Record) : String :=
  record.level.name ++ " " ++ record.source.path ++ ": " ++ record.message

/-- A message of several lines continues under an indent of four blanks. -/
def indentLines (message : String) : String :=
  String.ofList (message.toList.flatMap fun c =>
    if c = '\n' then ['\n', ' ', ' ', ' ', ' '] else [c])

/-- The record as the console shows it, the level in a column of five. -/
def consoleLine (record : Record) : String :=
  "[" ++ Text.alignLeft 5 record.level.name ++ " " ++ record.source.path ++ "] " ++
    indentLines record.message

end Record

end ClassVM.Log
