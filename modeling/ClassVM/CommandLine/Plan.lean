import ClassVM.CommandLine.Help
import ClassVM.CommandLine.Listing
import ClassVM.CommandLine.Options
import ClassVM.Files.Path
import ClassVM.Run

/-! # A session of the program

The program looks at its arguments, reads one class file, and runs or lists a method. Reading the
file is left to the caller, so that everything else is a function of the arguments and the file's
contents. Log records and errors go to the diagnostics, all else to the output. -/

namespace ClassVM.CommandLine

/-- What a session of the program leaves behind. -/
structure Report where
  exitCode : UInt32
  output : List UInt8
  diagnostics : List String
  deriving DecidableEq

/-- A session that is over, or one that waits for the contents of a file. -/
inductive Plan where
  | done (report : Report)
  | load (path : String) (next : Except Files.FileError (List UInt8) → Option Report)

/-- A session that ended before a class was loaded. -/
def refuse (refusal : Refusal) : Report :=
  match refusal with
  | .help => ⟨0, Text.Utf8.encode (joinLines helpLines), []⟩
  | .version => ⟨0, Text.Utf8.encode (joinLines [nameAndVersion]), []⟩
  | other => ⟨1, [], other.lines⟩

/-- The report of a session from its log, its output and its failure, if there is one. -/
def report (level : Log.Level) (records : List Log.Record) (output : List UInt8)
    (failure : Option Failure) : Report :=
  let lines := (Log.admitted (some level) records).map Log.Record.consoleLine
  match failure with
  | none => ⟨0, output, lines⟩
  | some failure =>
      let record : Log.Record :=
        ⟨.error, .program, failure.category.name ++ " error: " ++ failure.message⟩
      ⟨1, output, lines ++ [record.consoleLine, "error: " ++ failure.message]⟩

/-- Runs the method that is asked for. -/
def runMethod (fuel : Nat) (request : Request) (limits : Limits) (before : List Log.Record)
    (bytes : List UInt8) : Option Report := do
  let run ← runClass fuel ⟨limits, .unlimited, some request.level⟩ bytes request.method
  let returned := match run.answer with
    | .ok (some value) =>
        [⟨.info, .program, request.method ++ " returned " ++ value.display⟩]
    | _ => []
  let failure := match run.answer with
    | .ok _ => none
    | .error failure => some failure
  some (report request.level (before ++ run.records ++ returned) run.sink.written.toList failure)

/-- Lists the method that is asked for. The class and its constants are shown before the method is
looked for, and nothing at all if the class or its parent has no name. -/
def listMethod (request : Request) (before : List Log.Record) (bytes : List UInt8) : Report :=
  match ClassFile.parse bytes with
  | ⟨outcome, events⟩ =>
      let before := before ++ events.map ClassFile.ReadEvent.record
      match outcome with
      | .error e => report request.level before [] (some (.reading e))
      | .ok classFile =>
          match classFile.headline with
          | .error e => report request.level before [] (some (.execution (.lookup e)))
          | .ok headline =>
              let shown := headline :: classFile.pool.listing ++ [request.method ++ ":"]
              match classFile.instructionsOf request.method with
              | ⟨outcome, places⟩ =>
                  let records := before ++ places.map Code.Located.record
                  match outcome with
                  | .error e =>
                      report request.level records (Text.Utf8.encode (joinLines shown))
                        (some (.execution (.method e)))
                  | .ok instructions =>
                      let lines := shown ++ instructionListing instructions
                      report request.level records (Text.Utf8.encode (joinLines lines)) none

/-- The log record of the attempt to read a class file. -/
def loadingRecord (path : String) : Log.Record :=
  ⟨.debug, .loader, "Loading class file " ++ path⟩

/-- The log record of a class file that has been read. -/
def loadedRecord (path : String) (bytes : List UInt8) : Log.Record :=
  ⟨.info, .program, "Loaded " ++ path ++ " (" ++ toString bytes.length ++ " bytes)"⟩

/-- The rest of a session once the class file has been read, or could not be. -/
def resume (fuel : Nat) (request : Request) (limits : Limits) (path : String)
    (contents : Except Files.FileError (List UInt8)) : Option Report :=
  match contents with
  | .error e => some (report request.level [loadingRecord path] [] (some (.loading e)))
  | .ok bytes =>
      let before := [loadingRecord path, loadedRecord path bytes]
      if request.disassemble then some (listMethod request before bytes)
      else runMethod fuel request limits before bytes

/-- A session from its arguments. A limit that is no count is reported before any file is read. -/
def start (fuel : Nat) (arguments : List String) : Plan :=
  match Request.ofArguments arguments with
  | .error refusal => .done (refuse refusal)
  | .ok request =>
      match request.maxDepth.mapM parseCount with
      | .error e =>
          let record : Log.Record :=
            ⟨.error, .program, "invalid --max-depth: " ++ e.message⟩
          .done ⟨2, [], [record.consoleLine]⟩
      | .ok maxCallDepth =>
          let path := Files.locate request.classPath request.className
          .load path (resume fuel request { maxCallDepth } path)

end ClassVM.CommandLine
