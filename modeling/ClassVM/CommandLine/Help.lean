import ClassVM.Log.Record

/-! # What the program tells of itself -/

namespace ClassVM.CommandLine

/-- The program and its version. -/
def nameAndVersion : String := Log.programName ++ " 0.1.0"

/-- The overview of the arguments, line by line. -/
def helpLines : List String := [
  nameAndVersion,
  "Runs a method of a single class file",
  "",
  "USAGE:",
  "    " ++ Log.programName ++ " [FLAGS] [OPTIONS] <CLASS>",
  "",
  "FLAGS:",
  "        --disassemble    Prints the decoded instructions instead of running them",
  "    -h, --help           Prints help information",
  "    -V, --version        Prints version information",
  "    -v                   Raises the log level, repeat for more",
  "",
  "OPTIONS:",
  "        --classpath <DIR>     [default: .]",
  "        --max-depth <N>      Fails instead of nesting more than N calls",
  "    -m, --method <NAME>       [default: main]",
  "",
  "ARGS:",
  "    <CLASS>    Class name on the class path, or a path to a .class file"]

end ClassVM.CommandLine
