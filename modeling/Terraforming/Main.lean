import Terraforming.CommandLine.Run

/-!
# The program

Reads the file that the command asks for, runs the command, prints what it prints, and exits as it
ends.
-/

namespace Terraforming.CommandLine

/-- How the command line is used. -/
def usage : String :=
  "usage: tharsis [-h] [--log-level LEVEL] COMMAND ...\n\n" ++
  "commands:\n" ++
  "  validate CATALOG   validate a built-in catalog or a file with cards\n" ++
  "  search [CARD ...]  list every way to spend a generation with the cards offered\n" ++
  "                     (--catalog, --megacredits, --all-orderings, --limit)\n" ++
  "  board              print what occupies the board (--snapshot)\n" ++
  "  score SNAPSHOT     print the victory points of every player"

/-- A problem on a line of its own. -/
def problemLine (p : Problem) : String :=
  "\n  " ++ ".".intercalate p.path ++ ": " ++ p.issue.word ++
    ((p.issue.message?.map (": " ++ ·)).getD "")

def printedText : Printed → String
  | .line s => s
  | .problems head ps => head ++ String.join (ps.map problemLine)
  | .help => usage

def breakdownText : Breakdown → String
  | .fault f => f.message?.getD "A value is missing, or a divisor is zero"
  | .malformed ps => "Malformed card data:" ++ String.join (ps.map problemLine)
  | .unsound es => "\n".intercalate (es.map CatalogError.message)
  | .unknownLevel level => "Unknown level: " ++ Text.quoted level
  | .file e => e.message
  | .noValue => "An option was given without a value"

/-- The number of an error of the system, which may come with a minus sign. -/
def errorNumber (code : UInt32) : UInt32 := min code (0 - code)

/-- What is found instead of a file. -/
def notOpened : IO.Error → Opened
  | .inappropriateType _ code _ => if errorNumber code = 20 then .belowFile else .folder
  | .invalidArgument _ code _ => if errorNumber code = 36 then .tooLong else .missing
  | _ => .missing

/-- What is found at a path on the disk. -/
def openOnDisk (path : Path) : IO Opened := do
  if path.text.contains '\x00' then return .nullCharacter
  try
    return .ofBytes (← IO.FS.readBinFile path.text).toList
  catch e =>
    return notOpened e

/-- The files that an invocation reads. -/
def neededFiles (words : List String) : IO Files := do
  match (Invocation.ofWords words).toOption.bind (·.command.bind Command.file?) with
  | none => return fun _ => .missing
  | some path =>
    let found ← openOnDisk path
    return fun p => if p = path then found else .missing

/-- Run a command line for real. -/
def perform (words : List String) : IO UInt32 := do
  let result := run (← neededFiles words) words
  for p in result.printed do
    IO.println (printedText p)
  match result.ending with
  | .exit code => return code.toUInt32
  | .broken b =>
    IO.eprintln (breakdownText b)
    return 1

end Terraforming.CommandLine

def main (words : List String) : IO UInt32 := Terraforming.CommandLine.perform words
