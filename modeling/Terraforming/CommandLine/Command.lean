import Terraforming.CommandLine.Arguments
import Terraforming.Text.Upper

/-!
# Commands

The four things that can be asked for on the command line: to validate a catalog, to search a
generation, to show a board and to score a game.  A level for the log may stand in front of the
command.  What an option was to say is open where it was given without a value.
-/

namespace Terraforming.CommandLine

structure SearchCommand where
  cards : List String := []
  /-- A built-in catalog, or a file with one. -/
  catalog : Option String := some "base"
  megacredits : Option Int := some 0
  allOrderings : Bool := false
  /-- How many plays to print; a negative number leaves so many out at the end. -/
  limit : Option Int := some 20
deriving DecidableEq, Repr

inductive Command where
  | validate (catalog : String)
  | search (c : SearchCommand)
  | board (snapshot : Option String)
  | score (snapshot : String)
deriving DecidableEq, Repr

structure Invocation where
  logLevel : Option String := some "WARNING"
  command : Option Command := none
deriving DecidableEq, Repr

/-! ## Reading commands -/

def validateGrammar : Grammar := ⟨[], .one⟩

def searchGrammar : Grammar :=
  ⟨[⟨"--catalog", .text⟩, ⟨"--megacredits", .integer⟩, ⟨"--all-orderings", .none⟩,
    ⟨"--limit", .integer⟩], .any⟩

def boardGrammar : Grammar := ⟨[⟨"--snapshot", .text⟩], .none⟩

def scoreGrammar : Grammar := ⟨[], .one⟩

namespace Sorted

/-- The integer that an option was given; `d` if it was not given. -/
def integerOr (s : Sorted) (name : String) (d : Int) : Option Int :=
  match s.given? name with
  | some value => value.bind Text.integer?
  | none => some d

end Sorted

/-- The command that some words ask for. -/
def Command.ofWords (name : String) (words : List String) : Except Stop Command := do
  match name with
  | "validate" => return .validate ((← validateGrammar.sorted words).operands.headD "")
  | "search" =>
    let s ← searchGrammar.sorted words
    return .search {
      cards := s.operands
      catalog := s.valueOr "--catalog" (some "base")
      megacredits := s.integerOr "--megacredits" 0
      allOrderings := s.has "--all-orderings"
      limit := s.integerOr "--limit" 20 }
  | "board" => return .board ((← boardGrammar.sorted words).valueOr "--snapshot" none)
  | "score" => return .score ((← scoreGrammar.sorted words).operands.headD "")
  | _ => throw .misuse

/-! ## Reading invocations -/

/-- What may stand in front of the command. -/
def frontGrammar : Grammar := ⟨[⟨"--log-level", .text⟩], .none⟩

/-- Read what stands in front of the command, and then the command; `stray` says that there was a
word which belongs nowhere. -/
def Invocation.ofWordsAfter (stray : Bool) (i : Invocation) :
    List String → Except Stop Invocation
  | [] => if stray then .error .misuse else .ok i
  | s :: ss => do
    match ← classify frontGrammar s with
    | .value name =>
      let command ← Command.ofWords name ss
      if stray then throw .misuse
      return { i with command }
    | .separator => throw .misuse
    | .help => throw .help
    | .spoiltHelp => throw .misuse
    | .unknown => ofWordsAfter true i ss
    | .option _ (some level) => ofWordsAfter stray { i with logLevel := writtenValue level } ss
    | .option _ none =>
      match ss with
      | [] => throw .misuse
      | level :: ss =>
        match ← classify frontGrammar level with
        | .value level => ofWordsAfter stray { i with logLevel := some level } ss
        | _ => throw .misuse

/-- Read the words of a command line.  None of them may leave it open which option is meant in front
of the command, wherever it stands. -/
def Invocation.ofWords (words : List String) : Except Stop Invocation := do
  let _ ← classifyAll frontGrammar words
  ofWordsAfter false {} words

/-! ## Levels of the log -/

/-- The levels that the log has. -/
def logLevels : List String :=
  ["CRITICAL", "FATAL", "ERROR", "WARN", "WARNING", "INFO", "DEBUG", "NOTSET"]

/-- A level in capital letters, if it is not one that the log has. -/
def unknownLevel? (level : String) : Option String :=
  let level := Text.upper level
  if logLevels.contains level then none else some level

end Terraforming.CommandLine
