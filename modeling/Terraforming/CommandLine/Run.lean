import Terraforming.Catalog.Corporate
import Terraforming.CommandLine.Command
import Terraforming.CommandLine.Path
import Terraforming.Player.Setup
import Terraforming.Search.Generation
import Terraforming.Wire.Catalogs
import Terraforming.Wire.Snapshot

/-!
# Running commands

What a command prints, and how it ends.  Files are given as a function from paths to what is found
there, and what is in them is read within the limits of a reader.  A file that cannot be read as what
it should be is an ordinary end with a message; what breaks down inside ends the run without one.
-/

namespace Terraforming.CommandLine

/-! ## What is printed -/

inductive Printed where
  | line (s : String)
  /-- Everything that is wrong with a file, behind a text that says which file that is. -/
  | problems (head : String) (ps : List Problem)
  | help
deriving DecidableEq, Repr

/-- Why a run ends without a message. -/
inductive Breakdown where
  | fault (f : Fault)
  | malformed (ps : List Problem)
  | unsound (es : List CatalogError)
  | unknownLevel (level : String)
  /-- There is something else where a file should be. -/
  | file (e : FileError)
  /-- An option was given without the value that is needed now. -/
  | noValue
deriving DecidableEq, Repr

inductive Ending where
  | exit (code : Nat)
  | broken (b : Breakdown)
deriving DecidableEq, Repr

structure Run where
  printed : List Printed
  ending : Ending
deriving DecidableEq, Repr

namespace Run

/-- Lines, and a good end. -/
def done (lines : List String) : Run := ⟨lines.map .line, .exit 0⟩

/-- Lines that say what is wrong. -/
def failed (lines : List String) : Run := ⟨lines.map .line, .exit 1⟩

/-- What is wrong with a file. -/
def malformed (head : String) (ps : List Problem) : Run := ⟨[.problems head ps], .exit 1⟩

def broken (b : Breakdown) : Run := ⟨[], .broken b⟩

/-- The run with lines printed before it. -/
def after (r : Run) (lines : List String) : Run :=
  { r with printed := lines.map .line ++ r.printed }

/-- Go on with a value, or break down. -/
def orBreak {α : Type} (e : Except Fault α) (f : α → Run) : Run :=
  match e with
  | .ok a => f a
  | .error fault => broken (.fault fault)

/-- Lines that are made one after the other, up to the first that cannot be made. -/
def lines : List (Except Fault String) → Run
  | [] => done []
  | .ok line :: rest => (lines rest).after [line]
  | .error fault :: _ => broken (.fault fault)

end Run

/-- How many digits a number has. -/
def digitCount (n : Int) : Nat := (Nat.toDigits 10 n.natAbs).length

/-- The digits of a number that was computed, within `Text.maxDigits`.  A number that was read has few
enough of them. -/
def numeral (n : Int) : Except Fault String :=
  if digitCount n ≤ Text.maxDigits then .ok (toString n) else .error (.misuse .excessDigits)

/-- What is found at a path. -/
abbrev Files := Path → Opened

section

variable (limits : Json.Limits)

/-! ## Loading -/

/-- Why there is no catalog. -/
inductive CatalogTrouble where
  | noSuchFile
  | noFile (e : FileError)
  | garbled (u : Text.Undecodable)
  | unusable (e : CatalogLoadError)

/-- A built-in catalog, or the one in a file. -/
def loadCatalog (files : Files) (name : String) : Except CatalogTrouble Catalog :=
  match Catalog.builtin? name with
  | some c => .ok c
  | none =>
    let path := Path.ofText name
    match files path with
    | .text text => (Catalog.load path.stem text limits).mapError .unusable
    | .garbled u => .error (.garbled u)
    | .missing | .belowFile | .nullCharacter => .error .noSuchFile
    | .folder => .error (.noFile (.isFolder path))
    | .tooLong => .error (.noFile (.nameTooLong path))

/-- The run that ends for want of a catalog. -/
def noCatalog (name : String) : Run :=
  .failed ["Error: No built-in catalog or file named " ++ name,
    "Built-in catalogs: " ++
      ", ".intercalate ((Catalog.builtin.map (·.name)).mergeSort (· ≤ ·))]

/-- Go on with the game that a text describes, or say why it describes none. -/
def withGameOf (text : String) (invalid : String) (f : Game → Run) : Run :=
  match Game.load text limits with
  | .ok g => f g
  | .error (.malformed ps) => .malformed invalid ps
  | .error (.fault (.misuse m)) => .failed [invalid ++ m.message]
  | .error (.fault fault) => .broken (.fault fault)

/-- Go on with the game in a file, or say why there is none. -/
def withGame (files : Files) (name : String) (f : Game → Run) : Run :=
  let invalid := "Error: Invalid snapshot " ++ name ++ ": "
  let path := Path.ofText name
  match files path with
  | .text text => withGameOf limits text invalid f
  | .garbled u => .failed [invalid ++ u.message]
  | .missing => .failed ["Error: File not found: " ++ name]
  | .nullCharacter => .failed [invalid ++ "embedded null byte"]
  | .folder => .broken (.file (.isFolder path))
  | .belowFile => .broken (.file (.notFolder path))
  | .tooLong => .broken (.file (.nameTooLong path))

/-! ## Commands -/

def validateCatalog (files : Files) (name : String) : Run :=
  let run := match loadCatalog limits files name with
    | .error .noSuchFile => noCatalog name
    | .error (.noFile e) => .broken (.file e)
    | .error (.garbled u) => .broken (.fault (.misuse (.undecodable u)))
    | .error (.unusable (.malformed ps)) => .malformed "Malformed card data: " ps
    | .error (.unusable (.unsound (.invalid es))) =>
      .failed ("\nErrors:" :: es.map fun (e : CatalogError) => "  - " ++ e.message)
    | .error (.unusable (.unsound (.fault f))) => .broken (.fault f)
    | .ok c =>
      let warnings := catalogWarnings c.cards
      .done ((if warnings.isEmpty then [] else "\nWarnings:" :: warnings.map ("  - " ++ ·)) ++
        [c.summaryText, "Catalog is valid"])
  run.after ["Validating: " ++ name]

/-- The first plays of a list, or those before its last ones if the limit is negative. -/
def withinLimit {α : Type} (limit : Int) (xs : List α) : List α :=
  if 0 ≤ limit then xs.take limit.toNat else xs.take (xs.length - limit.natAbs)

def playLine (p : PlayerId) (play : GenerationPlay) : Except Fault String := do
  let q ← play.game.player p
  let bought := ", ".intercalate (play.bought.map (·.name))
  let turns := "; ".intercalate (← play.turns.mapM fun t => t.action.description)
  let megacredits ← numeral (q.balance (some .megacredits))
  let rating ← numeral q.rating
  return "- bought " ++ (if bought.isEmpty then "nothing" else bought) ++ " | " ++ turns ++
    " | MC " ++ megacredits ++ " TR " ++ rating

/-- Print the plays within the limit, and how many more there are. -/
def playLines (p : PlayerId) (plays : List GenerationPlay) : Option Int → Run
  | none => .broken .noValue
  | some limit =>
    let rest := if limit < plays.length then
        [(numeral (plays.length - limit)).map fun n => "... " ++ n ++ " more"]
      else []
    .lines ((withinLimit limit plays).map (playLine p) ++ rest)

/-- Print how many plays there are, and those within the limit. -/
def listPlays (p : PlayerId) (limit : Option Int) (plays : List GenerationPlay) : Run :=
  (playLines p plays limit).after [toString plays.length ++ " possible generation(s)"]

/-- Search with the cards that are offered. -/
def searchOffered (c : SearchCommand) (offered : List Card) (megacredits : Int) : Run :=
  let setup : PlayerSetup := { id := 0, solo := true, megacredits := some megacredits }
  match setup.player with
  | .error m => .broken (.fault (.misuse m))
  | .ok player =>
    match Game.new [player] with
    | .error m => .failed ["Error: " ++ m.message]
    | .ok g =>
      match g.searchGeneration player.id offered c.allOrderings with
      | .ok found => listPlays player.id c.limit found.plays
      | .error (.misuse m) => .failed ["Error: " ++ m.message]
      | .error f => .broken (.fault f)

/-- Search in a catalog. -/
def searchCatalog (c : SearchCommand) (catalog : Catalog) : Run :=
  match catalog.resolve c.cards, c.megacredits with
  | .error message, _ => .failed ["Error: " ++ message]
  | .ok offered, some megacredits => searchOffered c offered megacredits
  | .ok _, none => .broken .noValue

def searchPlays (files : Files) (c : SearchCommand) : Run :=
  match c.catalog with
  | none => .broken .noValue
  | some name =>
    match loadCatalog limits files name with
    | .error .noSuchFile => noCatalog name
    | .error (.noFile e) => .broken (.file e)
    | .error (.garbled u) => .broken (.fault (.misuse (.undecodable u)))
    | .error (.unusable (.malformed ps)) => .broken (.malformed ps)
    | .error (.unusable (.unsound (.invalid es))) => .broken (.unsound es)
    | .error (.unusable (.unsound (.fault f))) => .broken (.fault f)
    | .ok catalog => searchCatalog c catalog

def showBoard (b : Board) : Run := .orBreak b.render fun text => .done [text]

/-- Show the board of the game in a file, or an empty one. -/
def printBoard (files : Files) (snapshot : Option String) : Run :=
  match snapshot.filter (· ≠ "") with
  | none => showBoard .standard
  | some path => withGame limits files path fun g => showBoard g.board

def scoreLine (e : PlayerId × Int) : Except Fault String :=
  (numeral e.2).map fun points => "  player " ++ toString e.1 ++ ": " ++ points ++ " VP"

/-- Show the generation and the points of every player. -/
def showScores (g : Game) : Run :=
  (Run.orBreak g.scores fun scores => .lines (scores.map scoreLine)).after
    ["Generation " ++ toString g.generation]

def scoreGame (files : Files) (path : String) : Run := withGame limits files path showScores

def Command.run (files : Files) : Command → Run
  | .validate name => validateCatalog limits files name
  | .search c => searchPlays limits files c
  | .board snapshot => printBoard limits files snapshot
  | .score path => scoreGame limits files path

/-- Run an invocation.  The level of the log is looked at first. -/
def Invocation.run (files : Files) (i : Invocation) : Run :=
  match i.logLevel with
  | none => .broken (.fault .unset)
  | some level =>
    match unknownLevel? level, i.command with
    | some level, _ => .broken (.unknownLevel level)
    | none, some c => c.run limits files
    | none, none => ⟨[.help], .exit 1⟩

end

/-- Run the words of a command line. -/
def run (files : Files) (words : List String) (limits : Json.Limits := .files) : Run :=
  match Invocation.ofWords words with
  | .ok i => i.run limits files
  | .error .help => ⟨[.help], .exit 0⟩
  | .error .misuse => ⟨[], .exit 2⟩

/-- The path of the file that a command reads, if it reads one. -/
def Command.file? : Command → Option Path
  | .validate name => if (Catalog.builtin? name).isSome then none else some (.ofText name)
  | .search c =>
    (c.catalog.filter fun name => (Catalog.builtin? name).isNone).map .ofText
  | .board snapshot => (snapshot.filter (· ≠ "")).map .ofText
  | .score path => some (.ofText path)

end Terraforming.CommandLine
