import Terraforming.Text.Numeral

/-!
# Arguments

How the words of a command line are sorted into options and operands.  A word that starts with a
dash is an option, unless it is a negative number, holds a blank, or stands behind a bare double
dash.  An option may be shortened as long as it is clear which one is meant, and its value may stand
behind an equals sign or in the next word.  A bare double dash is no value: one behind an equals
sign leaves the option without any.
-/

namespace Terraforming.CommandLine

/-! ## Grammars -/

/-- What belongs to an option. -/
inductive Parameter where
  /-- Nothing: the option is there or not. -/
  | none
  | text
  | integer
deriving DecidableEq, Repr

structure OptionSpec where
  name : String
  parameter : Parameter
deriving DecidableEq, Repr

/-- How many operands there are. -/
inductive Operands where
  | none
  | one
  | any
deriving DecidableEq, Repr

structure Grammar where
  options : List OptionSpec
  operands : Operands

/-- Why a command line does not lead to a command. -/
inductive Stop where
  /-- It asks for help. -/
  | help
  | misuse
deriving DecidableEq, Repr

/-! ## Words -/

/-- What a word is. -/
inductive Word where
  | value (s : String)
  /-- A bare double dash, behind which only values stand. -/
  | separator
  | help
  /-- A call for help with something behind it that cannot be there. -/
  | spoiltHelp
  /-- An option, with the value behind its equals sign. -/
  | option (o : OptionSpec) (given : Option String)
  | unknown
deriving DecidableEq, Repr

/-- Digits without a point, or a point with digits behind it. -/
def isUnsignedNumber (cs : List Char) : Bool :=
  match cs.span Text.isDigit with
  | (digits, []) => !digits.isEmpty
  | (_, '.' :: ds) => !ds.isEmpty && ds.all Text.isDigit
  | _ => false

/-- A number with a minus sign, which is no option.  A line end may stand behind it. -/
def isNegativeNumber (s : String) : Bool :=
  match s.toList with
  | '-' :: cs => isUnsignedNumber cs || (cs.getLast? = some '\n' && isUnsignedNumber cs.dropLast)
  | _ => false

/-- The part before the first equals sign, and the part behind it, if there is one. -/
def splitValue (s : String) : String × Option String :=
  match s.toList.span (· ≠ '=') with
  | (name, []) => (String.ofList name, none)
  | (name, _ :: value) => (String.ofList name, some (String.ofList value))

/-- The call for help that has something behind it. -/
def helpWith (given : Option String) : Word := if given.isNone then .help else .spoiltHelp

/-- What a single dash and an `h` stand for, with something behind them, perhaps behind an equals
sign: that may only be the same letter again. -/
def shortHelp (behind : List Char) : Word :=
  match behind with
  | [] => .help
  | '=' :: cs => if !cs.isEmpty && cs.all (· = 'h') then .help else .spoiltHelp
  | cs => if cs.all (· = 'h') then .help else .spoiltHelp

/-- What the word of an option stands for: all options that it may be short for. -/
def candidates (g : Grammar) (s : String) : List Word :=
  let (name, given) := splitValue s
  match s.toList with
  | '-' :: 'h' :: behind => [shortHelp behind]
  | '-' :: '-' :: _ =>
    if name = "--help" then [helpWith given]
    else match g.options.find? fun o => o.name = name with
      | some o => [.option o given]
      | none =>
        (if "--help".startsWith name then [helpWith given] else []) ++
          (g.options.filter fun o => o.name.startsWith name).map fun o => .option o given
  | _ => []

/-- A word that starts with a dash, and is not only a dash. -/
def looksLikeOption (s : String) : Bool := s.startsWith "-" && s ≠ "-"

/-- What a word before any bare double dash is. -/
def classify (g : Grammar) (s : String) : Except Stop Word :=
  if s = "--" then .ok .separator
  else if !looksLikeOption s then .ok (.value s)
  else match candidates g s with
    | [w] => .ok w
    | _ :: _ :: _ => .error .misuse
    | [] =>
      if isNegativeNumber s || s.contains ' ' then .ok (.value s)
      else .ok .unknown

/-- All words. -/
def classifyAll (g : Grammar) : List String → Except Stop (List Word)
  | [] => .ok []
  | s :: ss =>
    if s = "--" then .ok (.separator :: ss.map .value)
    else do return (← classify g s) :: (← classifyAll g ss)

/-! ## Sorting -/

/-- What a command line says: the options with their values, and the operands. -/
structure Sorted where
  options : List (String × Option String) := []
  operands : List String := []
deriving DecidableEq, Repr

namespace Sorted

/-- What was given for an option; the last one counts. -/
def given? (s : Sorted) (name : String) : Option (Option String) :=
  (s.options.reverse.find? fun o => o.1 = name).map (·.2)

/-- The value of an option, if it has one; `d` if it was not given. -/
def valueOr (s : Sorted) (name : String) (d : Option String) : Option String :=
  (s.given? name).getD d

/-- Whether an option was given. -/
def has (s : Sorted) (name : String) : Bool := (s.given? name).isSome

end Sorted

/-- How far the operands are: none yet, in a row of them, or behind it. -/
inductive Phase where
  | before
  | within
  | behind
deriving DecidableEq, Repr

/-- The phase behind a word that is no operand. -/
def Phase.next : Phase → Phase
  | before => before
  | within | behind => behind

/-- Whether one more operand may follow. -/
def Operands.accepts : Operands → Phase → Bool
  | .any, .before | .any, .within | .one, .before => true
  | _, _ => false

/-- Whether a bare double dash may follow: it has to stand next to operands, or where they are. -/
def Operands.acceptsSeparator : Operands → Phase → Bool
  | .none, _ | _, .behind => false
  | _, _ => true

/-- The value that is written behind an equals sign. -/
def writtenValue (s : String) : Option String := if s = "--" then none else some s

/-- Note the value of an option, if it is one that the option can have. -/
def OptionSpec.set (o : OptionSpec) (sorted : Sorted) (value : Option String) :
    Except Stop Sorted :=
  if o.parameter = .integer && value.any fun s => (Text.integer? s).isNone then .error .misuse
  else .ok { sorted with options := sorted.options ++ [(o.name, value)] }

/-- Sort words; `stray` says that there was one which belongs nowhere.  Operands have to stand in
one row. -/
def sort (g : Grammar) (stray : Bool) (phase : Phase) (sorted : Sorted) :
    List Word → Except Stop Sorted
  | [] =>
    if stray || (g.operands = .one && sorted.operands.isEmpty) then .error .misuse else .ok sorted
  | .value s :: ws =>
    if g.operands.accepts phase then
      sort g stray .within { sorted with operands := sorted.operands ++ [s] } ws
    else sort g true phase sorted ws
  | .separator :: ws => sort g (stray || !g.operands.acceptsSeparator phase) phase sorted ws
  | .help :: _ => .error .help
  | .spoiltHelp :: _ => .error .misuse
  | .unknown :: ws => sort g true phase.next sorted ws
  | .option o given :: ws =>
    match decide (o.parameter = .none), given, ws with
    | true, none, ws => do sort g stray phase.next (← o.set sorted none) ws
    | true, some _, _ => .error .misuse
    | false, some v, ws => do sort g stray phase.next (← o.set sorted (writtenValue v)) ws
    | false, none, .value v :: ws => do sort g stray phase.next (← o.set sorted (some v)) ws
    | false, none, _ => .error .misuse

/-- Sort the words of a command line. -/
def Grammar.sorted (g : Grammar) (words : List String) : Except Stop Sorted := do
  sort g false .before {} (← classifyAll g words)

end Terraforming.CommandLine
