import Terraforming.Text.Numeral
import Terraforming.Text.Percent

/-!
# Addresses

What a request is sent to: the path of a resource, and a query behind a question mark.  A scheme and
a host may stand in front and say nothing here; what stands behind a hash sign is not sent.
-/

namespace Terraforming

/-! ## Errors -/

/-- Why an address leads nowhere. -/
inductive AddressError where
  | tooLong
  | unprintable (c : Char) (position : Nat)
  | twoSlashes
  | colon
  /-- What stands behind the colon of a host is no number. -/
  | hostNumber (text : String)
deriving DecidableEq, Repr

namespace AddressError

def message : AddressError → String
  | tooLong => "URL too long"
  | unprintable c position =>
    "Invalid non-printable ASCII character in URL, " ++ Text.quoted c.toString ++
      " at position " ++ toString position ++ "."
  | twoSlashes => "Relative URLs cannot have a path starting with '//'"
  | colon => "Relative URLs cannot have a path starting with ':'"
  | hostNumber text => "Invalid port: " ++ Text.quoted text

end AddressError

/-! ## Parts -/

namespace Address

/-- How long an address may be. -/
def maxLength : Nat := 65536

def isUnprintable (c : Char) : Bool := c.toNat < 0x20 || c.toNat = 0x7f

/-- The first character that may not stand in an address. -/
def unprintable? (cs : List Char) : Option AddressError :=
  (cs.find? isUnprintable).map fun c => .unprintable c (cs.idxOf c)

def isSchemeChar (c : Char) : Bool := c.isAlphanum || c = '+' || c = '.' || c = '-'

/-- The scheme in front of a colon, and what follows; no scheme where there is none. -/
def splitScheme (cs : List Char) : List Char × List Char :=
  match cs.span isSchemeChar with
  | ([], ':' :: rest) => ([], rest)
  | (c :: scheme, ':' :: rest) => if c.isAlpha then (c :: scheme, rest) else ([], cs)
  | _ => ([], cs)

/-- What stands between two slashes and the path, and the path with what follows. -/
def splitAuthority : List Char → List Char × List Char
  | '/' :: '/' :: cs => cs.span fun c => c ≠ '/' && c ≠ '?' && c ≠ '#'
  | cs => ([], cs)

/-- The path in front of a question mark, and the query behind it. -/
def splitQuery (cs : List Char) : List Char × List Char :=
  match (cs.takeWhile (· ≠ '#')).span (· ≠ '?') with
  | (path, _ :: query) => (path, query)
  | (path, []) => (path, [])

/-- A user, a host and a number. -/
structure Authority where
  user : List Char
  host : List Char
  number : List Char

namespace Authority

def ofText (cs : List Char) : Authority :=
  let (user, rest) := match cs.span (· ≠ '@') with
    | (user, _ :: rest) => (user, rest)
    | _ => ([], cs)
  -- The colons of a host in brackets belong to it.
  let inBrackets := (rest.reverse.dropWhile (· ≠ ']')).reverse
  let host :=
    if rest.head? = some '[' && !inBrackets.isEmpty then inBrackets
    else rest.takeWhile fun c => c ≠ ':' && c ≠ '@'
  match rest.drop host.length with
  | ':' :: number => ⟨user, host, number⟩
  | number => ⟨user, host, number⟩

def isEmpty (a : Authority) : Bool := a.user.isEmpty && a.host.isEmpty && a.number.isEmpty

/-- A number is spelled as one, or left out. -/
def invalidNumber? (a : Authority) : Option AddressError :=
  let text := String.ofList a.number
  if a.number.isEmpty || (Text.integer? text).isSome then none else some (.hostNumber text)

end Authority

/-! ## Paths -/

/-- One more segment; a single dot says nothing, and two dots take the last segment back. -/
def push (segments : List String) (s : String) : List String :=
  if s = "." then segments
  else if s = ".." then if segments = [""] then segments else segments.dropLast
  else segments ++ [s]

/-- A path without segments of dots. -/
def normalPath (path : String) : String :=
  "/".intercalate ((path.splitOn "/").foldl push [])

/-- The path that is meant.  Percent signs are read twice. -/
def meantPath (cs : List Char) : String :=
  let path := normalPath (String.ofList cs)
  String.ofList (Text.percentDecoded (Text.percentDecoded
    (if path.isEmpty then ['/'] else path.toList)))

end Address

/-! ## Targets -/

/-- What an address leads to. -/
structure Target where
  path : String
  /-- The query as it is written. -/
  query : String := ""
deriving DecidableEq, Repr

namespace Target

open Address

/-- The target of a path with a query. -/
def ofReference (path query : List Char) : Target := ⟨meantPath path, String.ofList query⟩

/-- The target of an address.  A path that does not belong to a host begins with one slash. -/
def ofAddress (address : String) : Except AddressError Target := do
  let cs := address.toList
  if maxLength < cs.length then throw .tooLong
  if let some e := unprintable? cs then throw e
  let (scheme, cs) := splitScheme cs
  let (authority, cs) := splitAuthority cs
  let authority := Authority.ofText authority
  if let some e := authority.invalidNumber? then throw e
  let (path, query) := splitQuery cs
  if scheme.isEmpty && authority.isEmpty then
    if path.take 2 = ['/', '/'] then throw .twoSlashes
    if path.head? = some ':' then throw .colon
  if scheme.isEmpty || authority.host.isEmpty then
    return ofReference ('/' :: path.dropWhile (· = '/')) query
  return ofReference path query

/-- The target of a path that is sent back as an address, with a query. -/
def sentBack (path query : String) : Target :=
  let address := if query.isEmpty then path else path ++ "?" ++ query
  let (path, query) := splitQuery address.toList
  ofReference path query

/-! ## Queries -/

/-- A part of a query as it is meant. -/
def meantPart (cs : List Char) : String :=
  String.ofList (Text.percentDecoded (cs.map fun c => if c = '+' then ' ' else c))

/-- A name with its value; without an equals sign, the value is empty. -/
def parameter (cs : List Char) : String × String :=
  match cs.span (· ≠ '=') with
  | (name, _ :: value) => (meantPart name, meantPart value)
  | (name, []) => (meantPart name, "")

/-- The names in the query with their values. -/
def parameters (t : Target) : List (String × String) :=
  ((t.query.toList.splitOn '&').filter (!·.isEmpty)).map parameter

/-- A query with some names and values. -/
def queryOf (parameters : List (String × String)) : String :=
  "&".intercalate (parameters.map fun p =>
    Text.percentEncoded p.1 ++ "=" ++ Text.percentEncoded p.2)

end Target

end Terraforming
