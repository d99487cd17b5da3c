import Terraforming.Text.Quoted
import Terraforming.Text.Utf8

/-!
# Paths

Where a file is, as a command line says it: names with slashes between them.  Empty names and single
dots say nothing.  Two dots lead back, and so whether a path leads anywhere depends on all folders
on its way.
-/

namespace Terraforming.CommandLine

/-! ## Paths -/

structure Path where
  /-- How many slashes are in front: one or two if the path begins at the root. -/
  slashes : Nat := 0
  parts : List String := []
deriving DecidableEq, Repr

namespace Path

/-- The path of a text.  Two slashes in front are kept, and more of them are one. -/
def ofText (s : String) : Path where
  slashes :=
    let n := (s.toList.takeWhile (· = '/')).length
    if n ≤ 2 then n else 1
  parts := (s.splitOn "/").filter fun p => p ≠ "" && p ≠ "."

def text (p : Path) : String :=
  if p.slashes = 0 && p.parts.isEmpty then "."
  else String.ofList (List.replicate p.slashes '/') ++ "/".intercalate p.parts

/-- The last part without its ending.  A dot at the start or at the end begins no ending. -/
def stem (p : Path) : String :=
  let name := (p.parts.getLastD "").toList
  let ending := name.reverse.takeWhile (· ≠ '.')
  let front := (name.take (name.length - ending.length)).dropLast
  if front.isEmpty || ending.isEmpty || ending.length = name.length then String.ofList name
  else String.ofList front

/-- How many bytes a path may have, less one. -/
def maxBytes : Nat := 4095

/-- How many bytes a name may have. -/
def maxNameBytes : Nat := 255

end Path

/-! ## What is found -/

/-- What is found at a path. -/
inductive Opened where
  | text (content : String)
  /-- There is a file, but its bytes are no text. -/
  | garbled (u : Text.Undecodable)
  | missing
  | folder
  /-- There is a file on the way. -/
  | belowFile
  | tooLong
  /-- A path cannot hold a null character. -/
  | nullCharacter
deriving DecidableEq, Repr

/-- What is found where there is a file with these bytes. -/
def Opened.ofBytes (bytes : List UInt8) : Opened :=
  match Text.decoded bytes with
  | .ok content => .text content
  | .error u => .garbled u

/-- Why what is found is no file. -/
inductive FileError where
  | isFolder (path : Path)
  | notFolder (path : Path)
  | nameTooLong (path : Path)
deriving DecidableEq, Repr

namespace FileError

def message : FileError → String
  | isFolder path => "[Errno 21] Is a directory: " ++ Text.quoted path.text
  | notFolder path => "[Errno 20] Not a directory: " ++ Text.quoted path.text
  | nameTooLong path => "[Errno 36] File name too long: " ++ Text.quoted path.text

end FileError

/-! ## Folders -/

/-- A folder to work in. -/
structure Folder where
  /-- The files, by the parts of their paths. -/
  files : List (List String × String)
  /-- The names of the folders at the root. -/
  atRoot : List String := []

namespace Folder

/-- What is found above the folder, or at the root. -/
def openOutside (f : Folder) (isRoot : Bool) : List String → Opened
  | [] => .folder
  | name :: names =>
    if Path.maxNameBytes < name.utf8ByteSize then .tooLong
    else if name = ".." then f.openOutside isRoot names
    else if isRoot && names.isEmpty && f.atRoot.contains name then .folder
    else .missing

/-- What is found on a way that goes on from a place in the folder. -/
def openFrom (f : Folder) (place : List String) : List String → Opened
  | [] => .folder
  | name :: names =>
    if Path.maxNameBytes < name.utf8ByteSize then .tooLong
    else if name = ".." then
      if place.isEmpty then f.openOutside false names else f.openFrom place.dropLast names
    else
      let next := place ++ [name]
      match f.files.lookup next with
      | some content => if names.isEmpty then .text content else .belowFile
      | none =>
        if f.files.any fun e => next.isPrefixOf e.1 then f.openFrom next names else .missing

/-- What is found at a path. -/
def opened (f : Folder) (p : Path) : Opened :=
  if p.text.contains '\x00' then .nullCharacter
  else if Path.maxBytes < p.text.utf8ByteSize then .tooLong
  else if p.slashes = 0 then f.openFrom [] p.parts
  else f.openOutside true p.parts

end Folder

end Terraforming.CommandLine
