/-!
# Vocabularies

A vocabulary is a closed list of terms with a written word for each: the tags of a card, the kinds
of a tile, the types of an operation.  Words are what files and messages show; everything else
works on the terms.
-/

namespace Terraforming

/-- A type of terms, listed once each, with the word that stands for each of them. -/
class Vocabulary (α : Type) where
  all : List α
  word : α → String

export Vocabulary (word)

namespace Vocabulary

variable {α : Type} [Vocabulary α]

/-- The term a word stands for. -/
def ofWord? (s : String) : Option α := all.find? fun a => word a == s

end Vocabulary

/-- The words of some terms, in ascending order. -/
def sortedWords {α : Type} [Vocabulary α] (terms : List α) : List String :=
  (terms.map word).mergeSort (· ≤ ·)

end Terraforming
