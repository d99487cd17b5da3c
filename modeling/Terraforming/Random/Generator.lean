import Terraforming.Random.Sha512

/-!
# Random numbers

A Mersenne twister of 624 words of 32 bits.  The same seed always gives the same numbers, so
whatever is drawn here can be drawn again when a game is replayed.  A number below a bound is drawn
by taking as many high bits as the bound has, again and again until they fall below it.
-/

namespace Terraforming

/-- The state: the words of the current round, and how many of them were given out. -/
structure Generator where
  words : Array UInt32
  used : Nat

namespace Generator

def size : Nat := 624

/-! ## Seeding -/

/-- The next word of the state that every seed starts from. -/
def pushWord (ws : Array UInt32) (i : Nat) : Array UInt32 :=
  let previous := ws.getD (i - 1) 0
  ws.push ((1812433253 : UInt32) * (previous ^^^ (previous >>> 30)) + UInt32.ofNat i)

def unseeded : Array UInt32 := (List.range' 1 (size - 1)).foldl pushWord #[19650218]

/-- A word stirred with the word before it. -/
def stir (ws : Array UInt32) (i : Nat) (factor : UInt32) : UInt32 :=
  let previous := ws.getD (i - 1) 0
  ws.getD i 0 ^^^ ((previous ^^^ (previous >>> 30)) * factor)

/-- Write the word at `i`, and step on; after the last word comes the second, with the last copied
to the first. -/
def writeWord (ws : Array UInt32) (i : Nat) (w : UInt32) : Array UInt32 × Nat :=
  let ws := ws.setIfInBounds i w
  if i + 1 < size then (ws, i + 1) else (ws.setIfInBounds 0 w, 1)

/-- Mix `steps` words of the key in. -/
def mixKey (key : Array UInt32) : Nat → Nat → Nat → Array UInt32 → Array UInt32 × Nat
  | 0, i, _, ws => (ws, i)
  | steps + 1, i, j, ws =>
    let w := stir ws i 1664525 + key.getD j 0 + UInt32.ofNat j
    let (ws, i) := writeWord ws i w
    mixKey key steps i (if j + 1 < key.size then j + 1 else 0) ws

/-- Mix the state with itself for `steps` words. -/
def mixSelf : Nat → Nat → Array UInt32 → Array UInt32
  | 0, _, ws => ws
  | steps + 1, i, ws =>
    let (ws, i) := writeWord ws i (stir ws i 1566083941 - UInt32.ofNat i)
    mixSelf steps i ws

/-- The generator of a key of 32-bit words. -/
def ofKey (key : Array UInt32) : Generator :=
  let (ws, i) := mixKey key (max size key.size) 1 0 unseeded
  ⟨(mixSelf (size - 1) i ws).setIfInBounds 0 0x80000000, size⟩

/-- The 32-bit words of a number, the lowest first. -/
def wordsOf (n : Nat) : List UInt32 :=
  if n < 0x100000000 then [UInt32.ofNat n]
  else UInt32.ofNat (n % 0x100000000) :: wordsOf (n / 0x100000000)
termination_by n
decreasing_by exact Nat.div_lt_self (by omega) (by decide)

/-- The generator of a number; its sign makes no difference. -/
def ofNumber (n : Int) : Generator := ofKey (wordsOf n.natAbs).toArray

/-- The number of some bytes, the highest first. -/
def numberOf (bytes : List UInt8) : Nat := bytes.foldl (fun n b => n * 256 + b.toNat) 0

/-- The generator of a text: of the number made of its bytes and their digest. -/
def ofText (s : String) : Generator :=
  let bytes := s.toUTF8.toList
  ofKey (wordsOf (numberOf (bytes ++ Sha512.digest bytes))).toArray

/-! ## Drawing -/

/-- The word at `i` of the next round. -/
def twistWord (ws : Array UInt32) (i : Nat) : Array UInt32 :=
  let y := (ws.getD i 0 &&& 0x80000000) ||| (ws.getD ((i + 1) % size) 0 &&& 0x7fffffff)
  let mask : UInt32 := if y &&& 1 = 1 then 0x9908b0df else 0
  ws.setIfInBounds i (ws.getD ((i + 397) % size) 0 ^^^ (y >>> 1) ^^^ mask)

def twist (ws : Array UInt32) : Array UInt32 := (List.range size).foldl twistWord ws

def temper (y : UInt32) : UInt32 :=
  let y := y ^^^ (y >>> 11)
  let y := y ^^^ ((y <<< 7) &&& 0x9d2c5680)
  let y := y ^^^ ((y <<< 15) &&& 0xefc60000)
  y ^^^ (y >>> 18)

/-- The next 32 bits. -/
def next (g : Generator) : UInt32 × Generator :=
  let g := if g.used < size then g else ⟨twist g.words, 0⟩
  (temper (g.words.getD g.used 0), { g with used := g.used + 1 })

/-- How many draws a number below a bound may take.  Each falls below it more often than not. -/
def patience : Nat := 1000

/-- Draw words without their lowest `shift` bits until one falls below `n`; 0 if none does. -/
def belowWithin (n shift : Nat) : Nat → Generator → Nat × Generator
  | 0, g => (0, g)
  | tries + 1, g =>
    let (w, g) := g.next
    let r := w.toNat >>> shift
    if r < n then (r, g) else belowWithin n shift tries g

/-- A number below `n`, which must not be 0 and must fit in 32 bits. -/
def below (n : Nat) (g : Generator) : Nat × Generator :=
  belowWithin n (32 - (Nat.log2 n + 1)) patience g

/-! ## Shuffling -/

/-- From position `i` down to the second, swap each element with one at or before it. -/
def shuffleFrom {α : Type} : Nat → Generator → Array α → Array α
  | 0, _, xs => xs
  | i + 1, g, xs =>
    let (j, g) := g.below (i + 2)
    shuffleFrom i g (xs.swapIfInBounds (i + 1) j)

/-- The list in the order that the generator gives it. -/
def shuffle {α : Type} (g : Generator) (xs : List α) : List α :=
  (shuffleFrom (xs.length - 1) g xs.toArray).toList

end Generator

end Terraforming
