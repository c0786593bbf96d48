/-!
# The Mersenne twister

Random numbers that a seed determines: the generator MT19937 with words of 32 bits, started
from the words of the seed's absolute value.

The generator is a value that is handed on. A computation that needs random numbers takes one and
gives one back, so that what it does is a function of the seed, and to repeat it with the same seed
is to repeat its result.
-/

namespace ErDiagram

/-- **The state of the generator**: its words, and how many of them have been used up. New words are
made all at once, when the last of them has been used, and this is why they are counted. -/
structure Twister where
  /-- The words. -/
  words : Array UInt32
  /-- How many have been used. -/
  used : Nat

namespace Twister

/-- How many words the state has. -/
def size : Nat := 624

/-- How far apart the words are that are mixed. -/
def shift : Nat := 397

/-- The word at a place of the state. -/
def word (ws : Array UInt32) (i : Nat) : UInt32 := ws.getD i 0

/-- A word mixed with its own high bits. -/
def stir (w : UInt32) : UInt32 := w ^^^ (w >>> 30)

/-- The words that follow from one word. -/
def ofWord (seed : UInt32) : Array UInt32 :=
  (List.range (size - 1)).foldl
    (fun ws i => ws.push (1812433253 * stir (word ws i) + UInt32.ofNat (i + 1))) #[seed]

/-- Sets a word; the first place has the word of the last one once that is set. -/
def put (ws : Array UInt32) (i : Nat) (w : UInt32) : Array UInt32 × Nat :=
  let ws := ws.setIfInBounds i w
  if i + 1 < size then (ws, i + 1) else (ws.setIfInBounds 0 w, 1)

/-- Mixes the words of a key into a state, as often as `steps` says, from place `i` of the
state and place `j` of the key on. -/
def mixKey (key : Array UInt32) : (steps i j : Nat) → Array UInt32 → Array UInt32 × Nat
  | 0, i, _, ws => (ws, i)
  | steps + 1, i, j, ws =>
    let w := (word ws i ^^^ (stir (word ws (i - 1)) * 1664525)) + word key j + UInt32.ofNat j
    let (ws, next) := put ws i w
    mixKey key steps next (if j + 1 < key.size then j + 1 else 0) ws

/-- Mixes a state with itself. -/
def mixSelf : (steps i : Nat) → Array UInt32 → Array UInt32
  | 0, _, ws => ws
  | steps + 1, i, ws =>
    let w := (word ws i ^^^ (stir (word ws (i - 1)) * 1566083941)) - UInt32.ofNat i
    let (ws, next) := put ws i w
    mixSelf steps next ws

/-- How many words there are. -/
def wordCount : Nat := 4294967296

/-- The words of a number, the least significant first; zero has one word. -/
def wordsOf (n : Nat) : List UInt32 :=
  if _h : n < wordCount then [UInt32.ofNat n]
  else UInt32.ofNat (n % wordCount) :: wordsOf (n / wordCount)
termination_by n
decreasing_by
  unfold wordCount at _h ⊢
  omega

/-- **The generator of a seed.** -/
def ofSeed (seed : Int) : Twister :=
  let key := (wordsOf seed.natAbs).toArray
  let (ws, i) := mixKey key (max size key.size) 1 0 (ofWord 19650218)
  let ws := mixSelf (size - 1) i ws
  ⟨ws.setIfInBounds 0 0x80000000, size⟩

/-- The next words of a state. -/
def renewed (ws : Array UInt32) : Array UInt32 :=
  (List.range size).foldl (fun ws i =>
    let y := (word ws i &&& 0x80000000) ||| (word ws ((i + 1) % size) &&& 0x7fffffff)
    let odd : UInt32 := if y &&& 1 = 1 then 0x9908b0df else 0
    ws.setIfInBounds i (word ws ((i + shift) % size) ^^^ (y >>> 1) ^^^ odd)) ws

/-- A word as it is given out. -/
def tempered (w : UInt32) : UInt32 :=
  let w := w ^^^ (w >>> 11)
  let w := w ^^^ ((w <<< 7) &&& 0x9d2c5680)
  let w := w ^^^ ((w <<< 15) &&& 0xefc60000)
  w ^^^ (w >>> 18)

/-- **The next word.** -/
def next (t : Twister) : UInt32 × Twister :=
  if t.used < size then (tempered (word t.words t.used), { t with used := t.used + 1 })
  else
    let ws := renewed t.words
    (tempered (word ws 0), ⟨ws, 1⟩)

/-- **A number from zero up to below one**, with 53 random bits. -/
def unit (t : Twister) : Float × Twister :=
  let (a, t) := t.next
  let (b, t) := t.next
  let n := (a >>> 5).toNat * 67108864 + (b >>> 6).toNat
  (Float.ofNat n * (1.0 / 9007199254740992.0), t)

/-- A number between two others. -/
def between (low high : Float) (t : Twister) : Float × Twister :=
  let (u, t) := t.unit
  (low + (high - low) * u, t)

end Twister

end ErDiagram
