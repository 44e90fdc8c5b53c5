/-!
# The twister

A source of pseudo-random words: the Mersenne twister with 624 words of state, started from the
32-bit words of a seed. All arithmetic on words wraps.
-/

namespace Fabula

structure Twister where
  words : Array UInt32
  used : Nat
deriving Repr

namespace Twister

def size : Nat := 624

def shift : Nat := 397

def spread (word : UInt32) : Array UInt32 :=
  (List.range (size - 1)).foldl
    (fun (words : Array UInt32) i =>
      let last := words.back?.getD 0
      words.push ((1812433253 : UInt32) * (last ^^^ (last >>> 30)) + (i + 1).toUInt32))
    #[word]

def blend (factor : UInt32) (words : Array UInt32) (place : Nat) : UInt32 :=
  let before := words.getD (place - 1) 0
  words.getD place 0 ^^^ ((before ^^^ (before >>> 30)) * factor)

def store (word : UInt32) (words : Array UInt32) (place : Nat) : Array UInt32 × Nat :=
  let words := words.setIfInBounds place word
  if place + 1 < size then (words, place + 1)
  else (words.setIfInBounds 0 (words.getD (size - 1) 0), 1)

def ofKey (key : Array UInt32) : Twister :=
  let rounds := max size key.size
  let (words, place) := (List.range rounds).foldl
    (fun (words, place) i =>
      let j := i % key.size
      store (blend 1664525 words place + key.getD j 0 + j.toUInt32) words place)
    (spread 19650218, 1)
  let (words, _) := (List.range (size - 1)).foldl
    (fun (words, place) _ =>
      store (blend 1566083941 words place - place.toUInt32) words place)
    (words, place)
  ⟨words.setIfInBounds 0 0x80000000, size⟩

def keyOf (n : Nat) : Array UInt32 :=
  (List.range (max 1 ((n.log2 + 32) / 32))).toArray.map fun i => (n >>> (32 * i)).toUInt32

def ofSeed (seed : Nat) : Twister :=
  ofKey (keyOf seed)

def renew (words : Array UInt32) : Array UInt32 :=
  (List.range size).foldl
    (fun words i =>
      let joined :=
        (words.getD i 0 &&& 0x80000000) ||| (words.getD ((i + 1) % size) 0 &&& 0x7fffffff)
      let twist : UInt32 := if joined &&& 1 == 0 then 0 else 0x9908b0df
      words.setIfInBounds i (words.getD ((i + shift) % size) 0 ^^^ (joined >>> 1) ^^^ twist))
    words

def temper (word : UInt32) : UInt32 :=
  let word := word ^^^ (word >>> 11)
  let word := word ^^^ ((word <<< 7) &&& 0x9d2c5680)
  let word := word ^^^ ((word <<< 15) &&& 0xefc60000)
  word ^^^ (word >>> 18)

def next (source : Twister) : UInt32 × Twister :=
  let source := if source.used < size then source else ⟨renew source.words, 0⟩
  (temper (source.words.getD source.used 0), { source with used := source.used + 1 })

/-- A natural of at most so many bits. Whole words come first, the lowest first; of the last word
the highest bits are taken. -/
def bits (source : Twister) (count : Nat) : Nat × Twister :=
  let whole := (count - 1) / 32
  let (low, source) := (List.range whole).foldl
    (fun (low, source) i =>
      let (word, source) := source.next
      (low + word.toNat <<< (32 * i), source))
    (0, source)
  let (word, source) := source.next
  (low + (word.toNat >>> (32 * (whole + 1) - count)) <<< (32 * whole), source)

/-- How often a number that is too large is drawn again. Every draw is large enough with a chance
of more than a half. -/
def attempts : Nat := 4096

def belowWithin (bound : Nat) : Nat → Twister → Nat × Twister
  | 0, source => (0, source)
  | attempts + 1, source =>
    let (n, source) := source.bits (bound.log2 + 1)
    if n < bound then (n, source) else belowWithin bound attempts source

def below (source : Twister) (bound : Nat) : Nat × Twister :=
  belowWithin bound attempts source

theorem belowWithin_lt {bound : Nat} (positive : 0 < bound) (attempts : Nat) (source : Twister) :
    (belowWithin bound attempts source).1 < bound := by
  induction attempts generalizing source with
  | zero => exact positive
  | succ attempts ih =>
    simp only [belowWithin]
    split
    · assumption
    · exact ih _

end Twister
end Fabula
