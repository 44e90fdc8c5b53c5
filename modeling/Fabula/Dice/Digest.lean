/-!
# Digests

The SHA-512 digest of a list of bytes. The message is padded to blocks of 128 bytes, and every block
is mixed into eight words in eighty rounds. The constants of the rounds come from the roots of the
first primes.
-/

namespace Fabula.Digest

def isPrime (n : Nat) : Bool :=
  2 ≤ n && (List.range n).all fun d => d < 2 || n % d != 0

def primes : List Nat :=
  (List.range 410).filter isPrime

def cubeRoot (n : Nat) : Nat :=
  (List.range 70).foldl
    (fun root k =>
      let next := root + Nat.pow 2 (69 - k)
      if next * next * next ≤ n then next else root)
    0

def initialWords : List UInt64 :=
  (primes.take 8).map fun p => ((p * Nat.pow 2 128).sqrt).toUInt64

def roundConstants : List UInt64 :=
  primes.map fun p => (cubeRoot (p * Nat.pow 2 192)).toUInt64

def bytesOf (count n : Nat) : List UInt8 :=
  (List.range count).map fun i => (n >>> (8 * (count - 1 - i))).toUInt8

def ofBytes (bytes : List UInt8) : Nat :=
  bytes.foldl (fun n byte => 256 * n + byte.toNat) 0

def pad (message : List UInt8) : List UInt8 :=
  let zeros := (239 - message.length % 128) % 128
  message ++ 0x80 :: List.replicate zeros 0 ++ bytesOf 16 (8 * message.length)

def pieces {α : Type} (length : Nat) (items : List α) : List (List α) :=
  (List.range (items.length / length)).map fun i => (items.drop (length * i)).take length

def turn (word : UInt64) (count : UInt64) : UInt64 :=
  (word >>> count) ||| (word <<< (64 - count))

def schedule (block : List UInt8) : List UInt64 :=
  let given := (pieces 8 block).map fun bytes => (ofBytes bytes).toUInt64
  let words := (List.range 64).foldl
    (fun (words : Array UInt64) i =>
      let a := words.getD (i + 1) 0
      let b := words.getD (i + 14) 0
      let low := turn a 1 ^^^ turn a 8 ^^^ (a >>> 7)
      let high := turn b 19 ^^^ turn b 61 ^^^ (b >>> 6)
      words.push (words.getD i 0 + low + words.getD (i + 9) 0 + high))
    given.toArray
  words.toList

def round (words : List UInt64) (mixed : UInt64) : List UInt64 :=
  match words with
  | [a, b, c, d, e, f, g, h] =>
    let first := h + (turn e 14 ^^^ turn e 18 ^^^ turn e 41) + ((e &&& f) ^^^ (~~~e &&& g)) + mixed
    let second := (turn a 28 ^^^ turn a 34 ^^^ turn a 39) + ((a &&& b) ^^^ (a &&& c) ^^^ (b &&& c))
    [first + second, a, b, c, d + first, e, f, g]
  | _ => words

def absorb (words : List UInt64) (block : List UInt8) : List UInt64 :=
  let mixed := (schedule block).zipWith (· + ·) roundConstants
  words.zipWith (· + ·) (mixed.foldl round words)

def digest (message : List UInt8) : List UInt8 :=
  ((pieces 128 (pad message)).foldl absorb initialWords).flatMap fun word =>
    bytesOf 8 word.toNat

end Fabula.Digest
