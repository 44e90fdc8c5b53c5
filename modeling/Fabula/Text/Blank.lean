/-!
# Blank characters, trimming and words

Texts are lists of characters here. A *word* is a maximal run of characters that are not blank.
-/

namespace Fabula.Text

/-- The Unicode white space characters and the four ASCII separators `0x1c` to `0x1f`. -/
def isBlank (c : Char) : Bool :=
  let code := c.toNat
  (9 ≤ code && code ≤ 13) || (28 ≤ code && code ≤ 32) || code == 0x85 || code == 0xa0 ||
    code == 0x1680 || (0x2000 ≤ code && code ≤ 0x200a) || code == 0x2028 || code == 0x2029 ||
    code == 0x202f || code == 0x205f || code == 0x3000

def trimLeft (text : List Char) : List Char :=
  text.dropWhile isBlank

def trimRight (text : List Char) : List Char :=
  (text.reverse.dropWhile isBlank).reverse

def trim (text : List Char) : List Char :=
  trimRight (trimLeft text)

def pushChar (c : Char) : List Char × List (List Char) → List Char × List (List Char)
  | (word, words) =>
    if isBlank c then ([], if word.isEmpty then words else word :: words) else (c :: word, words)

def words (text : List Char) : List (List Char) :=
  match text.foldr pushChar ([], []) with
  | (word, words) => if word.isEmpty then words else word :: words

def firstWord (text : List Char) : List Char :=
  text.takeWhile fun c => !isBlank c

def afterFirstWord (text : List Char) : List Char :=
  trim (text.dropWhile fun c => !isBlank c)

end Fabula.Text
