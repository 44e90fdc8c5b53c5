/-!
# Lines of a text

A line ends at any Unicode line boundary; a carriage return with the line feed after it is one
boundary. A boundary at the very end of the text starts no further line.
-/

namespace Fabula.Text

def isLineBreak (c : Char) : Bool :=
  let code := c.toNat
  (10 ≤ code && code ≤ 13) || (0x1c ≤ code && code ≤ 0x1e) || code == 0x85 || code == 0x2028 ||
    code == 0x2029

def pushLine (c : Char) : List (List Char) → List (List Char)
  | [] => [[c]]
  | line :: lines => (c :: line) :: lines

def lines : List Char → List (List Char)
  | [] => []
  | '\r' :: '\n' :: rest => [] :: lines rest
  | c :: rest => if isLineBreak c then [] :: lines rest else pushLine c (lines rest)

end Fabula.Text
