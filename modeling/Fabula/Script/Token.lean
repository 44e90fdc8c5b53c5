import Fabula.Text.Blank
import Fabula.Text.Lines
/-!
# Tokens

A script is read line by line. A token is a line with its comment and outer blanks removed, its
number in the source and its indentation; lines with nothing left are dropped. A comment starts at
a `#` that no closed pair of double quotation marks encloses.
-/

namespace Fabula.Script

structure Token where
  line : List Char
  number : Nat
  indent : Nat
deriving DecidableEq, Repr

namespace Token

def keyword (token : Token) : String :=
  String.ofList (Text.firstWord token.line)

def rest (token : Token) : List Char :=
  Text.afterFirstWord token.line

def words (token : Token) : List String :=
  (Text.words token.line).map String.ofList

end Token

/-- Removes the comment from the rest of a line; `quoted` tells whether a pair of quotation marks
is open there. A mark that is never closed opens nothing. -/
def stripCommentFrom : Bool → List Char → List Char
  | _, [] => []
  | true, c :: rest => c :: stripCommentFrom (c != '"') rest
  | false, c :: rest =>
    if c == '#' then [] else c :: stripCommentFrom (c == '"' && rest.contains '"') rest

def stripComment (line : List Char) : List Char :=
  stripCommentFrom false line

def Token.ofLine? (raw : List Char) (number : Nat) : Option Token :=
  let text := stripComment raw
  let line := Text.trim text
  if line.isEmpty then none
  else some ⟨line, number, text.length - (Text.trimLeft text).length⟩

def tokenize (source : List Char) : List Token :=
  ((Text.lines source).zipIdx 1).filterMap fun (raw, number) => Token.ofLine? raw number

end Fabula.Script
