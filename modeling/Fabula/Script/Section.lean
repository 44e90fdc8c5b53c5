import Fabula.Script.Token
/-!
# The layout of a script

The tokens of a script fall into a header and one section for every `NODE` line. A section falls
into single lines and blocks. A block starts at a `CHOICE` or `IF` line and reaches to the first
bare `END` with the indentation of its opener, or to the end of the section if there is none. A
speaker line is never an opener, whatever its first word.
-/

namespace Fabula.Script

/-- The name and the spoken text of a speaker line: a run of characters without blanks and colons,
then a colon, then the text. -/
def Token.speaker? (token : Token) : Option (List Char × List Char) :=
  let isNameChar := fun c => !Text.isBlank c && c != ':'
  match token.line.takeWhile isNameChar, token.line.dropWhile isNameChar with
  | [], _ => none
  | name, ':' :: text => some (name, text)
  | _, _ => none

def Token.opensBlock (token : Token) : Bool :=
  token.speaker?.isNone && (token.keyword == "CHOICE" || token.keyword == "IF")

def Token.closes (opener token : Token) : Bool :=
  token.line == ['E', 'N', 'D'] && token.indent == opener.indent

inductive Item where
  | line (token : Token)
  | block (opener : Token) (body : List Token) (closed : Bool)
deriving DecidableEq, Repr

def items : List Token → List Item
  | [] => []
  | token :: rest =>
    if token.opensBlock then
      let after := rest.dropWhile fun other => !token.closes other
      .block token (rest.takeWhile fun other => !token.closes other) (!after.isEmpty) ::
        items after.tail
    else .line token :: items rest
termination_by tokens => tokens.length
decreasing_by
  · have shorter := (List.dropWhile_suffix (fun other => !token.closes other) (l := rest)).length_le
    simp only [List.length_tail, List.length_cons]
    omega
  · simp

structure Section where
  opener : Token
  tokens : List Token
deriving DecidableEq, Repr

def Token.opensSection (token : Token) : Bool :=
  token.keyword == "NODE"

def sections : List Token → List Token × List Section
  | [] => ([], [])
  | token :: rest =>
    let (above, below) := sections rest
    if token.opensSection then ([], ⟨token, above⟩ :: below) else (token :: above, below)

end Fabula.Script
