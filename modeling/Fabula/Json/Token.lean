/-!
# JSON tokens

A JSON text is cut into marks, quoted texts and atoms, where an atom is a run of characters between
blanks, marks and quotation marks. What cannot be cut any further ends in a token of its own, so
that everything before it can still be read.
-/

namespace Fabula.Json

inductive Token where
  | openList
  | closeList
  | openRecord
  | closeRecord
  | comma
  | colon
  | text (s : String)
  | atom (chars : List Char)
  | broken
deriving DecidableEq, Repr

def mark? : Char → Option Token
  | '[' => some .openList
  | ']' => some .closeList
  | '\x7b' => some .openRecord
  | '\x7d' => some .closeRecord
  | ',' => some .comma
  | ':' => some .colon
  | _ => none

def isSpace (c : Char) : Bool :=
  c == ' ' || c == '\t' || c == '\n' || c == '\r'

def escape? : Char → Option Char
  | '"' => some '"'
  | '\\' => some '\\'
  | '/' => some '/'
  | 'b' => some '\x08'
  | 'f' => some '\x0c'
  | 'n' => some '\n'
  | 'r' => some '\r'
  | 't' => some '\t'
  | _ => none

def hexValue? (c : Char) : Option Nat :=
  if '0' ≤ c && c ≤ '9' then some (c.toNat - 48)
  else if 'a' ≤ c && c ≤ 'f' then some (c.toNat - 87)
  else if 'A' ≤ c && c ≤ 'F' then some (c.toNat - 55)
  else none

/-- Characters from code points, in which a high surrogate and the low one after it are one
character. A surrogate by itself stands for no character and is replaced. -/
def ofCodes : List Nat → List Char
  | high :: low :: rest =>
    if 0xd800 ≤ high && high < 0xdc00 && 0xdc00 ≤ low && low < 0xe000 then
      Char.ofNat (0x10000 + (high - 0xd800) * 0x400 + (low - 0xdc00)) :: ofCodes rest
    else codeChar high :: ofCodes (low :: rest)
  | [code] => [codeChar code]
  | [] => []
where
  codeChar (code : Nat) : Char :=
    if 0xd800 ≤ code && code < 0xe000 then Char.ofNat 0xfffd else Char.ofNat code

inductive Place where
  | between
  | atom (chars : List Char)
  | quoted (codes : List Nat)
  | escaped (codes : List Nat)
  | code (codes : List Nat) (digits : List Nat)
deriving DecidableEq, Repr

def tokensFrom : Place → List Char → List Token
  | .between, [] => []
  | .atom chars, [] => [.atom chars.reverse]
  | _, [] => [.broken]
  | .between, c :: rest =>
    match mark? c with
    | some token => token :: tokensFrom .between rest
    | none =>
      if c == '"' then tokensFrom (.quoted []) rest
      else if isSpace c then tokensFrom .between rest
      else tokensFrom (.atom [c]) rest
  | .atom chars, c :: rest =>
    match mark? c with
    | some token => .atom chars.reverse :: token :: tokensFrom .between rest
    | none =>
      if c == '"' then .atom chars.reverse :: tokensFrom (.quoted []) rest
      else if isSpace c then .atom chars.reverse :: tokensFrom .between rest
      else tokensFrom (.atom (c :: chars)) rest
  | .quoted codes, c :: rest =>
    if c == '"' then .text (String.ofList (ofCodes codes.reverse)) :: tokensFrom .between rest
    else if c == '\\' then tokensFrom (.escaped codes) rest
    else if c.toNat < 0x20 then [.broken]
    else tokensFrom (.quoted (c.toNat :: codes)) rest
  | .escaped codes, c :: rest =>
    if c == 'u' then tokensFrom (.code codes []) rest
    else
      match escape? c with
      | some meant => tokensFrom (.quoted (meant.toNat :: codes)) rest
      | none => [.broken]
  | .code codes digits, c :: rest =>
    match hexValue? c, digits with
    | none, _ => [.broken]
    | some last, [third, second, first] =>
      let code := ((first * 16 + second) * 16 + third) * 16 + last
      tokensFrom (.quoted (code :: codes)) rest
    | some digit, _ => tokensFrom (.code codes (digit :: digits)) rest

def tokens (text : List Char) : List Token :=
  tokensFrom .between text

end Fabula.Json
