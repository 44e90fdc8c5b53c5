import Fabula.Value.Reading
/-!
# Writing JSON

Lists and records are written on one line, or with every item on a line of its own below an
indentation. Floats are written with the fewest digits that read back, and the three values that
are no numbers by their names.
-/

namespace Fabula.Json

/-- How JSON is laid out: the indentation of one level, where `none` keeps everything on one line,
and whether characters beyond ASCII are escaped. -/
structure Layout where
  indent : Option String
  ascii : Bool
deriving DecidableEq, Repr

def escapedUnit (code : Nat) : List Char :=
  '\\' :: 'u' :: Text.hexDigits 4 code

def writeChar (ascii : Bool) (c : Char) : List Char :=
  let code := c.toNat
  if c == '"' || c == '\\' then ['\\', c]
  else if c == '\n' then ['\\', 'n']
  else if c == '\r' then ['\\', 'r']
  else if c == '\t' then ['\\', 't']
  else if c == '\x0c' then ['\\', 'f']
  else if c == '\x08' then ['\\', 'b']
  else if code < 0x20 then escapedUnit code
  else if !ascii || code < 0x7f then [c]
  else if code < 0x10000 then escapedUnit code
  else
    let above := code - 0x10000
    escapedUnit (0xd800 + above / 0x400) ++ escapedUnit (0xdc00 + above % 0x400)

def writeText (ascii : Bool) (s : String) : String :=
  String.ofList ('"' :: s.toList.flatMap (writeChar ascii) ++ ['"'])

def writeBool (b : Bool) : String :=
  if b then "true" else "false"

def writeNumber : Number → String
  | .int n => toString n
  | .float x =>
    match Binary64.parts x with
    | .nan => "NaN"
    | .infinite true => "-Infinity"
    | .infinite false => "Infinity"
    | .finite .. => Binary64.text x

def keyName : Key → String
  | .null => "null"
  | .bool b => writeBool b
  | .number n => writeNumber n
  | .text s => s

namespace Layout

def lineBreak (layout : Layout) (depth : Nat) : String :=
  match layout.indent with
  | none => ""
  | some indent => "\n" ++ String.join (List.replicate depth indent)

def separator (layout : Layout) (depth : Nat) : String :=
  match layout.indent with
  | none => ", "
  | some _ => "," ++ layout.lineBreak depth

end Layout

mutual

def writeAt (layout : Layout) (depth : Nat) : Value → String
  | .null => "null"
  | .bool b => writeBool b
  | .number n => writeNumber n
  | .text s => writeText layout.ascii s
  | .list [] => "[]"
  | .list items =>
    "[" ++ layout.lineBreak (depth + 1) ++ writeItems layout (depth + 1) items ++
      layout.lineBreak depth ++ "]"
  | .record [] => "\x7b\x7d"
  | .record fields =>
    "\x7b" ++ layout.lineBreak (depth + 1) ++ writeFields layout (depth + 1) fields ++
      layout.lineBreak depth ++ "\x7d"
termination_by structural value => value

def writeItems (layout : Layout) (depth : Nat) : List Value → String
  | [] => ""
  | [item] => writeAt layout depth item
  | item :: rest =>
    writeAt layout depth item ++ layout.separator depth ++ writeItems layout depth rest
termination_by structural items => items

def writeFields (layout : Layout) (depth : Nat) : List (Key × Value) → String
  | [] => ""
  | [field] => writeField layout depth field
  | field :: rest =>
    writeField layout depth field ++ layout.separator depth ++ writeFields layout depth rest
termination_by structural fields => fields

def writeField (layout : Layout) (depth : Nat) : Key × Value → String
  | (key, value) => writeText layout.ascii (keyName key) ++ ": " ++ writeAt layout depth value
termination_by structural field => field

end

def widestIndent : Int :=
  16777216

/-- The indentation that a value asks for: none, so many spaces, or a text. A negative number asks
for lines without indentation; it must fit 64 bits with a sign. -/
def indentOf : Value → Except Failure (Option String)
  | .null => .ok none
  | .text s => .ok (some s)
  | .bool b => .ok (some (if b then " " else ""))
  | .number (.int n) =>
    if Int64.minValue.toInt ≤ n && n ≤ widestIndent then
      .ok (some (String.ofList (List.replicate n.toNat ' ')))
    else .error .tooLarge
  | _ => .error .wrongKind

def write (layout : Layout) (value : Value) : String :=
  writeAt layout 0 value

end Fabula.Json
