import Fabula.Text.Quoted
import Fabula.Value.Basic
/-!
# Values as text

Messages and reports write values on one line. Inside lists and records texts stand between
quotation marks; a text by itself is displayed bare. What has been computed can be too large to be
written.
-/

namespace Fabula.Value

def boolText (b : Bool) : String :=
  if b then "True" else "False"

def nullText : String :=
  "None"

def keyText : Key → String
  | .null => nullText
  | .bool b => boolText b
  | .number n => n.text
  | .text s => Text.quoted s

mutual

def quoted : Value → String
  | .null => nullText
  | .bool b => boolText b
  | .number n => n.text
  | .text s => Text.quoted s
  | .list items => "[" ++ quotedItems items ++ "]"
  | .record fields => "\x7b" ++ quotedFields fields ++ "\x7d"
termination_by structural value => value

def quotedItems : List Value → String
  | [] => ""
  | [item] => quoted item
  | item :: rest => quoted item ++ ", " ++ quotedItems rest
termination_by structural items => items

def quotedFields : List (Key × Value) → String
  | [] => ""
  | [field] => quotedField field
  | field :: rest => quotedField field ++ ", " ++ quotedFields rest
termination_by structural fields => fields

def quotedField : Key × Value → String
  | (key, value) => keyText key ++ ": " ++ quoted value
termination_by structural field => field

end

def display : Value → String
  | .text s => s
  | value => quoted value

def isWritableKey : Key → Bool
  | .number n => n.isWritable
  | _ => true

mutual

def isWritable : Value → Bool
  | .number n => n.isWritable
  | .list items => areWritable items
  | .record fields => areWritableFields fields
  | _ => true
termination_by structural value => value

def areWritable : List Value → Bool
  | [] => true
  | item :: rest => isWritable item && areWritable rest
termination_by structural items => items

def areWritableFields : List (Key × Value) → Bool
  | [] => true
  | field :: rest => isWritableField field && areWritableFields rest
termination_by structural fields => fields

def isWritableField : Key × Value → Bool
  | (key, value) => isWritableKey key && isWritable value
termination_by structural field => field

end

end Fabula.Value
