import Fabula.State.Basic
/-!
# Values and places are like themselves

Main statements:

* `Value.alike_self`: a value is like itself, also one that equals nothing;
* `Cursor.sameOption_self`: so a place is always the same as itself.
-/

namespace Fabula

namespace Value

mutual

@[simp] theorem alike_self : (value : Value) → value.alike value
  | .null => rfl
  | .bool b => by simp [alike, arithmetic?, Number.alike]
  | .number n => by simp [alike, arithmetic?, Number.alike]
  | .text s => by simp [alike]
  | .list items => by simpa [alike] using alikeItems_self items
  | .record fields => by simpa [alike] using alikeFields_self fields

theorem alikeItems_self : (items : List Value) → alikeItems items items
  | [] => rfl
  | item :: rest => by simp [alikeItems, alike_self item, alikeItems_self rest]

/-- A field finds itself where it comes first, and is left out among the others. -/
theorem alikeFields_self : (fields : List (Key × Value)) → alikeFields fields fields
  | [] => rfl
  | field :: rest => by simp [alikeFields, alikeField_self field rest, alikeFields_self rest]

theorem alikeField_self : (field : Key × Value) → (rest : List (Key × Value)) →
    alikeField field (field :: rest)
  | (key, value), rest => by simp [alikeField, Table.find?, alike_self value]

end

end Value

namespace Cursor

@[simp] theorem same_self (cursor : Cursor) : cursor.same cursor := by
  simp [same]

@[simp] theorem sameOption_self : (cursor : Option Cursor) → sameOption cursor cursor
  | none => rfl
  | some cursor => same_self cursor

end Cursor
end Fabula
