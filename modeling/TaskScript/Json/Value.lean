/-
Values of the data format as they were written: objects keep repeated keys, numbers
keep their literal, and a string whose escapes name half a character is kept as a
string without a text.
-/
import TaskScript.Json.Number

namespace TaskScript

inductive Json where
  | null
  | bool (value : Bool)
  | number (value : Json.Number)
  | string (text? : Option String)
  | array (items : List Json)
  | object (fields : List (Option String × Json))

namespace Json

mutual

/-- Whether the value can be held before its use is known: every text is whole, every
number is in range, and the nesting stays below `room`. -/
def isHoldable (room : Nat) : Json → Bool
  | null | bool _ => true
  | number value => value.magnitude?.isSome
  | string text? => text?.isSome
  | array items => 1 < room && areHoldable (room - 1) items
  | object fields => 1 < room && fieldsHoldable (room - 1) fields

def areHoldable (room : Nat) : List Json → Bool
  | [] => true
  | item :: items => isHoldable room item && areHoldable room items

def fieldsHoldable (room : Nat) : List (Option String × Json) → Bool
  | [] => true
  | (key?, value) :: fields =>
      key?.isSome && isHoldable room value && fieldsHoldable room fields

end

/-- Values nest less than this deep if they are to be held. -/
def nestingLimit : Nat := 128

end Json

end TaskScript
