/-
Reading records and choices from values.  A record is an object, or an array of its
fields in order; a tagged record names its variant in one of the fields, which comes
first in an array.  To find the tag such a record is held as a whole before it is
read, and values inside it are read a little more freely.
-/
import TaskScript.Json.Value

namespace TaskScript.Json

/-- Whether a value is read as it stands in the text, or was held first. -/
inductive Mode where
  | direct
  | held
  deriving DecidableEq, Repr

def text? : Json → Option String
  | string text? => text?
  | _ => none

def flag? : Json → Option Bool
  | bool value => some value
  | _ => none

/-- A natural number of thirty-two bits, written as an integer. -/
def word? : Json → Option Nat
  | number value =>
      match value.natural? with
      | some n => if n < twoTo 32 then some n else none
      | none => none
  | _ => none

def binary64? : Json → Option Binary64
  | number value => value.toBinary64?
  | _ => none

def list? {α : Type} (read : Json → Option α) : Json → Option (List α)
  | array items => items.mapM read
  | _ => none

/-- Reads null as nothing. -/
def optional? {α : Type} (read : Json → Option α) : Json → Option (Option α)
  | null => some none
  | value => (read value).map some

/-- The values of the named fields of a record, each at most once; other fields are
passed over. -/
def fields? (names : List String) : Json → Option (List (Option Json))
  | object fields =>
      if fields.any (·.1.isNone) then none
      else
        names.mapM fun name =>
          match fields.filter fun field => field.1 == some name with
          | [] => some none
          | [field] => some (some field.2)
          | _ => none
  | array items =>
      if names.length < items.length then none
      else some (items.map some ++ List.replicate (names.length - items.length) none)
  | _ => none

/-- Reads a field that must be there. -/
def need? {α : Type} (read : Json → Option α) (field : Option Json) : Option α :=
  field.bind read

/-- Reads a field that has a value when it is not there. -/
def default? {α : Type} (read : Json → Option α) (value : α) : Option Json → Option α
  | none => some value
  | some field => read field

/-- Whether a value says no more than the choice it belongs to. -/
def isUnit (mode : Mode) : Json → Bool
  | null => true
  | object [] => mode == .held
  | _ => false

/-- One of several named choices: the name, or an object that has it as its only key. -/
def choice? {α : Type} (mode : Mode) (choices : List (String × α)) : Json → Option α
  | string (some name) => choices.lookup name
  | object [(some name, value)] => if isUnit mode value then choices.lookup name else none
  | _ => none

/-- The position of the variant that a tag names; a tag that was held may be the position
itself. -/
def variant? (mode : Mode) (variants : List String) : Json → Option Nat
  | string (some name) => variants.findIdx? (· == name)
  | number value =>
      match mode, value.natural? with
      | .held, some position => if position < variants.length then some position else none
      | _, _ => none
  | _ => none

/-- The position of the variant of a tagged record, and the record without its tag. -/
def tagged? (mode : Mode) (tag : String) (variants : List String) (value : Json) :
    Option (Nat × Json) :=
  if mode = .direct ∧ !value.isHoldable nestingLimit then none
  else
    match value with
    | object fields =>
        match fields.filter fun field => field.1 == some tag with
        | [field] =>
            (variant? mode variants field.2).map fun position =>
              (position, object (fields.filter fun field => field.1 != some tag))
        | _ => none
    | array (first :: rest) =>
        (variant? mode variants first).map fun position => (position, array rest)
    | _ => none

end TaskScript.Json
