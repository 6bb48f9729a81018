/-
Import statements: `import m`, `from m import i`, and both with `as n`.  Reading
splits at every single blank, so a statement with a doubled blank has an empty
component and is refused.
-/
import TaskScript.Pattern
import TaskScript.Text.Blank
import TaskScript.AscendingSet

namespace TaskScript

/-- `import m`, or `from m import i` when there is an identifier, each with
`as n` when there is an alias. -/
structure Import where
  source : String
  identifier? : Option String := none
  alias? : Option String := none
  deriving DecidableEq, Repr

namespace Import

/-- The words of the statement that are not keywords, in the order written. -/
def components (statement : Import) : List String :=
  statement.source :: (statement.identifier?.toList ++ statement.alias?.toList)

def code : Import → String
  | ⟨source, none, none⟩ => s!"import {source}"
  | ⟨source, some identifier, none⟩ => s!"from {source} import {identifier}"
  | ⟨source, none, some name⟩ => s!"import {source} as {name}"
  | ⟨source, some identifier, some name⟩ =>
      s!"from {source} import {identifier} as {name}"

/-- Statements without an alias come first, then those without an identifier;
the components decide among statements of one shape. -/
instance : Ord Import where
  compare a b :=
    (compare a.alias?.isSome b.alias?.isSome).then <|
      (compare a.identifier?.isSome b.identifier?.isSome).then <|
        (compare a.source b.source).then <|
          (compare (a.identifier?.getD "") (b.identifier?.getD "")).then <|
            compare (a.alias?.getD "") (b.alias?.getD "")

instance : Std.TransOrd Import :=
  inferInstanceAs <| Std.TransCmp <|
    compareLex (compareOn fun a : Import => a.alias?.isSome) <|
      compareLex (compareOn fun a => a.identifier?.isSome) <|
        compareLex (compareOn Import.source) <|
          compareLex (compareOn fun a => a.identifier?.getD "")
            (compareOn fun a => a.alias?.getD "")

theorem eq_of_isSome_of_getD {a b : Option String} (hsome : a.isSome = b.isSome)
    (hvalue : a.getD "" = b.getD "") : a = b := by
  cases a <;> cases b <;> simp_all

instance : Std.LawfulEqOrd Import where
  compare_self := Std.ReflOrd.compare_self
  eq_of_compare {a b} h := by
    obtain ⟨halias, h⟩ := Ordering.then_eq_eq.1 h
    obtain ⟨hidentifier, h⟩ := Ordering.then_eq_eq.1 h
    obtain ⟨hsource, h⟩ := Ordering.then_eq_eq.1 h
    obtain ⟨hidentifier', halias'⟩ := Ordering.then_eq_eq.1 h
    obtain ⟨source, identifier?, alias?⟩ := a
    obtain rfl := Std.LawfulEqOrd.eq_of_compare hsource
    obtain rfl := eq_of_isSome_of_getD (Std.LawfulEqOrd.eq_of_compare hidentifier)
      (Std.LawfulEqOrd.eq_of_compare hidentifier')
    obtain rfl := eq_of_isSome_of_getD (Std.LawfulEqOrd.eq_of_compare halias)
      (Std.LawfulEqOrd.eq_of_compare halias')
    rfl

inductive ParseError where
  | unrecognised (text : String)
  | emptyComponent (text : String)
  deriving DecidableEq, Repr

def ParseError.message : ParseError → String
  | .unrecognised text => s!"Invalid import string: '{text}'"
  | .emptyComponent text => s!"Import string '{text}' has an empty component"

/-- The shapes of a statement over its words. -/
def shapes : List (Rule String (Option Import)) :=
  [{ pattern := [.literal "import", .wildcard]
     conclude := fun
       | [source] => some { source }
       | _ => none },
   { pattern := [.literal "from", .wildcard, .literal "import", .wildcard]
     conclude := fun
       | [source, identifier] => some { source, identifier? := some identifier }
       | _ => none },
   { pattern := [.literal "import", .wildcard, .literal "as", .wildcard]
     conclude := fun
       | [source, name] => some { source, alias? := some name }
       | _ => none },
   { pattern := [.literal "from", .wildcard, .literal "import", .wildcard,
       .literal "as", .wildcard]
     conclude := fun
       | [source, identifier, name] =>
           some { source, identifier? := some identifier, alias? := some name }
       | _ => none }]

/-- The statement of the first shape that the words of `text` have. -/
def ofWords? (words : List String) : Option Import :=
  (Rule.evaluate shapes words).join

def parse (text : String) : Except ParseError Import :=
  match ofWords? (Text.splitBlank text) with
  | none => .error (.unrecognised text)
  | some statement =>
      if "" ∈ statement.components then .error (.emptyComponent text)
      else .ok statement

/-- Whether a component holds a blank, so that reading the code back fails. -/
def hasBlank (statement : Import) : Bool :=
  statement.components.any fun component => component.toList.any Text.isBlank

example : ofWords? ["from", "a", "import", "b"] =
    some { source := "a", identifier? := some "b" } := by decide

example : ofWords? ["from", "a"] = none := by decide

end Import

abbrev ImportSet := AscendingSet Import

end TaskScript
