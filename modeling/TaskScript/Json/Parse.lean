/-
Values from tokens.  A stack holds the arrays and objects that are open; the parser
knows what may come next and takes one token at a time.
-/
import TaskScript.Json.Token
import TaskScript.Json.Value

namespace TaskScript.Json

/-- An array or object that is open, the last item first. -/
inductive Frame where
  | array (items : List Json)
  | object (fields : List (Option String × Json))
  /-- An object after a key. -/
  | keyed (fields : List (Option String × Json)) (key? : Option String)

/-- What may come next. -/
inductive Expected where
  | value
  /-- A value, or the end of an array without items. -/
  | valueOrEnd
  | key
  /-- A key, or the end of an object without fields. -/
  | keyOrEnd
  | colon
  /-- A comma, or the end of what is open. -/
  | delimiter
  /-- Nothing: this is the whole value. -/
  | nothing (value : Json)

/-- Puts a value into what is open. -/
def place (value : Json) : List Frame → Option (Expected × List Frame)
  | [] => some (.nothing value, [])
  | .array items :: stack => some (.delimiter, .array (value :: items) :: stack)
  | .keyed fields key? :: stack => some (.delimiter, .object ((key?, value) :: fields) :: stack)
  | .object _ :: _ => none

/-- Takes the first token of a value. -/
def takeValue (token : Token) (stack : List Frame) : Option (Expected × List Frame) :=
  match token with
  | .null => place .null stack
  | .bool value => place (.bool value) stack
  | .number value => place (.number value) stack
  | .string text? => place (.string text?) stack
  | .openBracket => some (.valueOrEnd, .array [] :: stack)
  | .openBrace => some (.keyOrEnd, .object [] :: stack)
  | .closeBrace | .closeBracket | .comma | .colon => none

def takeKey (token : Token) (stack : List Frame) : Option (Expected × List Frame) :=
  match token, stack with
  | .string text?, .object fields :: stack => some (.colon, .keyed fields text? :: stack)
  | _, _ => none

/-- Takes a token that ends what is open. -/
def takeEnd (token : Token) (stack : List Frame) : Option (Expected × List Frame) :=
  match token, stack with
  | .closeBracket, .array items :: stack => place (.array items.reverse) stack
  | .closeBrace, .object fields :: stack => place (.object fields.reverse) stack
  | _, _ => none

def takeToken (expected : Expected) (token : Token) (stack : List Frame) :
    Option (Expected × List Frame) :=
  match expected with
  | .value => takeValue token stack
  | .valueOrEnd =>
      if token = .closeBracket then takeEnd token stack else takeValue token stack
  | .key => takeKey token stack
  | .keyOrEnd => if token = .closeBrace then takeEnd token stack else takeKey token stack
  | .colon => if token = .colon then some (.value, stack) else none
  | .delimiter =>
      match token, stack with
      | .comma, .array _ :: _ => some (.value, stack)
      | .comma, .object _ :: _ => some (.key, stack)
      | token, stack => takeEnd token stack
  | .nothing _ => none

def assemble (expected : Expected) (stack : List Frame) : List Token → Option Json
  | [] =>
      match expected with
      | .nothing value => some value
      | _ => none
  | token :: tokens =>
      match takeToken expected token stack with
      | some (expected, stack) => assemble expected stack tokens
      | none => none

/-- The value that a text consists of. -/
def parse? (text : String) : Option Json :=
  (tokens? text.toList).bind (assemble .value [])

end TaskScript.Json
