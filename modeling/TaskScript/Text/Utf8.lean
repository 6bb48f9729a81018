/-
Text from bytes.  Bytes that begin a character and are then cut short, and bytes that
can stand nowhere, each give one replacement character.
-/
namespace TaskScript.Text

def replacement : Char := '\ufffd'

/-- A character of which some bytes are read: the bits so far, and the first and last
value of each byte still to come. -/
structure PartialChar where
  bits : Nat
  awaited : List (Nat × Nat)
  deriving DecidableEq, Repr

/-- Any byte that is not the first one of a character. -/
def laterByte : Nat × Nat := (0x80, 0xBF)

/-- What the first byte of a longer character says.  The bounds keep out overlong
forms, surrogates and everything past the last character. -/
def firstByte? (byte : Nat) : Option PartialChar :=
  if 0xC2 ≤ byte ∧ byte ≤ 0xDF then some ⟨byte % 32, [laterByte]⟩
  else if byte = 0xE0 then some ⟨0, [(0xA0, 0xBF), laterByte]⟩
  else if byte = 0xED then some ⟨13, [(0x80, 0x9F), laterByte]⟩
  else if 0xE1 ≤ byte ∧ byte ≤ 0xEF then some ⟨byte % 16, [laterByte, laterByte]⟩
  else if byte = 0xF0 then some ⟨0, [(0x90, 0xBF), laterByte, laterByte]⟩
  else if 0xF1 ≤ byte ∧ byte ≤ 0xF3 then some ⟨byte % 8, [laterByte, laterByte, laterByte]⟩
  else if byte = 0xF4 then some ⟨4, [(0x80, 0x8F), laterByte, laterByte]⟩
  else none

/-- Reads a byte where a character begins. -/
def beginChar (byte : Nat) : List Char × Option PartialChar :=
  if byte < 0x80 then ([Char.ofNat byte], none)
  else
    match firstByte? byte with
    | some begun => ([], some begun)
    | none => ([replacement], none)

/-- Reads a byte: the characters that are complete with it, and what is open then. -/
def feed (byte : Nat) : Option PartialChar → List Char × Option PartialChar
  | some ⟨bits, (first, last) :: awaited⟩ =>
      if first ≤ byte ∧ byte ≤ last then
        let bits := bits * 64 + byte % 64
        if awaited.isEmpty then ([Char.ofNat bits], none) else ([], some ⟨bits, awaited⟩)
      else
        let (chars, begun) := beginChar byte
        (replacement :: chars, begun)
  | some ⟨_, []⟩ | none => beginChar byte

def decodeFrom (begun : Option PartialChar) : List UInt8 → List Char
  | [] => if begun.isSome then [replacement] else []
  | byte :: bytes =>
      let (chars, begun) := feed byte.toNat begun
      chars ++ decodeFrom begun bytes

/-- The text of bytes, whatever they are. -/
def decodeBytes (bytes : List UInt8) : String := String.ofList (decodeFrom none bytes)

def encodeText (text : String) : List UInt8 := text.toList.flatMap String.utf8EncodeChar

example : decodeBytes [0xFF, 0x61, 0xC3, 0xA9, 0xC3] = "\ufffdaé\ufffd" := by decide

example : decodeBytes [0xF0, 0x9F, 0x98, 0x80, 0xED, 0xA0] = "😀\ufffd\ufffd" := by decide

end TaskScript.Text
