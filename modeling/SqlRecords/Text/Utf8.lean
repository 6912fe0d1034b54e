/-
This file decodes bytes into text and says where bytes stop being text.

A character takes between one and four bytes. The first byte tells how many follow, and narrows
the range of the second, so that no character has two encodings and no code point that stands
for no character has one. Bytes that are not text are told apart by the number of bytes before
the first bad sequence and by the number of bytes of that sequence that could still have begun
a character; a sequence that the end of the bytes cuts short has no such number.
-/

namespace SqlRecords.Text

/-! ### Sequences -/

/-- The bytes that may follow a first byte: their number, and the range of the first of them. -/
structure SequenceShape where
  following : Nat
  least : Nat
  greatest : Nat
deriving DecidableEq, Repr

/-- What may follow a first byte, if it can begin a character. -/
def sequenceShape? (first : UInt8) : Option SequenceShape :=
  if first < 0x80 then some ⟨0, 0x80, 0xBF⟩
  else if first < 0xC2 then none
  else if first < 0xE0 then some ⟨1, 0x80, 0xBF⟩
  else if first = 0xE0 then some ⟨2, 0xA0, 0xBF⟩
  else if first = 0xED then some ⟨2, 0x80, 0x9F⟩
  else if first < 0xF0 then some ⟨2, 0x80, 0xBF⟩
  else if first = 0xF0 then some ⟨3, 0x90, 0xBF⟩
  else if first < 0xF4 then some ⟨3, 0x80, 0xBF⟩
  else if first = 0xF4 then some ⟨3, 0x80, 0x8F⟩
  else none

/-! ### Decoding -/

/-- Why bytes are not text. -/
inductive Utf8Error where
  | invalid (length index : Nat)
  | incomplete (index : Nat)
deriving DecidableEq, Repr

/-- The wording of the reason. -/
def Utf8Error.message : Utf8Error → String
  | invalid length index =>
    "invalid utf-8 sequence of " ++ toString length ++ " bytes from index " ++ toString index
  | incomplete index => "incomplete utf-8 byte sequence from index " ++ toString index

/-- Looks for the first bad sequence, given the number of bytes before the current sequence and,
inside a sequence, the number of its bytes already read and what may follow them. -/
def diagnoseFrom (index : Nat) : Option (Nat × SequenceShape) → List UInt8 → Utf8Error
  | _, [] => .incomplete index
  | none, first :: rest =>
    match sequenceShape? first with
    | none => .invalid 1 index
    | some ⟨0, _, _⟩ => diagnoseFrom (index + 1) none rest
    | some shape => diagnoseFrom index (some (1, shape)) rest
  | some (read, shape), byte :: rest =>
    if shape.least ≤ byte.toNat ∧ byte.toNat ≤ shape.greatest then
      if shape.following = 1 then
        diagnoseFrom (index + read + 1) none rest
      else
        diagnoseFrom index (some (read + 1, ⟨shape.following - 1, 0x80, 0xBF⟩)) rest
    else
      .invalid read index

/-- Decodes bytes into text. -/
def decodeUtf8 (bytes : List UInt8) : Except Utf8Error String :=
  match String.fromUTF8? ⟨bytes.toArray⟩ with
  | some text => .ok text
  | none => .error (diagnoseFrom 0 none bytes)

/-- The text of the first bytes, which are known to be text. -/
def textBefore (index : Nat) (bytes : List UInt8) : String :=
  (decodeUtf8 (bytes.take index)).toOption.getD ""

/-- Decodes bytes into text, with a replacement character for every bad sequence. -/
def decodeUtf8Lossy (bytes : List UInt8) : String :=
  match decodeUtf8 bytes with
  | .ok text => text
  | .error (.incomplete index) => textBefore index bytes ++ "\uFFFD"
  | .error (.invalid length index) =>
    match bytes with
    | [] => ""
    | _ :: rest =>
      textBefore index bytes ++ "\uFFFD" ++ decodeUtf8Lossy (rest.drop (index + length - 1))
termination_by bytes.length
decreasing_by
  rw [List.length_drop, List.length_cons]
  omega

/-- The bytes of a text. -/
def encodeUtf8 (text : String) : List UInt8 :=
  text.toUTF8.data.toList

end SqlRecords.Text
