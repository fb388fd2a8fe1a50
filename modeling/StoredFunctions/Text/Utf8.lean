/-
# UTF-8

Texts are stored as UTF-8.  Every text has one encoding; a sequence of bytes that encodes no text
is refused, with the bytes at fault and the reason: a byte that begins no character, a byte that
does not continue the one before it, or an end in the middle of a character.
-/
import StoredFunctions.Text.Basic

namespace StoredFunctions.Utf8

/-! ## 1. Encoding -/

/-- The bytes of a text. -/
def encode (t : Text) : List UInt8 := t.flatMap String.utf8EncodeChar

/-- Different texts have different bytes. -/
theorem encode_inj {s t : Text} : encode s = encode t ↔ s = t := by
  refine ⟨fun h => ?_, fun h => congrArg encode h⟩
  have hbytes : (String.ofList s).toByteArray = (String.ofList t).toByteArray := by
    rw [String.toByteArray_ofList, String.toByteArray_ofList]
    exact congrArg List.toByteArray h
  exact String.ofList_inj.mp (String.toByteArray_inj.mp hbytes)

/-! ## 2. Decoding -/

/-- What is wrong with a sequence of bytes. -/
inductive Reason where
  | invalidStart
  | invalidContinuation
  | unexpectedEnd
  deriving DecidableEq, Repr

/-- The wording of a reason. -/
def Reason.text : Reason → Text
  | invalidStart => "invalid start byte"
  | invalidContinuation => "invalid continuation byte"
  | unexpectedEnd => "unexpected end of data"

/-- Bytes that encode no character: where they begin, how many there are, the first of them, and
the reason. -/
structure DecodeError where
  position : Nat
  count : Nat
  first : UInt8
  reason : Reason
  deriving DecidableEq, Repr

/-- The wording of an error. -/
def DecodeError.message (e : DecodeError) : Text :=
  let bytes : Text :=
    if e.count = 1 then
      "byte 0x" ++ Text.hex 2 e.first.toNat ++ " in position " ++ Text.ofNat e.position
    else
      "bytes in position " ++ Text.ofNat e.position ++ "-" ++
        Text.ofNat (e.position + e.count - 1)
  "'utf-8' codec can't decode " ++ bytes ++ ":" ++ " " ++ e.reason.text

/-- Whether a byte continues a character. -/
def isContinuation (b : UInt8) : Bool := 0x80 ≤ b && b < 0xC0

/-- Whether the second byte of a character is possible behind the first: it must continue, must not
make the encoding longer than needed, and must not encode half a surrogate pair or a number beyond
the last code point. -/
def isSecond (first second : UInt8) : Bool :=
  isContinuation second &&
    !(first == 0xE0 && second < 0xA0) && !(first == 0xED && 0x9F < second) &&
    !(first == 0xF0 && second < 0x90) && !(first == 0xF4 && 0x8F < second)

/-- How many bytes the character has that begins with this byte. -/
def sequenceLength? (first : UInt8) : Option Nat :=
  if first < 0x80 then some 1
  else if first < 0xC2 then none
  else if first < 0xE0 then some 2
  else if first < 0xF0 then some 3
  else if first < 0xF5 then some 4
  else none

/-- The six bits of a byte that continues a character. -/
def payload (b : UInt8) : Nat := b.toNat % 64

/-- The character at the start of some bytes and the number of its bytes, or the reason why there
is none and the number of bytes at fault. -/
def decodeFirst (first : UInt8) (more : List UInt8) : Except (Reason × Nat) (Char × Nat) :=
  match sequenceLength? first with
  | none => .error (.invalidStart, 1)
  | some 1 => .ok (Char.ofNat first.toNat, 1)
  | some length =>
    match more with
    | [] => .error (.unexpectedEnd, 1)
    | second :: more =>
      if !isSecond first second then .error (.invalidContinuation, 1)
      else if length = 2 then
        .ok (Char.ofNat (first.toNat % 32 * 64 + payload second), 2)
      else match more with
        | [] => .error (.unexpectedEnd, 2)
        | third :: more =>
          if !isContinuation third then .error (.invalidContinuation, 2)
          else if length = 3 then
            .ok (Char.ofNat ((first.toNat % 16 * 64 + payload second) * 64 + payload third), 3)
          else match more with
            | [] => .error (.unexpectedEnd, 3)
            | fourth :: _ =>
              if !isContinuation fourth then .error (.invalidContinuation, 3)
              else
                .ok (Char.ofNat
                  (((first.toNat % 8 * 64 + payload second) * 64 + payload third) * 64 +
                    payload fourth), 4)

/-- The text that bytes encode, of which the first has this position. -/
def decodeFrom (position : Nat) (bytes : List UInt8) : Except DecodeError Text :=
  match bytes with
  | [] => .ok []
  | first :: more =>
    match decodeFirst first more with
    | .error (reason, count) => .error ⟨position, count, first, reason⟩
    | .ok (c, length) =>
      match decodeFrom (position + length) (more.drop (length - 1)) with
      | .ok t => .ok (c :: t)
      | .error e => .error e
termination_by bytes.length
decreasing_by exact Nat.lt_succ_of_le (by rw [List.length_drop]; exact Nat.sub_le _ _)

/-- The text that bytes encode. -/
def decode (bytes : List UInt8) : Except DecodeError Text := decodeFrom 0 bytes

end StoredFunctions.Utf8
