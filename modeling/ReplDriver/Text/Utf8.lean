import ReplDriver.Text.Basic

/-!
# UTF-8

Decoding is strict: it stops at the first byte that no encoding of a text has there, and tells what
was wrong and where. A failure covers the longest run of bytes that could still have begun a
character.
-/

namespace ReplDriver.Utf8

/-- What is wrong with the bytes at a place. -/
inductive Fault where
  | startByte
  | continuationByte
  | endOfData
deriving DecidableEq, Repr

/-- A fault at the bytes from `first` up to `last`, the first of which is `byte`. -/
structure Failure where
  fault : Fault
  byte : Nat
  first : Nat
  last : Nat
deriving DecidableEq, Repr

/-- The words for a fault. -/
def Fault.message : Fault → Text
  | .startByte => "invalid start byte"
  | .continuationByte => "invalid continuation byte"
  | .endOfData => "unexpected end of data"

/-- The whole message: one byte is named by its value, several by their positions. -/
def Failure.message (f : Failure) : Text :=
  let digits := Nat.toDigits 16 f.byte
  let place : Text :=
    if f.first == f.last then
      "byte 0x" ++ List.replicate (2 - digits.length) '0' ++ digits ++ " in position " ++
        Text.ofNat f.first
    else "bytes in position " ++ Text.ofNat f.first ++ "-" ++ Text.ofNat f.last
  "'utf-8' codec can't decode " ++ place ++ ": " ++ f.fault.message

/-- Continuation bytes are 0x80 to 0xbf. -/
def isContinuation (b : UInt8) : Bool := 0x80 ≤ b && b < 0xc0

/-- How many continuation bytes a start byte asks for. -/
def following? (b : UInt8) : Option Nat :=
  if b < 0x80 then some 0
  else if 0xc2 ≤ b && b < 0xe0 then some 1
  else if 0xe0 ≤ b && b < 0xf0 then some 2
  else if 0xf0 ≤ b && b < 0xf5 then some 3
  else none

/-- The second byte must not make the encoding longer than needed, a surrogate, or too large. -/
def secondOk (start second : UInt8) : Bool :=
  isContinuation second &&
    (if start == 0xe0 then 0xa0 ≤ second
     else if start == 0xed then second < 0xa0
     else if start == 0xf0 then 0x90 ≤ second
     else if start == 0xf4 then second < 0x90
     else true)

/-- The payload bits of a start byte. -/
def startBits (b : UInt8) (following : Nat) : Nat :=
  match following with
  | 0 => b.toNat
  | 1 => b.toNat % 0x20
  | 2 => b.toNat % 0x10
  | _ => b.toNat % 0x08

/-- Reads the continuation bytes after a start byte: the code point, or the fault and how many
bytes of the character were in order. -/
def readRest (start : UInt8) : (todo done : Nat) → (bits : Nat) → List UInt8 →
    Except (Fault × Nat) Nat
  | 0, _, bits, _ => .ok bits
  | _ + 1, done, _, [] => .error (.endOfData, done)
  | todo + 1, done, bits, b :: r =>
    if (if done == 1 then secondOk start b else isContinuation b) then
      readRest start todo (done + 1) (bits * 0x40 + b.toNat % 0x40) r
    else .error (.continuationByte, done)

/-- Reads the first character: its code point and the number of bytes after its first. -/
def readChar (start : UInt8) (r : List UInt8) : Except (Fault × Nat) (Nat × Nat) :=
  match following? start with
  | none => .error (.startByte, 1)
  | some n => (readRest start n 1 (startBits start n) r).map (·, n)

/-- Decodes the bytes from offset `position` on. -/
def decodeFrom (position : Nat) : List UInt8 → Except Failure Text
  | [] => .ok []
  | b :: r =>
    match readChar b r with
    | .ok (n, more) => do
      let rest ← decodeFrom (position + 1 + more) (r.drop more)
      return Char.ofNat n :: rest
    | .error (fault, count) => .error ⟨fault, b.toNat, position, position + count - 1⟩
termination_by bytes => bytes.length
decreasing_by simp only [List.length_drop, List.length_cons]; omega

/-- The text that the bytes encode, or what is wrong with them. -/
def decode (bytes : List UInt8) : Except Failure Text := decodeFrom 0 bytes

/-- The bytes of one code point. -/
def encodeChar (c : Char) : List UInt8 :=
  let n := c.toNat
  let tail (k : Nat) : UInt8 := UInt8.ofNat (0x80 + n / Nat.pow 0x40 k % 0x40)
  if n < 0x80 then [UInt8.ofNat n]
  else if n < 0x800 then [UInt8.ofNat (0xc0 + n / 0x40), tail 0]
  else if n < 0x10000 then [UInt8.ofNat (0xe0 + n / 0x1000), tail 1, tail 0]
  else [UInt8.ofNat (0xf0 + n / 0x40000), tail 2, tail 1, tail 0]

/-- The bytes of a text. -/
def encode (s : Text) : List UInt8 := s.flatMap encodeChar

/-! ## Line ends -/

/-- Text files are read with every line end, CR LF or CR alone, as a line feed. -/
def unifyNewlines : Text → Text
  | [] => []
  | '\r' :: '\n' :: r => '\n' :: unifyNewlines r
  | c :: r => (if c == '\r' then '\n' else c) :: unifyNewlines r

end ReplDriver.Utf8
