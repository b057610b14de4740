/-!
# UTF-8

Bytes are what streams and files carry. Reading them as text goes byte by byte: a decoder holds the
value read so far and the ranges in which the next continuation bytes must lie. The longest
beginning of a character that a wrong byte cuts short counts as one fault, and the wrong byte is
then read afresh. A strict reading refuses any fault, a lenient one puts U+FFFD in its place.
-/

namespace LineShell

abbrev Bytes := List UInt8

namespace Utf8

def encode (text : List Char) : Bytes :=
  text.flatMap String.utf8EncodeChar

/-- A character of which some continuation bytes are still to come. -/
structure Pending where
  value : Nat
  ranges : List (Nat × Nat)

/-- What a byte that begins a character means. -/
inductive Lead
  | complete (c : Char)
  | expects (pending : Pending)
  | wrong

/-- Overlong forms, surrogates and values above U+10FFFF are excluded by the range of the second
byte. -/
def lead (byte : Nat) : Lead :=
  let tail := (0x80, 0xBF)
  if byte < 0x80 then .complete (Char.ofNat byte)
  else if byte < 0xC2 then .wrong
  else if byte < 0xE0 then .expects ⟨byte - 0xC0, [tail]⟩
  else if byte = 0xE0 then .expects ⟨0, [(0xA0, 0xBF), tail]⟩
  else if byte = 0xED then .expects ⟨0xD, [(0x80, 0x9F), tail]⟩
  else if byte < 0xF0 then .expects ⟨byte - 0xE0, [tail, tail]⟩
  else if byte = 0xF0 then .expects ⟨0, [(0x90, 0xBF), tail, tail]⟩
  else if byte < 0xF4 then .expects ⟨byte - 0xF0, [tail, tail, tail]⟩
  else if byte = 0xF4 then .expects ⟨4, [(0x80, 0x8F), tail, tail]⟩
  else .wrong

/-- The characters read so far, latest first, with `none` for a fault. -/
structure Decoder where
  read : List (Option Char)
  pending : Option Pending

namespace Decoder

def start (d : Decoder) (byte : Nat) : Decoder :=
  match lead byte with
  | .complete c => ⟨some c :: d.read, none⟩
  | .expects pending => ⟨d.read, some pending⟩
  | .wrong => ⟨none :: d.read, none⟩

def feed (d : Decoder) (byte : UInt8) : Decoder :=
  match d.pending with
  | some ⟨value, (low, high) :: ranges⟩ =>
    if low ≤ byte.toNat && byte.toNat ≤ high then
      let value := value * 64 + (byte.toNat - 0x80)
      match ranges with
      | [] => ⟨some (Char.ofNat value) :: d.read, none⟩
      | _ :: _ => ⟨d.read, some ⟨value, ranges⟩⟩
    else start ⟨none :: d.read, none⟩ byte.toNat
  | _ => start d byte.toNat

/-- Bytes that end inside a character end in a fault. -/
def finish (d : Decoder) : List (Option Char) :=
  match d.pending with
  | some _ => (none :: d.read).reverse
  | none => d.read.reverse

end Decoder

def read (bytes : Bytes) : List (Option Char) :=
  (bytes.foldl Decoder.feed ⟨[], none⟩).finish

/-- The text that the bytes encode, if they encode one. -/
def decode? (bytes : Bytes) : Option (List Char) :=
  (read bytes).mapM id

/-- The text with U+FFFD for every fault. -/
def decodeLossy (bytes : Bytes) : List Char :=
  (read bytes).map (·.getD '\uFFFD')

end Utf8

end LineShell
