import StructuralEdit.Text.Basic
/-!
Text as UTF-8 bytes. Bytes that are no UTF-8 fall into stretches, each as long as it could still
have become a character.
-/
namespace StructuralEdit.Text

/-- A character of which more bytes are to come. The next one has to lie between `lo` and `hi`. -/
structure PartialChar where
  code : Nat
  more : Nat
  lo : Nat := 0x80
  hi : Nat := 0xBF

inductive Decoding where
  | char (c : Char)
  | begun (p : PartialChar)
  | invalid

def Decoding.ofByte (b : Nat) : Decoding :=
  if b < 0x80 then .char (Char.ofNat b)
  else if b < 0xC2 then .invalid
  else if b < 0xE0 then .begun { code := b - 0xC0, more := 1 }
  else if b = 0xE0 then .begun { code := 0, more := 2, lo := 0xA0 }
  else if b = 0xED then .begun { code := 13, more := 2, hi := 0x9F }
  else if b < 0xF0 then .begun { code := b - 0xE0, more := 2 }
  else if b = 0xF0 then .begun { code := 0, more := 3, lo := 0x90 }
  else if b < 0xF4 then .begun { code := b - 0xF0, more := 3 }
  else if b = 0xF4 then .begun { code := 4, more := 3, hi := 0x8F }
  else .invalid

def PartialChar.next (p : PartialChar) (b : Nat) : Decoding :=
  let code := 64 * p.code + (b - 0x80)
  if p.more = 1 then .char (Char.ofNat code) else .begun { code, more := p.more - 1 }

/-- A decoder between two bytes. Its characters are in reverse, with none for each stretch that is
invalid. -/
structure Decoder where
  chars : List (Option Char) := []
  begun : Option PartialChar := none

namespace Decoder

def take (d : Decoder) : Decoding → Decoder
  | .char c => ⟨some c :: d.chars, none⟩
  | .begun p => ⟨d.chars, some p⟩
  | .invalid => ⟨none :: d.chars, none⟩

/-- Takes a byte. If it cannot go on with the character begun, it starts one. -/
def push (d : Decoder) (byte : UInt8) : Decoder :=
  let b := byte.toNat
  match d.begun with
  | none => d.take (.ofByte b)
  | some p =>
    if p.lo ≤ b ∧ b ≤ p.hi then d.take (p.next b)
    else take { d with chars := none :: d.chars } (.ofByte b)

def finish (d : Decoder) : List (Option Char) :=
  (if d.begun.isSome then none :: d.chars else d.chars).reverse

end Decoder

def decode (bs : List UInt8) : List (Option Char) := (bs.foldl Decoder.push {}).finish

def notUtf8 : String := "stream did not contain valid UTF-8"

def ofBytes? (bs : List UInt8) : Option Text := (decode bs).mapM id

def ofBytes (bs : List UInt8) : Text := (decode bs).map fun c => c.getD '\uFFFD'

def charBytes (c : Char) : List UInt8 :=
  let n := c.toNat
  let tail (shift : Nat) : UInt8 := (0x80 + n / shift % 64).toUInt8
  if n < 0x80 then [n.toUInt8]
  else if n < 0x800 then [(0xC0 + n / 64).toUInt8, tail 1]
  else if n < 0x10000 then [(0xE0 + n / 4096).toUInt8, tail 64, tail 1]
  else [(0xF0 + n / 262144).toUInt8, tail 4096, tail 64, tail 1]

def toBytes (t : Text) : List UInt8 := t.flatMap charBytes

end StructuralEdit.Text
