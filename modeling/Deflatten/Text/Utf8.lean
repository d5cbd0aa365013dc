import Deflatten.Text.Quoted
/-!
# UTF-8

`Utf8.decode` reads octets as UTF-8 and tells where and why they are none. A sequence that breaks off is blamed on its
leading octet, together with the octets after it that could still belong to it. `Utf8.encode` writes text as UTF-8,
which has no octets for a surrogate that stands alone.
-/

namespace Deflatten.Utf8

/-- Why octets are not UTF-8. -/
inductive Reason where
  | startByte
  | continuationByte
  | endOfData
  deriving DecidableEq, Repr

/-- The words for a reason. -/
def Reason.words : Reason → String
  | .startByte => "invalid start byte"
  | .continuationByte => "invalid continuation byte"
  | .endOfData => "unexpected end of data"

/-- A fault: the octets that are to blame, the place of the first of them, and the reason. -/
structure Fault where
  offset : Nat
  octets : List UInt8
  reason : Reason
  deriving DecidableEq, Repr

/-- A leading octet: how many octets follow it, the bits it contributes, and the least and the greatest octet that may
come next. -/
structure Lead where
  following : Nat
  bits : Nat
  least : UInt8 := 0x80
  greatest : UInt8 := 0xbf
  deriving DecidableEq, Repr

/-- Reads a leading octet; `none` if no sequence begins with it. -/
def lead? (b : UInt8) : Option Lead :=
  let n := b.toNat
  if n < 0x80 then some { following := 0, bits := n }
  else if n < 0xc2 then none
  else if n < 0xe0 then some { following := 1, bits := n - 0xc0 }
  else if n = 0xe0 then some { following := 2, bits := 0, least := 0xa0 }
  else if n = 0xed then some { following := 2, bits := 0xd, greatest := 0x9f }
  else if n < 0xf0 then some { following := 2, bits := n - 0xe0 }
  else if n = 0xf0 then some { following := 3, bits := 0, least := 0x90 }
  else if n < 0xf4 then some { following := 3, bits := n - 0xf0 }
  else if n = 0xf4 then some { following := 3, bits := 4, greatest := 0x8f }
  else none

/-- Reads `following` more octets of a sequence. The answer is the code point; otherwise how many octets could belong to
the sequence, and the reason. -/
def follow : Nat → Nat → Nat → UInt8 → UInt8 → List UInt8 → Except (Nat × Reason) Nat
  | 0, _, code, _, _, _ => .ok code
  | _ + 1, taken, _, _, _, [] => .error (taken, .endOfData)
  | following + 1, taken, code, least, greatest, b :: bs =>
    if least ≤ b ∧ b ≤ greatest then follow following (taken + 1) (64 * code + (b.toNat - 0x80)) 0x80 0xbf bs
    else .error (taken, .continuationByte)

/-- Reads the sequence that a leading octet begins. The answer is the character and how many octets follow the leading
one. -/
def sequenceHere (b : UInt8) (bs : List UInt8) : Except (Nat × Reason) (Char × Nat) :=
  match lead? b with
  | none => .error (1, .startByte)
  | some l => (follow l.following 1 l.bits l.least l.greatest bs).map fun code => (Char.ofNat code, l.following)

/-- Reads octets from a place on, of which `skip` belong to a sequence that has been read. -/
def decodeFrom (offset skip : Nat) : List UInt8 → Except Fault (List Char)
  | [] => .ok []
  | b :: bs =>
    match skip with
    | skip + 1 => decodeFrom (offset + 1) skip bs
    | 0 =>
      match sequenceHere b bs with
      | .ok (c, following) => (decodeFrom (offset + 1) following bs).map (c :: ·)
      | .error (taken, reason) => .error ⟨offset, (b :: bs).take taken, reason⟩

/-- Reads octets as UTF-8. -/
def decode (bs : List UInt8) : Except Fault (List Char) := decodeFrom 0 0 bs

/-- An octet in two hexadecimal digits. -/
def hexOctet (b : UInt8) : String := String.ofList [Nat.digitChar (b.toNat / 16), Nat.digitChar (b.toNat % 16)]

/-- A fault as it is shown. -/
def Fault.message (f : Fault) : String :=
  let place :=
    match f.octets with
    | [b] => "byte 0x" ++ hexOctet b ++ " in position " ++ toString f.offset
    | bs => "bytes in position " ++ toString f.offset ++ "-" ++ toString (f.offset + bs.length - 1)
  "'utf-8' codec can't decode " ++ place ++ ": " ++ f.reason.words

/-! ## Writing -/

/-- Surrogates that cannot be written: the place of the first, and all that stand there in a row. -/
structure Unwritable where
  offset : Nat
  surrogates : List Nat
  deriving DecidableEq, Repr

/-- What of some characters, the first of them at a place, cannot be written. A surrogate that is an octet of its own
stands in no one's way. -/
def unwritable? (isOctet : Nat → Bool) (offset : Nat) : List Char → Option Unwritable
  | [] => none
  | c :: cs =>
    if Surrogate.isHeld c && !isOctet (Surrogate.codePoint c) then
      some ⟨offset, ((c :: cs).takeWhile Surrogate.isHeld).map Surrogate.codePoint⟩
    else unwritable? isOctet (offset + 1) cs

/-- Writes text as UTF-8. -/
def encode (s : String) : Except Unwritable (List UInt8) :=
  match unwritable? (fun _ => false) 0 s.toList with
  | some u => .error u
  | none => .ok s.toUTF8.toList

/-- What cannot be written as it is shown. -/
def Unwritable.message (u : Unwritable) : String :=
  let place :=
    match u.surrogates with
    | [c] => "character '" ++ Quoted.numericEscape c ++ "' in position " ++ toString u.offset
    | cs => "characters in position " ++ toString u.offset ++ "-" ++ toString (u.offset + cs.length - 1)
  "'utf-8' codec can't encode " ++ place ++ ": surrogates not allowed"

/-! ## Lines -/

/-- Text with every carriage return, alone or before a line feed, turned into a line feed. -/
def plainLines : List Char → List Char
  | '\r' :: '\n' :: cs => '\n' :: plainLines cs
  | '\r' :: cs => '\n' :: plainLines cs
  | c :: cs => c :: plainLines cs
  | [] => []

end Deflatten.Utf8
