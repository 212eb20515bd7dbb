import PageStencil.Text.Quoted

/-!
Decoding of octets as UTF-8. The first octet that cannot stand where it stands ends the decoding, with the
place of the sequence that it breaks. Surrogates have no octets, but may be let pass as if they had.
-/

namespace PageStencil.Text.Utf8

inductive Reason
  | startByte
  | continuationByte
  | endOfData
  deriving DecidableEq, Repr

def Reason.message : Reason → String
  | startByte => "invalid start byte"
  | continuationByte => "invalid continuation byte"
  | endOfData => "unexpected end of data"

structure Fault where
  position : Nat
  byte : Nat
  length : Nat
  reason : Reason
  deriving DecidableEq, Repr

def Fault.message (f : Fault) : String :=
  let place :=
    if f.length = 1 then
      "byte 0x" ++ String.ofList (hexPadded 2 f.byte) ++ " in position " ++ toString f.position
    else "bytes in position " ++ toString f.position ++ "-" ++ toString (f.position + f.length - 1)
  "'utf-8' codec can't decode " ++ place ++ ": " ++ f.reason.message

/-- A sequence that is not complete: its value so far, the octets owed, and the range of the next one. -/
structure Pending where
  position : Nat
  byte : Nat
  value : Nat
  owed : Nat
  low : Nat
  high : Nat

def opening? (passing : Bool) (position b : Nat) : Option Pending :=
  if b < 0xC2 then none
  else if b < 0xE0 then some ⟨position, b, b - 0xC0, 1, 0x80, 0xBF⟩
  else if b < 0xF0 then
    some ⟨position, b, b - 0xE0, 2, if b = 0xE0 then 0xA0 else 0x80, if b = 0xED && !passing then 0x9F else 0xBF⟩
  else if b < 0xF5 then
    some ⟨position, b, b - 0xF0, 3, if b = 0xF0 then 0x90 else 0x80, if b = 0xF4 then 0x8F else 0xBF⟩
  else none

mutual

def decodeFrom (passing : Bool) (position : Nat) : List Nat → Except Fault (List CodePoint)
  | [] => .ok []
  | b :: bs =>
    if b < 0x80 then (decodeFrom passing (position + 1) bs).map (.ofNat b :: ·)
    else match opening? passing position b with
      | none => .error ⟨position, b, 1, .startByte⟩
      | some p => continueFrom passing p (position + 1) bs

def continueFrom (passing : Bool) (p : Pending) (position : Nat) : List Nat → Except Fault (List CodePoint)
  | [] => .error ⟨p.position, p.byte, position - p.position, .endOfData⟩
  | b :: bs =>
    if b < p.low || p.high < b then .error ⟨p.position, p.byte, position - p.position, .continuationByte⟩
    else
      let value := 64 * p.value + (b - 0x80)
      if p.owed ≤ 1 then (decodeFrom passing (position + 1) bs).map (.ofNat value :: ·)
      else continueFrom passing ⟨p.position, p.byte, value, p.owed - 1, 0x80, 0xBF⟩ (position + 1) bs

end

def decode (bytes : ByteArray) : Except Fault String :=
  (decodeFrom false 0 (bytes.toList.map UInt8.toNat)).map fun ps => String.ofList (ps.filterMap CodePoint.char?)

end PageStencil.Text.Utf8
