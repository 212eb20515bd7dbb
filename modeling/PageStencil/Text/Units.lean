import PageStencil.Text.Surrogate

/-!
Texts in units of two or four octets, the most or the least significant octet first. Of units of two octets a high and
a low surrogate make one character; any other surrogate is kept as one.
-/

namespace PageStencil.Text

inductive OctetOrder
  | bigEndian
  | littleEndian
  deriving DecidableEq, Repr

def OctetOrder.unit : OctetOrder → List Nat → Nat
  | bigEndian, octets => octets.foldl (fun n b => 256 * n + b) 0
  | littleEndian, octets => octets.foldr (fun b n => 256 * n + b) 0

def units16 (order : OctetOrder) : List Nat → Option (List Nat)
  | a :: b :: s => (units16 order s).map (order.unit [a, b] :: ·)
  | [] => some []
  | _ => none

def units32 (order : OctetOrder) : List Nat → Option (List Nat)
  | a :: b :: c :: d :: s => (units32 order s).map (order.unit [a, b, c, d] :: ·)
  | [] => some []
  | _ => none

def ofUnits16 : List Nat → List CodePoint
  | h :: l :: s =>
    if isHighSurrogate h && isLowSurrogate l then .char (joinSurrogates h l) :: ofUnits16 s
    else .ofNat h :: ofUnits16 (l :: s)
  | [u] => [.ofNat u]
  | [] => []

def decode16 (order : OctetOrder) (octets : List Nat) : Option (List CodePoint) := (units16 order octets).map ofUnits16

def codePointLimit : Nat := 0x110000

def decode32 (order : OctetOrder) (octets : List Nat) : Option (List CodePoint) := do
  let units ← units32 order octets
  if units.all (· < codePointLimit) then return units.map .ofNat else none

end PageStencil.Text
