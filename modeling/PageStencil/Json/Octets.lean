import PageStencil.Json.Read
import PageStencil.Text.Units
import PageStencil.Text.Utf8

/-!
JSON in octets. A byte order mark tells how wide the units of the text are and in which order their octets come; else
zeros among the first octets tell, since the text of a JSON value begins with a character of ASCII. Surrogates may stand
in the text, or be named by escapes.
-/

namespace PageStencil.Json

inductive Width
  | octets
  | two (order : Text.OctetOrder)
  | four (order : Text.OctetOrder)
  deriving DecidableEq, Repr

def Width.marked? : List Nat → Option (Width × Nat)
  | 0 :: 0 :: 0xFE :: 0xFF :: _ => some (four .bigEndian, 4)
  | 0xFF :: 0xFE :: 0 :: 0 :: _ => some (four .littleEndian, 4)
  | 0xFE :: 0xFF :: _ => some (two .bigEndian, 2)
  | 0xFF :: 0xFE :: _ => some (two .littleEndian, 2)
  | 0xEF :: 0xBB :: 0xBF :: _ => some (octets, 3)
  | _ => none

def Width.unmarked : List Nat → Width
  | 0 :: 0 :: _ :: _ :: _ => four .bigEndian
  | 0 :: _ :: _ :: _ :: _ => two .bigEndian
  | _ :: 0 :: 0 :: 0 :: _ => four .littleEndian
  | _ :: 0 :: _ :: _ :: _ => two .littleEndian
  | [0, _] => two .bigEndian
  | [_, 0] => two .littleEndian
  | _ => octets

def Width.decode : Width → List Nat → Option (List Text.CodePoint)
  | octets, bs => (Text.Utf8.decodeFrom true 0 bs).toOption
  | two order, bs => Text.decode16 order bs
  | four order, bs => Text.decode32 order bs

def decodeOctets (bs : List Nat) : Option (List Text.CodePoint) :=
  match Width.marked? bs with
  | some (width, mark) => width.decode (bs.drop mark)
  | none => (Width.unmarked (bs.take 5)).decode bs

def escapes : List Char → List Nat
  | '\\' :: 'u' :: s => ((unit? s).map Prod.fst).toList ++ escapes s
  | _ :: s => escapes s
  | [] => []

def pairs : List Nat → List Char
  | u :: v :: us => Text.joinSurrogates u v :: pairs (v :: us)
  | _ => []

/-- Characters for the surrogates of a text, none of which the text or an escape in it has otherwise. -/
def standIns (ps : List Text.CodePoint) : Text.StandIns :=
  let cs := ps.filterMap Text.CodePoint.char?
  let us := escapes cs
  let named := ps.filterMap Text.CodePoint.surrogate? ++ us.filterMap fun u => (Text.CodePoint.ofNat u).surrogate?
  Text.StandIns.choose named.eraseDups (cs ++ pairs us)

mutual

def mentions (c : Char) : Json → Bool
  | text s => s.toList.contains c
  | list vs => anyMentions c vs
  | object fs => fieldsMention c fs
  | _ => false

def anyMentions (c : Char) : List Json → Bool
  | [] => false
  | v :: vs => mentions c v || anyMentions c vs

def fieldsMention (c : Char) : List (String × Json) → Bool
  | [] => false
  | (name, v) :: fs => name.toList.contains c || mentions c v || fieldsMention c fs

end

structure Body where
  value : Json
  standIns : Text.StandIns := []

def ofCodePoints (ps : List Text.CodePoint) : Except Malformed Body :=
  let t := standIns ps
  (parse (ps.map t.spell) t.char).map fun v => ⟨v, t.filter fun e => v.mentions e.1⟩

def ofOctets (b : ByteArray) : Except Malformed Body :=
  match decodeOctets (b.toList.map UInt8.toNat) with
  | none => .error .undecodable
  | some ps => ofCodePoints ps

end PageStencil.Json
