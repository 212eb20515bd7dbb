import PageStencil.Json.Value
import PageStencil.Text.Ascii
import PageStencil.Text.Integer
import PageStencil.Text.Surrogate

/-!
Reading of JSON text. A refusal tells where the text stops being JSON: at a value that does not begin, at a
missing name, colon or comma, at the opening quote of a text without an end, at a control character, or at a
broken escape. A text is refused too for an integer with too many digits. Not-a-number and the infinities are read.
A surrogate that an escape leaves by itself is read as the character that stands for it.
-/

namespace PageStencil.Json

inductive Malformed
  | unexpected (place : Nat)
  | longInteger
  | undecodable
  deriving DecidableEq, Repr

/-- A reading gives a result and what is left, or refuses; it tells a place by the number of characters left there. -/
abbrev Reading (α : Type) := List Char → Except Malformed (α × List Char)

def stop {α : Type} (left : Nat) : Except Malformed α := .error (.unexpected left)

def isSpace (c : Char) : Bool := c == ' ' || c == '\t' || c == '\n' || c == '\r'

def skipSpace (s : List Char) : List Char := s.dropWhile isSpace

def unit? (s : List Char) : Option (Nat × List Char) :=
  let digits := s.take 4
  let rest := s.drop 4
  if digits.all Text.isHexadecimal && !rest.isEmpty then some (Text.numeral 16 digits, rest) else none

def letterEscape? : Char → Option Char
  | '\x22' => some '\x22'
  | '\\' => some '\\'
  | '/' => some '/'
  | 'b' => some '\x08'
  | 'f' => some '\x0c'
  | 'n' => some '\n'
  | 'r' => some '\r'
  | 't' => some '\t'
  | _ => none

section Texts

variable (half : Text.Surrogate → Char)

def unitChar (u : Nat) : Char :=
  match Text.CodePoint.ofNat u with
  | .char c => c
  | .surrogate h => half h

def unicodeEscape : Reading Char := fun s =>
  match unit? s with
  | none => stop (s.length + 1)
  | some (u, '\\' :: 'u' :: t) =>
    if Text.isHighSurrogate u && !(t.drop 4).isEmpty then
      match unit? t with
      | none => stop (t.length + 1)
      | some (v, r) =>
        if Text.isLowSurrogate v then .ok (Text.joinSurrogates u v, r) else .ok (unitChar half u, '\\' :: 'u' :: t)
    else .ok (unitChar half u, '\\' :: 'u' :: t)
  | some (u, r) => .ok (unitChar half u, r)

/-- The rest of a text whose opening quote has been read; `opened` counts the characters from that quote on. -/
def textFrom (opened : Nat) : Nat → List Char → Reading String
  | 0, _, _ => stop opened
  | _ + 1, _, [] => stop opened
  | _ + 1, _, ['\\'] => stop opened
  | fuel + 1, done, '\\' :: 'u' :: s => do
    let (c, r) ← unicodeEscape half s
    textFrom opened fuel (c :: done) r
  | fuel + 1, done, '\\' :: c :: s =>
    match letterEscape? c with
    | some e => textFrom opened fuel (e :: done) s
    | none => stop (s.length + 2)
  | fuel + 1, done, c :: s =>
    if c = '\x22' then .ok (String.ofList done.reverse, s)
    else if c.toNat ≤ 0x1F then stop (s.length + 1)
    else textFrom opened fuel (c :: done) s

def readText : Reading String := fun s => textFrom half (s.length + 1) (s.length + 1) [] s

end Texts

def fraction (s : List Char) : List Char × List Char :=
  match s with
  | '.' :: d :: t =>
    if Text.isDecimal d then ('.' :: (d :: t).takeWhile Text.isDecimal, (d :: t).dropWhile Text.isDecimal)
    else ([], s)
  | _ => ([], s)

def exponent (s : List Char) : List Char × List Char :=
  match s with
  | e :: t =>
    if e = 'e' ∨ e = 'E' then
      let (sign, t) := match t with
        | '+' :: u => (['+'], u)
        | '-' :: u => (['-'], u)
        | u => ([], u)
      if t.head?.any Text.isDecimal then (e :: sign ++ t.takeWhile Text.isDecimal, t.dropWhile Text.isDecimal)
      else ([], s)
    else ([], s)
  | [] => ([], s)

def exponentValue (s : List Char) : Int :=
  match s.drop 1 with
  | '-' :: t => -(Text.numeral 10 t : Int)
  | '+' :: t => Text.numeral 10 t
  | t => Text.numeral 10 t

def numberOfParts (negative : Bool) (whole frac exp : List Char) : Except Malformed Json :=
  if frac.isEmpty && exp.isEmpty then
    if Text.digitLimit < whole.length then .error .longInteger
    else
      let n : Int := Text.numeral 10 whole
      .ok (.integer (if negative then -n else n))
  else
    let places := frac.drop 1
    .ok (.real (.ofDecimal negative ((whole ++ places).map Text.digitValue) (exponentValue exp - places.length)))

def readNumber : Reading Json := fun s => do
  let (negative, t) := match s with
    | '-' :: t => (true, t)
    | t => (false, t)
  let (whole, rest) := match t with
    | '0' :: u => (['0'], u)
    | u => (u.takeWhile Text.isDecimal, u.dropWhile Text.isDecimal)
  if whole.isEmpty then stop s.length
  else
    let (frac, rest) := fraction rest
    let (exp, rest) := exponent rest
    return (← numberOfParts negative whole frac exp, rest)

def word? (s : List Char) : Option (Json × List Char) :=
  let words : List (String × Json) :=
    [("null", .null), ("true", .bool true), ("false", .bool false), ("NaN", .real .nan),
      ("Infinity", .real (.infinite false)), ("-Infinity", .real (.infinite true))]
  words.findSome? fun (w, v) => if w.toList.isPrefixOf s then some (v, s.drop w.length) else none

section Values

variable (half : Text.Surrogate → Char)

mutual

def readValue : Nat → Reading Json
  | 0, s => stop s.length
  | _ + 1, [] => stop 0
  | fuel + 1, c :: s =>
    if c = '\x22' then do
      let (t, r) ← readText half s
      return (.text t, r)
    else if c = '\x7b' then
      match skipSpace s with
      | '\x7d' :: r => .ok (.object [], r)
      | r => do
        let (fs, r) ← readFields fuel [] r
        return (.object fs, r)
    else if c = '[' then
      match skipSpace s with
      | ']' :: r => .ok (.list [], r)
      | r => do
        let (vs, r) ← readItems fuel r
        return (.list vs, r)
    else match word? (c :: s) with
      | some found => .ok found
      | none => readNumber (c :: s)

def readItems : Nat → Reading (List Json)
  | 0, s => stop s.length
  | fuel + 1, s => do
    let (v, r) ← readValue fuel s
    match skipSpace r with
    | ']' :: r => return ([v], r)
    | ',' :: r =>
      let (vs, r) ← readItems fuel (skipSpace r)
      return (v :: vs, r)
    | r => stop r.length

def readFields : Nat → List (String × Json) → Reading (List (String × Json))
  | 0, _, s => stop s.length
  | fuel + 1, done, s =>
    match s with
    | '\x22' :: s => do
      let (name, r) ← readText half s
      match skipSpace r with
      | ':' :: r =>
        let (v, r) ← readValue fuel (skipSpace r)
        let done := setField name v done
        match skipSpace r with
        | '\x7d' :: r => return (done, r)
        | ',' :: r => readFields fuel done (skipSpace r)
        | r => stop r.length
      | r => stop r.length
    | s => stop s.length

end

end Values

def Malformed.fromStart (length : Nat) : Malformed → Malformed
  | unexpected left => unexpected (length - left)
  | f => f

def parse (s : List Char) (half : Text.Surrogate → Char := fun _ => Text.replacement) : Except Malformed Json :=
  Except.mapError (Malformed.fromStart s.length) <| do
    let (v, r) ← readValue half (2 * s.length + 2) (skipSpace s)
    match skipSpace r with
    | [] => return v
    | r => stop r.length

end PageStencil.Json
