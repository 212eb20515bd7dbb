import PageStencil.Markup.Reference
import PageStencil.Markup.Refusal
import PageStencil.Text.LowerCase

/-!
Start tags as leniently as they can be read. An attribute may follow a quoted value at once; its value stands behind
any number of equals signs. A value whose quote does not end is none, or an empty one if a blank stands before the
quote. A tag that goes on with what cannot belong to it is not one, and is left as text.
-/

namespace PageStencil.Markup.Fragment

open Reference Text

def isQuote (c : Char) : Bool := c == '\x22' || c == '\x27'

def endsTagName (c : Char) : Bool :=
  c == '\t' || c == '\n' || c == '\r' || c == '\x0c' || c == ' ' || c == '/' || c == '>' || c == '\x00'

def isTagNameChar (c : Char) : Bool := !endsTagName c

def lower (s : List Char) : String := String.ofList (Text.lowerBehind [] s)

def isBareChar (c : Char) : Bool := c != '>' && !Text.isBlank c

/-- A part that has been read: what it gives, the last character of it, and what follows it. -/
structure Part (α : Type) where
  found : α
  last : Char
  rest : List Char

def bareValue (last : Char) (s : List Char) : Part (List Char) :=
  let value := s.takeWhile isBareChar
  ⟨value, value.getLast?.getD last, s.dropWhile isBareChar⟩

def valueBehind? (signs blanks : List Char) (s : List Char) : Option (Part (List Char)) :=
  match s with
  | q :: t =>
    if !isQuote q then some (bareValue (blanks.getLast?.getD '=') s)
    else if t.contains q then some ⟨t.takeWhile (· != q), q, (t.dropWhile (· != q)).drop 1⟩
    else match blanks.getLast? with
      | some b => some ⟨[], b, s⟩
      | none => if 2 ≤ signs.length then some (bareValue '=' ('=' :: s)) else none
  | [] => some (bareValue (blanks.getLast?.getD '=') [])

def value? (s : List Char) : Option (Part (List Char)) :=
  let r := s.dropWhile Text.isBlank
  let signs := r.takeWhile (· == '=')
  let r := r.dropWhile (· == '=')
  if signs.isEmpty then none else valueBehind? signs (r.takeWhile Text.isBlank) (r.dropWhile Text.isBlank)

def isNameStart (c : Char) : Bool := !(Text.isBlank c || c == '/' || c == '>')

def isNameChar (c : Char) : Bool := isNameStart c && c != '='

def attribute? (before : Char) (s : List Char) : Option (Part (List Char × List Char)) :=
  match s with
  | [] => none
  | c :: t =>
    if isNameStart c && (isQuote before || Text.isBlank before || before == '/') then
      let name := c :: t.takeWhile isNameChar
      let rest := t.dropWhile isNameChar
      match value? rest with
      | some v => some ⟨(name, v.found), v.last, v.rest⟩
      | none => some ⟨(name, []), name.getLast?.getD c, rest⟩
    else none

def skipGap (before : Char) : List Char → Part Unit
  | [] => ⟨(), before, []⟩
  | c :: s =>
    if Text.isBlank c then skipGap c s
    else if c = '/' then
      match s with
      | '>' :: _ => ⟨(), before, c :: s⟩
      | _ => skipGap c s
    else ⟨(), before, c :: s⟩

def attributes : Nat → Char → List Char → List (List Char × List Char) × List Char
  | 0, _, s => ([], s)
  | fuel + 1, before, s =>
    let gap := skipGap before s
    match attribute? gap.last gap.rest with
    | none => ([], gap.rest)
    | some a =>
      let (as, r) := attributes fuel a.last a.rest
      (a.found :: as, r)

def valueOfNumber (n : Nat) : List Char :=
  let c := numbered n
  let m := c.toNat
  if n = 0x0D || m = 0x09 || m = 0x0A || m = 0x0C then [c]
  else if 0x80 ≤ n && n ≤ 0x9F then [c]
  else if m < 0x20 || m = 0x7F || (0xFDD0 ≤ m && m ≤ 0xFDEF) || 0xFFFE ≤ m % 0x10000 then []
  else [c]

def checkDigits (base : Nat) (digits : List Char) : Except Refusal Unit :=
  if base = 10 && Text.digitLimit < digits.length then .error (.numberTooLong digits.length) else .ok ()

def isReferenceChar (c : Char) : Bool :=
  !(c == '\t' || c == '\n' || c == '\x0c' || c == ' ' || c == '<' || c == '&' || c == '\x23' || c == ';')

def referenceLimit : Nat := 32

def namedInValue? (s : List Char) : Option (List Char × List Char) :=
  let run := (s.takeWhile isReferenceChar).take referenceLimit
  let closed := if (s.drop run.length).head? = some ';' then named? run else none
  match closed with
  | some found => some (found, s.drop (run.length + 1))
  | none =>
    let name := unclosedName run
    (named? name).map fun found => (found, s.drop name.length)

def referenceInValue (s : List Char) : Except Refusal (Option (List Char × List Char)) :=
  match s with
  | '\x23' :: t =>
    match number? t with
    | none => .ok none
    | some (base, digits, r) => do
      checkDigits base digits
      return some (valueOfNumber (numeral base digits), dropSemicolon r)
  | _ => .ok (namedInValue? s)

def resolveValue (s : List Char) : Except Refusal String :=
  (replaceWithin referenceInValue s.length s).map String.ofList

inductive StartTag
  | incomplete
  | junk (rest : List Char)
  | complete (name : String) (attributes : List (String × String)) (closed : Bool) (rest : List Char)

def readAttributes (as : List (List Char × List Char)) : Except Refusal (List (String × String)) :=
  as.mapM fun (name, value) => (resolveValue value).map (lower name, ·)

def startTag (s : List Char) : Except Refusal StartTag :=
  let name := s.takeWhile isTagNameChar
  let (as, r) := attributes (s.length + 1) (name.getLast?.getD ' ') (s.dropWhile isTagNameChar)
  match r with
  | [] => .ok .incomplete
  | '>' :: r => (readAttributes as).map fun as => .complete (lower name) as false r
  | '/' :: '>' :: r => (readAttributes as).map fun as => .complete (lower name) as true r
  | c :: _ =>
    if isLetter c || c == '=' || c == '/' then .ok .incomplete
    else (readAttributes as).map fun _ => .junk r

end PageStencil.Markup.Fragment
