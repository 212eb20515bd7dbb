import PageStencil.Markup.Fragment.StartTag
import PageStencil.Markup.Tree

/-!
Markup as it is written, report by report. The text is read until something in it may not be complete; then what is
left is read once more, and now the same is taken as far as it can be: what cannot be read even so is text. Raw text
that never ends is lost.
-/

namespace PageStencil.Markup.Fragment

open Reference Text

inductive Report
  | opening (name : String) (attributes : List (String × String)) (closed : Bool)
  | closing (name : String)
  | text (s : List Char)
  | aside (kind : AsideKind) (s : List Char)

/-- One step: what it reports, the element whose raw text comes next, and what is left. A pause waits for more text. -/
inductive Progress
  | step (reports : List Report) (raw : Option String) (rest : List Char)
  | pause (reports : List Report) (rest : List Char)

namespace Report

def cut? (ends? : List Char → Option (List Char)) : List Char → Option (List Char × List Char)
  | [] => none
  | c :: s =>
    match ends? (c :: s) with
    | some r => some ([], r)
    | none => (cut? ends? s).map fun (before, r) => (c :: before, r)

def afterBracket? (s : List Char) : Option (List Char × List Char) :=
  if s.contains '>' then some (s.takeWhile (· != '>'), (s.dropWhile (· != '>')).drop 1) else none

def bracket? (s : List Char) : Option (List Char) :=
  match s.dropWhile Text.isBlank with
  | '>' :: r => some r
  | _ => none

def commentEnd? : List Char → Option (List Char)
  | '-' :: '-' :: s => bracket? s
  | _ => none

def sectionEnd? : List Char → Option (List Char)
  | ']' :: s => bracket? s
  | _ => none

def doubleSectionEnd? : List Char → Option (List Char)
  | ']' :: s =>
    match s.dropWhile Text.isBlank with
    | ']' :: s => bracket? s
    | _ => none
  | _ => none

def rawEnd? (name : String) : List Char → Option (List Char)
  | '<' :: '/' :: s =>
    let s := s.dropWhile Text.isBlank
    if (s.take name.length).map Char.toLower = name.toList then bracket? (s.drop name.length) else none
  | _ => none

def isEndNameChar (c : Char) : Bool := isLetterOrDigit c || c == '-' || c == '.' || c == ':' || c == '_'

def plainEnd? (s : List Char) : Option (List Char × List Char) :=
  let s := s.dropWhile Text.isBlank
  if s.head?.any isLetter then (bracket? (s.dropWhile isEndNameChar)).map (s.takeWhile isEndNameChar, ·) else none

def endTag? (s : List Char) : Option (List Report × List Char) :=
  match afterBracket? s with
  | none => none
  | some (body, r) =>
    match plainEnd? s with
    | some (name, r) => some ([closing (lower name)], r)
    | none =>
      if s.head?.any isLetter then some ([closing (lower (s.takeWhile isTagNameChar))], r)
      else if body.isEmpty then some ([], r)
      else some ([aside .comment body], r)

def isSectionNameChar (c : Char) : Bool := isLetterOrDigit c || c == '-' || c == '_' || c == '.'

def sectionEndOf? (name : String) : Option (List Char → Option (List Char)) :=
  if ["temp", "cdata", "ignore", "include", "rcdata"].contains name then some doubleSectionEnd?
  else if ["if", "else", "endif"].contains name then some sectionEnd?
  else none

def sectionReport (body : List Char) : Report :=
  if (body.take 6).map Char.toUpper = "CDATA[".toList then aside .cdata (body.drop 6) else aside .declaration body

def markedSection (s : List Char) : Except Refusal (Option (List Report × List Char)) :=
  let name := s.takeWhile isSectionNameChar
  let blanks := (s.dropWhile isSectionNameChar).takeWhile Text.isBlank
  if s.isEmpty then .ok none
  else if !s.head?.any isLetter then .error (.unnamedSection (String.ofList ("<![".toList ++ s.take 17)))
  else if name.length + blanks.length = s.length then .ok none
  else
    match sectionEndOf? (lower name) with
    | none => .error (.unknownSection (String.ofList (name ++ blanks)))
    | some ends? => .ok ((cut? ends? s).map fun (body, r) => ([sectionReport body], r))

def declaration? (s : List Char) : Except Refusal (Option (List Report × List Char)) :=
  match s with
  | '[' :: t => markedSection t
  | _ => .ok <| (afterBracket? s).map fun (body, r) =>
    if (s.take 7).map Char.toLower = "doctype".toList then
      ([aside .doctype (body.drop 8)], r)
    else ([aside .comment body], r)

def leftover (s : List Char) : List Char × List Char :=
  match s with
  | [] => ([], [])
  | c :: t =>
    if t.contains '>' then (c :: t.takeWhile (· != '>') ++ ['>'], (t.dropWhile (· != '>')).drop 1)
    else if t.contains '<' then (c :: t.takeWhile (· != '<'), t.dropWhile (· != '<'))
    else ([c], t)

def rawOf (name : String) (closed : Bool) : Option String :=
  if !closed && (name == "script" || name == "style") then some name else none

def bracketed (s : List Char) : Except Refusal (Option Progress) :=
  let simple := fun (found : Option (List Report × List Char)) => found.map fun (rs, r) => Progress.step rs none r
  match s with
  | '<' :: '/' :: t => .ok (simple (endTag? t))
  | '<' :: '!' :: '-' :: '-' :: t => .ok (simple ((cut? commentEnd? t).map fun (body, r) => ([aside .comment body], r)))
  | '<' :: '?' :: t => .ok (simple ((afterBracket? t).map fun (body, r) => ([aside .instruction body], r)))
  | '<' :: '!' :: t => (declaration? t).map simple
  | '<' :: t => do
    match ← startTag t with
    | .incomplete => return none
    | .junk r => return some (.step [text (s.take (s.length - r.length))] none r)
    | .complete name as closed r => return some (.step [opening name as closed] (rawOf name closed) r)
  | _ => .ok none

def charOfNumber (n : Nat) : Char := if n < 0x100 then Char.ofNat (replaceControl n) else numbered n

def numberInText? (s : List Char) : Option (Nat × List Char × List Char) :=
  match number? s with
  | some (base, digits, c :: r) => if isHexadecimal c then none else some (base, digits, c :: r)
  | _ => none

def isNameReferenceChar (c : Char) : Bool := isLetterOrDigit c || c == '-' || c == '.'

def nameInText? (s : List Char) : Option (List Char × List Char) :=
  let name := s.takeWhile isNameReferenceChar
  match s.dropWhile isNameReferenceChar with
  | c :: r => some (name, c :: r)
  | [] =>
    let tail := name.reverse.takeWhile isLetterOrDigit
    let front := name.take (name.length - tail.length)
    if front.isEmpty then none else some (front.dropLast, front.drop (front.length - 1) ++ tail.reverse)

def textOfName (name : List Char) : List Char := (named? name).getD ('&' :: name)

def ampersand (final : Bool) (s : List Char) : Except Refusal Progress :=
  match s with
  | '&' :: '\x23' :: t =>
    match numberInText? t with
    | some (base, digits, r) => do
      checkDigits base digits
      return .step [text [charOfNumber (numeral base digits)]] none (dropSemicolon r)
    | none =>
      if t.contains ';' then .ok (.pause [text ['&', '\x23']] t) else .ok (.pause [] s)
  | '&' :: c :: t =>
    if isLetter c then
      match nameInText? (c :: t) with
      | some (name, r) => .ok (.step [text (textOfName name)] none (dropSemicolon r))
      | none => .ok (.pause [] (if final && t.isEmpty then [c] else s))
    else .ok (.step [text ['&']] none (c :: t))
  | _ => .ok (.pause [] s)

def nonEmptyText (s : List Char) : List Report := if s.isEmpty then [] else [text s]

def beginsBracketed (s : List Char) : Bool :=
  match s with
  | '<' :: c :: _ => isLetter c || c == '/' || c == '!' || c == '?'
  | _ => false

def next (final : Bool) (raw : Option String) (s : List Char) : Except Refusal Progress :=
  match raw with
  | some name =>
    match cut? (rawEnd? name) s with
    | some (body, r) => .ok (.step (nonEmptyText body ++ [closing name]) none r)
    | none => .ok (.pause [] s)
  | none =>
    let plain := fun c => c != '<' && c != '&'
    match s.takeWhile plain with
    | c :: t => .ok (.step [text (c :: t)] none (s.dropWhile plain))
    | [] =>
      if s.head? = some '&' then ampersand final s
      else if beginsBracketed s then do
        match ← bracketed s with
        | some p => return p
        | none =>
          if final then
            let (t, r) := leftover s
            return .step [text t] none r
          else return .pause [] s
      else
        match s with
        | c :: d :: t => .ok (.step [text [c]] none (d :: t))
        | _ => .ok (.pause [] s)

/-- All reports of a text. The first argument is greater than its length, and by two if this is not the last time. -/
def readWithin : Nat → Bool → Option String → List Char → Except Refusal (List Report)
  | 0, _, _, _ => .ok []
  | _ + 1, _, _, [] => .ok []
  | fuel + 1, final, raw, s => do
    match ← next final raw s with
    | .step rs raw r => return rs ++ (← readWithin fuel final raw r)
    | .pause rs r =>
      if final then return rs ++ (if raw.isNone then nonEmptyText r else [])
      else return rs ++ (← readWithin fuel true raw r)

def read (s : List Char) : Except Refusal (List Report) := readWithin (s.length + 2) false none s

end Report

end PageStencil.Markup.Fragment
