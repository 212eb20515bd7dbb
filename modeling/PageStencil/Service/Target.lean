import PageStencil.Text.Quoted

/-!
Targets of requests: locators of resources, whole or relative to the service. Scheme and authority in front of the path
do not count, nor does what follows a question mark or a number sign. Of a path the parts `.` and `..` are resolved,
and after that the octets decoded that are written with percent signs.
-/

namespace PageStencil.Service

inductive TargetFault
  | tooLong
  | unprintable (c : Char) (position : Nat)
  | leadingSlashes
  | leadingColon
  deriving DecidableEq, Repr

def TargetFault.message : TargetFault → String
  | tooLong => "URL too long"
  | unprintable c position =>
    "Invalid non-printable ASCII character in URL, " ++ Text.quoted (String.singleton c) ++ " at position " ++
      toString position ++ "."
  | leadingSlashes => "Relative URLs cannot have a path starting with '//'"
  | leadingColon => "Relative URLs cannot have a path starting with ':'"

structure Target where
  scheme : List Char
  authority : List Char
  path : List Char
  deriving DecidableEq, Repr

namespace Target

def lengthLimit : Nat := 65536

def isControl (c : Char) : Bool := c.toNat < 0x20 || c.toNat = 0x7F

def isSchemeChar (c : Char) : Bool := Text.isLetterOrDigit c || c == '+' || c == '.' || c == '-'

def endsPath (c : Char) : Bool := c == '?' || c == '\x23'

def splitScheme (s : List Char) : List Char × List Char :=
  let scheme := s.takeWhile isSchemeChar
  match s.dropWhile isSchemeChar with
  | ':' :: rest => if scheme.head?.all Text.isLetter then (scheme, rest) else ([], s)
  | _ => ([], s)

def splitAuthority : List Char → List Char × List Char
  | '/' :: '/' :: s =>
    let ends := fun c => c == '/' || endsPath c
    (s.takeWhile fun c => !ends c, s.dropWhile fun c => !ends c)
  | s => ([], s)

def split (s : List Char) : Target :=
  let (scheme, s) := splitScheme s
  let (authority, s) := splitAuthority s
  ⟨scheme, authority, s.takeWhile fun c => !endsPath c⟩

def check (t : Target) : Except TargetFault Target :=
  if !t.scheme.isEmpty || !t.authority.isEmpty then .ok t
  else match t.path with
    | '/' :: '/' :: _ => .error .leadingSlashes
    | ':' :: _ => .error .leadingColon
    | _ => .ok t

def read (s : String) : Except TargetFault Target :=
  if lengthLimit < s.length then .error .tooLong
  else match s.toList.findIdx? isControl with
    | some i => .error (.unprintable ((s.toList[i]?).getD ' ') i)
    | none => (split s.toList).check

/-- Takes the parts of a path one by one; the first part stands at the bottom of what is kept. -/
def resolve (kept : List (List Char)) : List (List Char) → List (List Char)
  | [] => kept.reverse
  | part :: parts =>
    if part = ['.'] then resolve kept parts
    else if part = ['.', '.'] then resolve (if kept = [[]] then kept else kept.tail) parts
    else resolve (part :: kept) parts

def resolved (path : List Char) : List Char := ['/'].intercalate (resolve [] (path.splitOn '/'))

def percentDecoded : List Char → List Char
  | '%' :: a :: b :: s =>
    if Text.isHexadecimal a && Text.isHexadecimal b then Char.ofNat (Text.numeral 16 [a, b]) :: percentDecoded s
    else '%' :: percentDecoded (a :: b :: s)
  | c :: s => c :: percentDecoded s
  | [] => []

/-- A path alone is resolved only as a path of the service. -/
def ownPath (t : Target) : List Char := if t.scheme.isEmpty && t.authority.isEmpty then t.path else resolved t.path

/-- A locator with scheme and authority is whole and keeps its slashes; any other begins with a single slash. -/
def resourcePath (t : Target) : List Char :=
  let path := t.ownPath
  let path :=
    if t.scheme.isEmpty || t.authority.isEmpty then resolved ('/' :: path.dropWhile (· == '/')) else path
  percentDecoded (if path.isEmpty then ['/'] else path)

end Target

end PageStencil.Service
