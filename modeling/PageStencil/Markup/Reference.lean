import PageStencil.Markup.EntityNames
import PageStencil.Text.Ascii

/-!
Character references: by name, by decimal number and by hexadecimal number. A semicolon closes a reference; only some
names count without one, and then the longest that the text begins with. How a number is taken depends on where it
stands, but numbers of certain controls always mean the characters that Windows-1252 has in their place.
-/

namespace PageStencil.Markup.Reference

open Text

def named? (name : List Char) : Option (List Char) :=
  match name with
  | [] => none
  | c :: _ => ((EntityNames.beginningWith c).lookup (String.ofList name)).map String.toList

def unclosedName (s : List Char) : List Char :=
  EntityNames.unclosed.foldl
    (fun found n => if found.length < n.length && n.toList.isPrefixOf s then n.toList else found) []

def replacedControls : List Nat :=
  [0x20AC, 0x81, 0x201A, 0x192, 0x201E, 0x2026, 0x2020, 0x2021, 0x2C6, 0x2030, 0x160, 0x2039, 0x152, 0x8D, 0x17D, 0x8F,
    0x90, 0x2018, 0x2019, 0x201C, 0x201D, 0x2022, 0x2013, 0x2014, 0x2DC, 0x2122, 0x161, 0x203A, 0x153, 0x9D, 0x17E,
    0x178]

def replaceControl (n : Nat) : Nat := if 0x80 ≤ n then (replacedControls[n - 0x80]?).getD n else n

def numbered (n : Nat) : Char :=
  if n = 0 || !(replaceControl n).isValidChar then '\uFFFD' else Char.ofNat (replaceControl n)

def number? (s : List Char) : Option (Nat × List Char × List Char) :=
  match s with
  | [] => none
  | x :: t =>
    if (x == 'x' || x == 'X') && t.head?.any isHexadecimal then
      some (16, t.takeWhile isHexadecimal, t.dropWhile isHexadecimal)
    else if isDecimal x then some (10, s.takeWhile isDecimal, s.dropWhile isDecimal)
    else none

def dropSemicolon : List Char → List Char
  | ';' :: s => s
  | s => s

/-- Replaces the references of a text no longer than the first argument. `read` is given what stands behind an
ampersand, and answers with the characters of a reference and what follows it. -/
def replaceWithin {m : Type → Type} [Monad m] (read : List Char → m (Option (List Char × List Char))) :
    Nat → List Char → m (List Char)
  | 0, s => return s
  | _ + 1, [] => return []
  | fuel + 1, c :: s => do
    if c = '&' then
      match ← read s with
      | some (found, r) => return found ++ (← replaceWithin read fuel r)
      | none => return c :: (← replaceWithin read fuel s)
    else return c :: (← replaceWithin read fuel s)

end PageStencil.Markup.Reference
