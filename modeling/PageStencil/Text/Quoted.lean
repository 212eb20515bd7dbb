import PageStencil.Text.Ascii
import PageStencil.Text.Printable
import PageStencil.Text.Surrogate

/-!
The quoted form of a text, as messages show it. The mark is an apostrophe unless the text holds one and no
double quote. Inside, the mark and the backslash get a backslash, and what does not print is written by its
code point in hexadecimal.
-/

namespace PageStencil.Text

def apostrophe : Char := '\x27'
def doubleQuote : Char := '\x22'

def quoteMark (s : List Char) : Char :=
  if s.contains apostrophe && !s.contains doubleQuote then doubleQuote else apostrophe

def codePointEscape (n : Nat) : List Char :=
  if n < 0x100 then '\\' :: 'x' :: hexPadded 2 n
  else if n < 0x10000 then '\\' :: 'u' :: hexPadded 4 n
  else '\\' :: 'U' :: hexPadded 8 n

def quotedChar (mark c : Char) : List Char :=
  if c = mark ∨ c = '\\' then ['\\', c]
  else if c = '\t' then ['\\', 't']
  else if c = '\n' then ['\\', 'n']
  else if c = '\r' then ['\\', 'r']
  else if isPrintable c then [c]
  else codePointEscape c.toNat

def quote (s : List Char) : List Char :=
  let mark := quoteMark s
  mark :: s.flatMap (quotedChar mark) ++ [mark]

def SurrogateRun.message (r : SurrogateRun) : String :=
  let place :=
    if r.length = 1 then
      "character \x27" ++ String.ofList (codePointEscape r.first.number) ++ "\x27 in position " ++ toString r.position
    else "characters in position " ++ toString r.position ++ "-" ++ toString (r.position + r.length - 1)
  "'utf-8' codec can't encode " ++ place ++ ": surrogates not allowed"

def quoted (s : String) : String := String.ofList (quote s.toList)

end PageStencil.Text
