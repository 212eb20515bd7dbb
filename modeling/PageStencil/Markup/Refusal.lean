import PageStencil.Text.Integer
import PageStencil.Text.Quoted

/-! Markup that cannot be read at all, and why. -/

namespace PageStencil.Markup

inductive Refusal
  | unknownSection (name : String)
  | unnamedSection (start : String)
  | numberTooLong (digits : Nat)
  | openNamespace
  deriving DecidableEq, Repr

end PageStencil.Markup
