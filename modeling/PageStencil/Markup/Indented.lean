import PageStencil.Markup.Event

/-!
The written form of a tree with a line for every tag and text, indented by one blank for each depth. Texts are
trimmed, and dropped when nothing is left. Inside an element whose blanks carry meaning all stands as it is.
-/

namespace PageStencil.Markup

/-- The depth, and how many elements are open from the one on that keeps its blanks. -/
structure Layout where
  depth : Nat := 0
  kept : Nat := 0
  deriving DecidableEq, Repr

namespace Layout

def line (depth : Nat) (s : List Char) : List Char :=
  if s.isEmpty then [] else List.replicate depth ' ' ++ s ++ ['\n']

def put (l : Layout) (e : Event) : Layout × List Char :=
  match l.kept, e with
  | 0, .opening t =>
    if t.keepsBlanks then (⟨l.depth + 1, 1⟩, List.replicate l.depth ' ' ++ e.markup)
    else (⟨l.depth + 1, 0⟩, line l.depth e.markup)
  | 0, .closing _ => (⟨l.depth - 1, 0⟩, line (l.depth - 1) e.markup)
  | 0, .lone _ => (l, line l.depth e.markup)
  | 0, _ => (l, line l.depth (Text.trim e.markup))
  | k + 1, .opening _ => (⟨l.depth + 1, k + 2⟩, e.markup)
  | k + 1, .closing _ => (⟨l.depth - 1, k⟩, if k = 0 then e.markup ++ ['\n'] else e.markup)
  | _, _ => (l, e.markup)

def putAll (l : Layout) : List Event → List Char
  | [] => []
  | e :: es =>
    let (l, s) := l.put e
    s ++ putAll l es

end Layout

def Tree.indentedHtml {α : Type} (t : Tree α) : String := String.ofList (Layout.putAll {} t.events)

end PageStencil.Markup
