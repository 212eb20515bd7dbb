/-!
Lines of a text. A line ends at a line feed or at a carriage return with a line feed behind it; a carriage
return alone does not end one, unless the text's line ends have been unified first.
-/

namespace PageStencil.Text

def consLine (c : Char) : List (List Char) → List (List Char)
  | [] => [[c]]
  | l :: ls => (c :: l) :: ls

def lines : List Char → List (List Char)
  | [] => [[]]
  | '\r' :: '\n' :: s => [] :: lines s
  | '\n' :: s => [] :: lines s
  | c :: s => consLine c (lines s)

def unifyLineEnds : List Char → List Char
  | [] => []
  | '\r' :: '\n' :: s => '\n' :: unifyLineEnds s
  | '\r' :: s => '\n' :: unifyLineEnds s
  | c :: s => c :: unifyLineEnds s

def withUnifiedLineEnds (s : String) : String := String.ofList (unifyLineEnds s.toList)

theorem lines_ne_nil (s : List Char) : lines s ≠ [] := by
  fun_induction lines s with
  | case1 => simp
  | case2 => simp
  | case3 => simp
  | case4 c s _ _ ih => cases h : lines s <;> simp [consLine]

theorem mem_unifyLineEnds_ne {s : List Char} {c : Char} (h : c ∈ unifyLineEnds s) : c ≠ '\r' := by
  fun_induction unifyLineEnds s with
  | case1 => simp at h
  | case2 s ih =>
    rcases List.mem_cons.mp h with rfl | h
    · decide
    · exact ih h
  | case3 s _ ih =>
    rcases List.mem_cons.mp h with rfl | h
    · decide
    · exact ih h
  | case4 a s _ ha ih =>
    rcases List.mem_cons.mp h with rfl | h
    · rintro rfl
      exact ha rfl
    · exact ih h

end PageStencil.Text
