/-!
Blank characters, trimming and splitting into words. Words hold no blank and none is empty; trimming
only drops blanks at the two ends.
-/

namespace PageStencil.Text

def inRanges (ranges : List (Nat × Nat)) (n : Nat) : Bool :=
  ranges.any fun r => r.1 ≤ n && n ≤ r.2

/-- White space, with the four information separators `U+001C` to `U+001F`. -/
def blankRanges : List (Nat × Nat) :=
  [(0x09, 0x0D), (0x1C, 0x20), (0x85, 0x85), (0xA0, 0xA0), (0x1680, 0x1680), (0x2000, 0x200A),
    (0x2028, 0x2029), (0x202F, 0x202F), (0x205F, 0x205F), (0x3000, 0x3000)]

def isBlank (c : Char) : Bool := inRanges blankRanges c.toNat

def isIndent (c : Char) : Bool := c == ' ' || c == '\t'

def trimLeft (s : List Char) : List Char := s.dropWhile isBlank

def trimRight (s : List Char) : List Char := (s.reverse.dropWhile isBlank).reverse

def trim (s : List Char) : List Char := trimRight (trimLeft s)

def allBlank (s : List Char) : Bool := s.all isBlank

def stretches : List Char → List (List Char)
  | [] => [[]]
  | c :: s =>
    if isBlank c then [] :: stretches s
    else match stretches s with
      | [] => [[c]]
      | w :: ws => (c :: w) :: ws

def words (s : List Char) : List (List Char) := (stretches s).filter (!·.isEmpty)

def trimmed (s : String) : String := String.ofList (trim s.toList)

def isBlankText (s : String) : Bool := allBlank s.toList

def wordsOf (s : String) : List String := (words s.toList).map String.ofList

theorem isBlank_of_isIndent {c : Char} (h : isIndent c = true) : isBlank c = true := by
  simp only [isIndent, Bool.or_eq_true, beq_iff_eq] at h
  rcases h with rfl | rfl <;> decide

theorem not_isBlank_of_mem_stretches {s w : List Char} (hw : w ∈ stretches s) :
    ∀ c ∈ w, isBlank c = false := by
  induction s generalizing w with
  | nil => simp_all [stretches]
  | cons a s ih =>
    unfold stretches at hw
    split at hw
    · rcases List.mem_cons.mp hw with rfl | hw
      · simp
      · exact ih hw
    · rename_i ha
      split at hw
      · simp_all
      · rename_i v vs hs
        rw [hs] at ih
        rcases List.mem_cons.mp hw with rfl | hw
        · intro c hc
          rcases List.mem_cons.mp hc with rfl | hc
          · simpa using ha
          · exact ih List.mem_cons_self c hc
        · exact ih (List.mem_cons_of_mem _ hw)

theorem words_no_blank {s w : List Char} (hw : w ∈ words s) : ∀ c ∈ w, isBlank c = false :=
  not_isBlank_of_mem_stretches (List.mem_filter.mp hw).1

theorem words_ne_nil {s w : List Char} (hw : w ∈ words s) : w ≠ [] := by
  simpa using (List.mem_filter.mp hw).2

end PageStencil.Text
