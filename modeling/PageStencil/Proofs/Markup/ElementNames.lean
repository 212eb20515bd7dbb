import PageStencil.Markup.Document
import PageStencil.Proofs.Markup.Root

/-!
The names of the elements in a document. None begins with a bracket if none does among the pieces that the document is
put together from, and then no element is taken for the document as a whole.
-/

namespace PageStencil.Markup

def IsElementName (name : String) : Prop := name.toList.head? ≠ some '['

instance : DecidablePred IsElementName := fun name => inferInstanceAs (Decidable (name.toList.head? ≠ some '['))

lemma IsElementName.ne {name : String} (h : IsElementName name) : name ≠ Document.name := by
  rintro rfl
  exact h (by decide)

lemma isElementName_of_head {s : List Char} (h : s.head? ≠ some '[') : IsElementName (String.ofList s) := by
  rwa [IsElementName, String.toList_ofList]

namespace Tree

variable {α : Type} {t u : Tree α} {name : String}

def Named (t : Tree α) : Prop := ∀ e ∈ t.elements, IsElementName e.2.name

lemma named_leaf (l : α) (c : Leaf) : (leaf l c).Named := fun _ he => absurd he List.not_mem_nil

lemma named_element_iff {l : α} {tag : Tag} {cs : List (Tree α)} :
    (element l tag cs).Named ↔ IsElementName tag.name ∧ ∀ c ∈ cs, c.Named := by
  rw [Named, elements, elementsOfAll_eq, List.forall_mem_cons, List.forall_mem_flatMap]
  rfl

lemma Named.children (h : t.Named) : ∀ c ∈ t.children, c.Named := by
  cases t with
  | leaf l c => exact fun _ hc => absurd hc List.not_mem_nil
  | element l tag cs => exact (named_element_iff.mp h).2

lemma named_descendant? (h : ∀ c ∈ t.children, c.Named) (hu : t.descendant? name = some u) : u.Named := by
  induction t using ind with
  | hleaf l c => cases hu
  | helement l tag cs ih =>
    obtain ⟨c, hc, rfl | hbelow⟩ := descendantIn?_eq_some hu
    · exact h c hc
    · exact ih c hc (h c hc).children hbelow

lemma named_fragmentRoot? (h : ∀ c ∈ t.children, c.Named) (hu : t.fragmentRoot? = some u) : u.Named := by
  have hmem := List.mem_of_find?_eq_some hu
  cases hbody : t.descendant? "body" with
  | none =>
    rw [hbody] at hmem
    exact h u hmem
  | some body =>
    rw [hbody] at hmem
    exact (named_descendant? h hbody).children u hmem

end Tree

def Piece.Named : Piece → Prop
  | .opening tag => IsElementName tag.name
  | _ => True

namespace Document

lemma named_cons {p : Piece} {ps : List Piece} (hp : p.Named) (hps : ∀ q ∈ ps, q.Named) : ∀ q ∈ p.cons ps, q.Named := by
  fun_cases Piece.cons p ps with
  | case1 s t ps => exact List.forall_mem_cons.mpr ⟨trivial, (List.forall_mem_cons.mp hps).2⟩
  | case2 => exact List.forall_mem_cons.mpr ⟨hp, hps⟩

lemma named_joinTexts {ps : List Piece} (h : ∀ p ∈ ps, p.Named) : ∀ p ∈ Piece.joinTexts ps, p.Named := by
  induction ps with
  | nil => exact h
  | cons p ps ih =>
    obtain ⟨hp, hps⟩ := List.forall_mem_cons.mp h
    exact named_cons hp (ih hps)

def Stack.Named : Stack → Prop
  | [] => True
  | o :: os => (os ≠ [] → IsElementName o.tag.name) ∧ (∀ c ∈ o.children, c.Named) ∧ Stack.Named os

variable {o : Open} {os s : Stack} {t inner : Tree Unit}

lemma Stack.Named.add (hs : s.Named) (ht : t.Named) : Stack.Named (Document.add t s) := by
  cases s with
  | nil => exact hs
  | cons o os => exact ⟨hs.1, List.forall_mem_cons.mpr ⟨ht, hs.2.1⟩, hs.2.2⟩

lemma Stack.Named.putInto (hs : Stack.Named (o :: os)) (ht : t.Named) :
    Stack.Named ({ o with children := t :: o.children } :: os) := hs.add ht

lemma named_close (hs : Stack.Named (o :: os)) (hos : os ≠ []) : o.close.Named :=
  Tree.named_element_iff.mpr ⟨hs.1 hos, fun c hc => hs.2.1 c (List.mem_reverse.mp hc)⟩

lemma Stack.Named.closeNext (hs : Stack.Named (o :: os)) : Stack.Named (Document.add o.close os) := by
  by_cases hos : os = []
  · rw [hos]
    trivial
  · exact hs.2.2.add (named_close hs hos)

lemma Stack.Named.closeInto (hs : s.Named) (hinner : inner.Named) (space name : String) :
    Stack.Named (Document.closeInto space name inner s) := by
  induction s generalizing inner with
  | nil => exact hs
  | cons o os ih =>
    have hput := hs.putInto hinner
    rw [Document.closeInto]
    split_ifs
    · exact hput.closeNext
    · by_cases hos : os = []
      · rw [hos]
        trivial
      · exact ih hs.2.2 (named_close hput hos)

lemma Stack.Named.closeTo (hs : s.Named) (space name : String) : Stack.Named (Document.closeTo space name s) := by
  cases s with
  | nil => exact hs
  | cons o os =>
    rw [Document.closeTo]
    split_ifs
    · exact hs
    · exact hs.closeNext
    · by_cases hos : os = []
      · rw [hos]
        trivial
      · exact hs.2.2.closeInto (named_close hs hos) space name

lemma Stack.Named.addPiece (hs : s.Named) {p : Piece} (hp : p.Named) : Stack.Named (Document.addPiece s p) := by
  cases p with
  | opening tag => exact ⟨fun _ => hp, fun _ hc => absurd hc List.not_mem_nil, hs⟩
  | closing space name => exact hs.closeTo space name
  | text _ => exact hs.add (Tree.named_leaf _ _)
  | aside _ _ => exact hs.add (Tree.named_leaf _ _)
  | leaf _ => exact hs.add (Tree.named_leaf _ _)

lemma Stack.Named.addPieces (hs : s.Named) {ps : List Piece} (hps : ∀ p ∈ ps, p.Named) :
    Stack.Named (ps.foldl Document.addPiece s) := by
  induction ps generalizing s with
  | nil => exact hs
  | cons p ps ih =>
    obtain ⟨hp, hps⟩ := List.forall_mem_cons.mp hps
    exact ih (hs.addPiece hp) hps

lemma Stack.Named.closeAllInto (hs : s.Named) (hchildren : ∀ c ∈ inner.children, c.Named)
    (hinner : s ≠ [] → inner.Named) : ∀ c ∈ (Document.closeAllInto inner s).children, c.Named := by
  induction s generalizing inner with
  | nil => exact hchildren
  | cons o os ih =>
    have hput := hs.putInto (hinner (List.cons_ne_nil o os))
    exact ih hs.2.2 (fun c hc => hput.2.1 c (List.mem_reverse.mp hc)) (named_close hput)

lemma Stack.Named.closeAll (hs : s.Named) : ∀ c ∈ (Document.closeAll s).children, c.Named := by
  cases s with
  | nil => exact fun _ hc => absurd hc List.not_mem_nil
  | cons o os => exact hs.2.2.closeAllInto (fun c hc => hs.2.1 c (List.mem_reverse.mp hc)) (named_close hs)

lemma named_ofPieces {ps : List Piece} (h : ∀ p ∈ ps, p.Named) : ∀ c ∈ (ofPieces ps).children, c.Named := by
  have hstart : Stack.Named start := ⟨fun hos => absurd rfl hos, fun _ hc => absurd hc List.not_mem_nil, trivial⟩
  exact (hstart.addPieces (named_joinTexts h)).closeAll

end Document

end PageStencil.Markup
