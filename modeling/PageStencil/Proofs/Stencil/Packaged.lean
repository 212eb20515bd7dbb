import PageStencil.Proofs.Markup.Root
import PageStencil.Proofs.Running
import PageStencil.Proofs.Text.Encoding
import PageStencil.Stencil.Packaged
import PageStencil.Stencil.Template

namespace PageStencil.Markup

namespace Tree

variable {α : Type} [DecidableEq α]

mutual

def decEq : (t u : Tree α) → Decidable (t = u)
  | leaf l c, leaf l' c' =>
    if h : l = l' ∧ c = c' then isTrue (by rw [h.1, h.2])
    else isFalse (by rintro ⟨⟩; exact h ⟨rfl, rfl⟩)
  | leaf _ _, element _ _ _ => isFalse nofun
  | element _ _ _, leaf _ _ => isFalse nofun
  | element l t cs, element l' t' cs' =>
    if h : l = l' ∧ t = t' then
      match decEqAll cs cs' with
      | isTrue hcs => isTrue (by rw [h.1, h.2, hcs])
      | isFalse hcs => isFalse (by rintro ⟨⟩; exact hcs rfl)
    else isFalse (by rintro ⟨⟩; exact h ⟨rfl, rfl⟩)

def decEqAll : (ts us : List (Tree α)) → Decidable (ts = us)
  | [], [] => isTrue rfl
  | [], _ :: _ => isFalse nofun
  | _ :: _, [] => isFalse nofun
  | t :: ts, u :: us =>
    match decEq t u, decEqAll ts us with
    | isTrue h, isTrue hs => isTrue (by rw [h, hs])
    | isFalse h, _ => isFalse (by rintro ⟨⟩; exact h rfl)
    | _, isFalse h => isFalse (by rintro ⟨⟩; exact h rfl)

end

instance : DecidableEq (Tree α) := decEq

end Tree

def Document.around (root : Tree Unit) : Dialect → Tree Unit
  | .page => .element () { name } [.element () ⟨"html", [], "", false⟩ [.element () ⟨"body", [], "", false⟩
      [root, .leaf () (.text "\n")]]]
  | .asWritten => .element () { name } [root, .leaf () (.text "\n")]
  | .xml => .element () { name } [root]

lemma fragmentRoot?_around {tag : Tag} {cs : List (Markup.Tree Unit)} (hname : tag.name ≠ "body")
    (hbody : Tree.descendantIn? "body" cs = none) (d : Dialect) :
    (Document.around (.element () tag cs) d).fragmentRoot? = some (.element () tag cs) := by
  cases d <;> simp [Document.around, Tree.fragmentRoot?, Tree.descendant?, Tree.descendantIn?, Tree.children,
    Tree.firstElement?, Tree.isElement, Tree.tag?, hname, hbody, Document.name]

end PageStencil.Markup

namespace PageStencil.Stencil

open Markup

namespace Source

variable {s : Source} {name : String}

def isXml (s : Source) : Bool := Dialect.ofName? s.parser == some .xml

lemma readDocument_eq_ok {document : Markup.Tree Unit} (h : s.readDocument name = .ok document) :
    ∃ content text d root, s.directory.read (s.pathOf name) (Storage.Path.ofText name) = .ok content ∧
      Storage.decodeText content = .ok text ∧ Dialect.ofName? s.parser = some d ∧
      Document.read d text.toList = .ok document ∧ document.fragmentRoot? = some root := by
  unfold readDocument at h
  dsimp only at h
  split at h
  · cases h
  · cases h
  next content hread =>
    split at h
    · cases h
    next text htext =>
      split at h
      · cases h
      next d hd =>
        obtain ⟨read, hdocument, h⟩ := bind_eq_ok h
        cases hroot : read.fragmentRoot? with
        | none =>
          rw [hroot] at h
          cases h
        | some root =>
          rw [hroot] at h
          cases h
          exact ⟨content, text, d, root, hread, htext, hd, mapError_eq_ok hdocument, hroot⟩

lemma known_of_readRoot {t : Markup.Tree Unit} (h : s.readRoot name = .ok t) :
    (s.pathOf name).utf8ByteSize < Storage.Path.textLimit ∧ ∃ d, Dialect.ofName? s.parser = some d := by
  obtain ⟨document, hdocument, _⟩ := map_eq_ok h
  obtain ⟨content, _, d, _, hread, _, hd, _⟩ := readDocument_eq_ok hdocument
  refine ⟨Nat.not_le.mp fun hlong => ?_, d, hd⟩
  have hlate : s.directory.read (s.pathOf name) (Storage.Path.ofText name) = .error .tooLong := if_pos hlong
  cases hlate.symm.trans hread

end Source

namespace Packaged

set_option maxRecDepth 4000 in
def navbarLines : { ls : List (List Char) // navbar = ls.map String.ofList } :=
  ⟨_, show navbar = [_, _, _, _, _, _, _, _, _, _, _, _, _, _, _, _, _, _, _, _, _, _].map String.ofList from rfl⟩

set_option maxRecDepth 4000 in
def modalLines : { ls : List (List Char) // modal = ls.map String.ofList } :=
  ⟨_, show modal = [_, _, _, _, _, _, _, _, _, _, _, _, _, _, _].map String.ofList from rfl⟩

lemma intercalate_lines {ts : List String} {ls : List (List Char)} (h : ts = ls.map String.ofList) :
    "\n".intercalate ts = String.ofList (['\n'].intercalate ls) := by
  have hlines : ls.map (String.toList ∘ String.ofList) = ls := by
    conv_rhs => rw [← List.map_id ls]
    exact List.map_congr_left fun l _ => String.toList_ofList
  rw [← String.toList_inj, String.toList_intercalate, h, List.map_map, hlines, String.toList_ofList,
    String.toList_ofList]

lemma read_navbar {text : String} (h : text.utf8ByteSize < Storage.Path.textLimit) :
    directory.read text (Storage.Path.ofText navbarName) = .ok ("\n".intercalate navbar).toUTF8 := by
  have hrelative : (Storage.Path.ofText navbarName).isAbsolute = false := by decide +kernel
  have hfollow : directory.follow [] (Storage.Path.ofText navbarName).parts =
      .ok (Storage.Path.ofText navbarName).parts := by decide +kernel
  have hother : ((Storage.Path.ofText navbarName).parts == (Storage.Path.ofText modalName).parts) = false := by
    decide +kernel
  rw [Storage.Directory.read, if_neg (Nat.not_le.mpr h), hrelative, if_neg Bool.false_ne_true, hfollow]
  simp [directory, List.lookup_cons, hother]

lemma read_modal {text : String} (h : text.utf8ByteSize < Storage.Path.textLimit) :
    directory.read text (Storage.Path.ofText modalName) = .ok ("\n".intercalate modal).toUTF8 := by
  have hrelative : (Storage.Path.ofText modalName).isAbsolute = false := by decide +kernel
  have hfollow : directory.follow [] (Storage.Path.ofText modalName).parts =
      .ok (Storage.Path.ofText modalName).parts := by decide +kernel
  rw [Storage.Directory.read, if_neg (Nat.not_le.mpr h), hrelative, if_neg Bool.false_ne_true, hfollow]
  simp [directory]

lemma readDocument_of_lines {s : Source} (hdir : s.directory = directory) {name : String} {ts : List String}
    {ls : List (List Char)} (hpath : directory.read (s.pathOf name) (Storage.Path.ofText name) =
      .ok ("\n".intercalate ts).toUTF8) (hts : ts = ls.map String.ofList)
    (hend : '\r' ∉ ['\n'].intercalate ls) {d : Dialect}
    (hparser : Dialect.ofName? s.parser = some d) {tag : Tag} {cs : List (Markup.Tree Unit)}
    (hread : (Document.read d (['\n'].intercalate ls)).toOption = some (Document.around (.element () tag cs) d))
    (hname : tag.name ≠ "body") (hbody : Tree.descendantIn? "body" cs = none) :
    s.readDocument name = .ok (Document.around (.element () tag cs) d) ∧
      s.readRoot name = .ok (.element () tag cs) := by
  have hroot := fragmentRoot?_around hname hbody d
  have htext := Text.decodeText_toUTF8 (['\n'].intercalate ls)
  rw [Text.unifyLineEnds_of_not_mem hend] at htext
  have hdocument : s.readDocument name = .ok (Document.around (.element () tag cs) d) := by
    have hok : Document.read d (['\n'].intercalate ls) = .ok (Document.around (.element () tag cs) d) := by
      cases h : Document.read d (['\n'].intercalate ls) with
      | error e => rw [h] at hread; cases hread
      | ok t => rw [h] at hread; rw [Option.some.inj hread]
    unfold Source.readDocument
    rw [hdir]
    simp only [hpath, intercalate_lines hts, htext, hparser, String.toList_ofList, hok, Except.mapError, bind,
      Except.bind, hroot, Option.isNone_some, Bool.false_eq_true, if_false]
    rfl
  refine ⟨hdocument, ?_⟩
  rw [Source.readRoot, hdocument]
  change Except.ok ((Document.around (.element () tag cs) d).fragmentRoot?.getD _) = _
  rw [hroot, Option.getD_some]

end Packaged

end PageStencil.Stencil
