import PageStencil.Proofs.Markup.Classes
import PageStencil.Proofs.Component.NavbarRendering
import PageStencil.Proofs.Component.Packaged

namespace PageStencil.Modal

open Markup Stencil Forest Work Navbar

def identifier (value : Int) : String := kind ++ "-" ++ toString value

def markupWith (xml : Bool) (root title : Tag) (heading body footer : List (Markup.Tree Unit)) : Markup.Tree Unit :=
  .element () root [gap,
    .element () (tags xml).dialog [gap,
      .element () (tags xml).content (gap ::
        .element () (tags xml).header [gap, .element () title heading, gap,
          .element () (tags xml).close [gap, .element () (tags xml).sign (if xml then [] else [words "×"]), gap], gap] ::
        gap :: .element () (tags xml).body body :: gap :: (footer ++ [gap])), gap], gap]

def footerMarkup (xml : Bool) (buttons : List (Markup.Tree Unit)) : List (Markup.Tree Unit) :=
  if buttons.isEmpty then [] else [.element () (tags xml).footer buttons]

def markup (xml : Bool) (root : Tag) (uid : String) (title text : Option String) (buttons : List (Markup.Tree Unit)) :
    Markup.Tree Unit :=
  markupWith xml (root.set "aria-labelledby" (.text uid)) ((tags xml).title.set "id" (.text uid))
    [words (title.getD "Modal title")] (text.map words).toList (footerMarkup xml buttons)

structure Dialog where
  root : Tag
  title : Tag
  heading : List (Markup.Tree Node)
  body : List (Markup.Tree Node)
  footer : Option (List (Markup.Tree Node))

def behind (xml : Bool) : Nat := if xml then 15 else 16

namespace Dialog

def headed (xml : Bool) (r : Nat) (d : Dialog) : Markup.Tree Node :=
  .element (r + 6) (tags xml).header [.leaf (r + 7) lineBreak, .element (r + 8) d.title d.heading,
    .leaf (r + 10) lineBreak, .element (r + 11) (tags xml).close [.leaf (r + 12) lineBreak,
      .element (r + 13) (tags xml).sign (if xml then [] else [.leaf (r + 14) (.text "×")]),
      .leaf (if xml then r + 14 else r + 15) lineBreak], .leaf (r + behind xml) lineBreak]

def footed (xml : Bool) (r : Nat) (d : Dialog) : List (Markup.Tree Node) :=
  (d.footer.map fun bs => .element (r + (behind xml + 4)) (tags xml).footer bs).toList

def parts (xml : Bool) (r : Nat) (d : Dialog) : List (Markup.Tree Node) :=
  .leaf (r + 5) lineBreak :: d.headed xml r :: .leaf (r + (behind xml + 1)) lineBreak ::
    .element (r + (behind xml + 2)) (tags xml).body d.body :: .leaf (r + (behind xml + 3)) lineBreak ::
    (d.footed xml r ++ [.leaf (r + (behind xml + 5)) lineBreak])

def tree (xml : Bool) (r : Nat) (d : Dialog) : Markup.Tree Node :=
  .element r d.root [.leaf (r + 1) lineBreak,
    .element (r + 2) (tags xml).dialog [.leaf (r + 3) lineBreak,
      .element (r + 4) (tags xml).content (d.parts xml r), .leaf (r + (behind xml + 6)) lineBreak],
    .leaf (r + (behind xml + 7)) lineBreak]

def start (xml : Bool) (r : Nat) : Dialog where
  root := (tags xml).root
  title := (tags xml).title
  heading := [.leaf (r + 9) (.text "Modal title")]
  body := []
  footer := some []

lemma erase_tree (xml : Bool) (r : Nat) (d : Dialog) : (d.tree xml r).erase =
    markupWith xml d.root d.title (d.heading.map Markup.Tree.erase) (d.body.map Markup.Tree.erase)
      ((d.footed xml r).map Markup.Tree.erase) := by
  cases xml <;> simp [tree, parts, headed, markupWith, Markup.Tree.erase, gap, words]

end Dialog

lemma number_packaged (xml : Bool) (r : Nat) : (packaged xml).number r = (Dialog.start xml r).tree xml r := by
  cases xml <;> simp [packaged, gap, words, lineBreak, Dialog.start, Dialog.footed, Dialog.tree, Dialog.parts,
    Dialog.headed, behind,
    Markup.Tree.number, Markup.Tree.numberAll, Markup.Tree.size, Markup.Tree.sizeAll, Nat.add_assoc]

def places (xml : Bool) (r : Nat) : List (String × Node) :=
  [("header", r + 6), ("title", r + 8), ("body", r + (behind xml + 2)), ("footer", r + (behind xml + 4))]

lemma markersOf_packaged (xml : Bool) (r : Nat) :
    markersOf markerAttribute ((packaged xml).number r) = places xml r := by
  have hT := marked_tags xml
  rw [number_packaged]
  cases xml <;> simp [markersOf, Dialog.tree, Dialog.parts, Dialog.headed, Dialog.start, Dialog.footed, behind, places,
    Markup.Tree.elements, hT.root, hT.dialog, hT.content, hT.header, hT.title, hT.close, hT.sign, hT.body, hT.footer]

structure Laid (xml : Bool) (r : Nat) (d : Dialog) (f : Forest) : Prop where
  sound : f.Sound
  tree : f.find? r = some (d.tree xml r)
  apart : ∀ k : Nat, k ∈ (d.heading ++ d.body ++ d.footer.getD []).flatMap Markup.Tree.labels →
    k = r + 9 ∨ r + (behind xml + 8) ≤ k
  le : r + (behind xml + 8) ≤ f.next

lemma lt_behind (xml : Bool) : 14 < behind xml := by
  rw [behind]
  split_ifs <;> omega

namespace Laid

variable {xml : Bool} {r : Nat} {d d' : Dialog} {f g : Forest}

lemma mem_shown {k : Nat} : k ∈ (d.heading ++ d.body ++ d.footer.getD []).flatMap Markup.Tree.labels ↔
    (k ∈ d.heading.flatMap Markup.Tree.labels ∨ k ∈ d.body.flatMap Markup.Tree.labels) ∨
      k ∈ (d.footer.getD []).flatMap Markup.Tree.labels := by
  rw [List.flatMap_append, List.flatMap_append, List.mem_append, List.mem_append]

lemma not_mem (h : Laid xml r d f) {k : Nat} (hk : k < r + (behind xml + 8)) (hne : k ≠ r + 9) :
    k ∉ d.heading.flatMap Markup.Tree.labels ∧ k ∉ d.body.flatMap Markup.Tree.labels ∧
      k ∉ (d.footer.getD []).flatMap Markup.Tree.labels := by
  have hnot : ¬ k ∈ (d.heading ++ d.body ++ d.footer.getD []).flatMap Markup.Tree.labels := by
    intro hm
    have := h.apart k hm
    omega
  rw [mem_shown, not_or, not_or] at hnot
  exact ⟨hnot.1.1, hnot.1.2, hnot.2⟩

lemma not_mem_footed (h : Laid xml r d f) {k : Nat} (hk : k < r + (behind xml + 8)) (hne : k ≠ r + 9)
    (hfoot : k ≠ r + (behind xml + 4)) : k ∉ (d.footed xml r).flatMap Markup.Tree.labels := by
  obtain ⟨_, _, hbuttons⟩ := h.not_mem hk hne
  cases hf : d.footer with
  | none => simp [Dialog.footed, hf]
  | some bs =>
    rw [hf] at hbuttons
    simpa [Dialog.footed, hf, Markup.Tree.labels, hfoot] using hbuttons

lemma step (h : Laid xml r d f) {n : Nat} {change : Markup.Tree Node → Markup.Tree Node} (hg : g.Sound)
    (hle : f.next ≤ g.next) (hfind : g.find? r = (f.find? r).map (Markup.Tree.modify n change))
    (htree : (d.tree xml r).modify n change = d'.tree xml r)
    (hapart : ∀ k : Nat, k ∈ (d'.heading ++ d'.body ++ d'.footer.getD []).flatMap Markup.Tree.labels →
      k ∈ (d.heading ++ d.body ++ d.footer.getD []).flatMap Markup.Tree.labels ∨ r + (behind xml + 8) ≤ k) :
    Laid xml r d' g where
  sound := hg
  tree := by rw [hfind, h.tree, Option.map_some, htree]
  apart k hk := (hapart k hk).elim (h.apart k) .inr
  le := Nat.le_trans h.le hle

lemma modify_title (h : Laid xml r d f) {change : Markup.Tree Node → Markup.Tree Node} {title : Tag}
    {heading : List (Markup.Tree Node)}
    (hchange : change (.element (r + 8) d.title d.heading) = .element (r + 8) title heading) :
    (d.tree xml r).modify (r + 8) change = ({ d with title, heading } : Dialog).tree xml r := by
  have hlt := lt_behind xml
  obtain ⟨_, hnot, _⟩ := h.not_mem (k := r + 8) (by omega) (by omega)
  have hbody := map_modify_of_not_mem hnot change
  have hfooter := map_modify_of_not_mem (h.not_mem_footed (k := r + 8) (by omega) (by omega) (by omega)) change
  have hfooted : ({ d with title, heading } : Dialog).footed xml r = d.footed xml r := rfl
  cases xml <;> simp [Dialog.tree, Dialog.parts, Dialog.headed, behind, Markup.Tree.modify_element, Markup.Tree.modify_leaf,
    Markup.Tree.modify_element_self, hchange, hbody, hfooter, hfooted]

lemma modify_body (h : Laid xml r d f) {change : Markup.Tree Node → Markup.Tree Node} {body : List (Markup.Tree Node)}
    (hchange : change (.element (r + (behind xml + 2)) (tags xml).body d.body) =
      .element (r + (behind xml + 2)) (tags xml).body body) :
    (d.tree xml r).modify (r + (behind xml + 2)) change = ({ d with body } : Dialog).tree xml r := by
  have hlt := lt_behind xml
  obtain ⟨hnot, _, _⟩ := h.not_mem (k := r + (behind xml + 2)) (by omega) (by omega)
  have hheading := map_modify_of_not_mem hnot change
  have hfooter := map_modify_of_not_mem
    (h.not_mem_footed (k := r + (behind xml + 2)) (by omega) (by omega) (by omega)) change
  have hfooted : ({ d with body } : Dialog).footed xml r = d.footed xml r := rfl
  cases xml <;> simp only [behind, if_true, if_false, Bool.false_eq_true, Nat.reduceAdd] at hchange hheading hfooter ⊢ <;>
    simp [Dialog.tree, Dialog.parts, Dialog.headed, behind, Markup.Tree.modify_element, Markup.Tree.modify_leaf,
      Markup.Tree.modify_element_self, hchange, hheading, hfooter, hfooted]

lemma modify_footer (h : Laid xml r d f) {bs cs : List (Markup.Tree Node)} (hfooter : d.footer = some bs)
    {change : Markup.Tree Node → Markup.Tree Node} (hchange : change (.element (r + (behind xml + 4)) (tags xml).footer bs) =
      .element (r + (behind xml + 4)) (tags xml).footer cs) :
    (d.tree xml r).modify (r + (behind xml + 4)) change = ({ d with footer := some cs } : Dialog).tree xml r := by
  have hlt := lt_behind xml
  obtain ⟨hnot, hnot', _⟩ := h.not_mem (k := r + (behind xml + 4)) (by omega) (by omega)
  have hheading := map_modify_of_not_mem hnot change
  have hbody := map_modify_of_not_mem hnot' change
  cases xml <;> simp only [behind, if_true, if_false, Bool.false_eq_true, Nat.reduceAdd] at hchange hheading hbody ⊢ <;>
    simp [Dialog.tree, Dialog.parts, Dialog.headed, Dialog.footed, hfooter, behind, Markup.Tree.modify_element,
      Markup.Tree.modify_leaf, Markup.Tree.modify_element_self, hchange, hheading, hbody]

lemma setRoot (h : Laid xml r d f) (change : Tag → Tag) : Laid xml r { d with root := change d.root } (f.setTag r change) :=
  h.step (h.sound.setTag r change) (Nat.le_refl _) (h.sound.find?_setTag change) (Markup.Tree.modify_element_self _ _ _ _)
    fun _ hk => .inl hk

lemma setTitle (h : Laid xml r d f) (change : Tag → Tag) :
    Laid xml r { d with title := change d.title } (f.setTag (r + 8) change) :=
  h.step (h.sound.setTag (r + 8) change) (Nat.le_refl _) (h.sound.find?_setTag change) (h.modify_title rfl)
    fun _ hk => .inl hk

def texted (f : Forest) (old : List (Markup.Tree Node)) (text : Option String) : List (Markup.Tree Node) :=
  (text.map fun s => [.leaf f.next (.text s)]).getD old

lemma erase_texted (f : Forest) (old : List (Markup.Tree Node)) (text : Option String) :
    (texted f old text).map Markup.Tree.erase = (text.map fun s => [words s]).getD (old.map Markup.Tree.erase) := by
  cases text <;> rfl

lemma next_setText? (h : Laid xml r d f) (n : Nat) (s : String) : f.next ≤ (f.setText? n (some s)).next :=
  (Confined.setText? h.sound.beside_nil (Sound.outside_nil n) (some s)).le

lemma setHeading (h : Laid xml r d f) (text : Option String) :
    Laid xml r { d with heading := texted f d.heading text } (f.setText? (r + 8) text) := by
  have hle := h.le
  cases text with
  | none => exact h
  | some s =>
    refine h.step (h.sound.setText? (r + 8) (some s)) (h.next_setText? _ s) (h.sound.find?_setText? (by omega) s)
      (h.modify_title rfl) fun k hk => ?_
    rw [mem_shown] at hk ⊢
    rcases hk with (hk | hk) | hk
    · rw [texted, Option.map_some, Option.getD_some, List.flatMap_singleton, Markup.Tree.labels, List.mem_singleton] at hk
      exact .inr (hk ▸ hle)
    · exact .inl (.inl (.inr hk))
    · exact .inl (.inr hk)

lemma setBody (h : Laid xml r d f) (text : Option String) :
    Laid xml r { d with body := texted f d.body text } (f.setText? (r + (behind xml + 2)) text) := by
  have hle := h.le
  cases text with
  | none => exact h
  | some s =>
    refine h.step (h.sound.setText? _ (some s)) (h.next_setText? _ s) (h.sound.find?_setText? (by omega) s)
      (h.modify_body rfl) fun k hk => ?_
    rw [mem_shown] at hk ⊢
    rcases hk with (hk | hk) | hk
    · exact .inl (.inl (.inl hk))
    · rw [texted, Option.map_some, Option.getD_some, List.flatMap_singleton, Markup.Tree.labels, List.mem_singleton] at hk
      exact .inr (hk ▸ hle)
    · exact .inl (.inr hk)

lemma find?_content (h : Laid xml r d f) :
    f.find? (r + 4) = some (.element (r + 4) (tags xml).content (d.parts xml r)) := by
  have hdialog := h.sound.find?_child h.tree (List.mem_cons_of_mem _ List.mem_cons_self)
  exact h.sound.find?_child hdialog (List.mem_cons_of_mem _ List.mem_cons_self)

lemma find?_header (h : Laid xml r d f) : f.find? (r + 6) = some (d.headed xml r) :=
  h.sound.find?_child h.find?_content (List.mem_cons_of_mem _ List.mem_cons_self)

lemma find?_footer (h : Laid xml r d f) {bs : List (Markup.Tree Node)} (hfooter : d.footer = some bs) :
    f.find? (r + (behind xml + 4)) = some (.element (r + (behind xml + 4)) (tags xml).footer bs) := by
  refine h.sound.find?_child h.find?_content (c := .element (r + (behind xml + 4)) (tags xml).footer bs) ?_
  simp [Dialog.parts, Dialog.footed, hfooter, Markup.Tree.children]

lemma addButton (h : Laid xml r d f) {bs : List (Markup.Tree Node)} (hfooter : d.footer = some bs) (t : Markup.Tree Unit) :
    Laid xml r { d with footer := some (bs ++ [t.number f.next]) }
      ((f.plant t).2.adopt (r + (behind xml + 4)) f.next) := by
  have hle := h.le
  have hlater : ({ f with next := f.next + t.size } : Forest).Sound := h.sound.later rfl (Nat.le_add_right _ _)
  have hnew : ∀ k ∈ (t.number f.next).labels, f.next ≤ k := fun k hk => (mem_labels_number.mp hk).1
  have hsound := (h.sound.plant t).confined (Confined.adopt (h.sound.plant t).beside_nil (Sound.outside_nil f.next)
    (Sound.outside_nil (r + (behind xml + 4))))
  have hlt : r + (behind xml + 4) < f.next := by omega
  have hadopt := h.sound.adopt_plant hlt t
  have htree : (d.tree xml r).modify (r + (behind xml + 4)) (Markup.Tree.append [t.number f.next]) = _ :=
    h.modify_footer hfooter rfl
  refine h.step hsound ?_ ?_ htree fun k hk => ?_
  · rw [hadopt]
    exact Nat.le_add_right _ _
  · rw [hadopt, hlater.find?_append]
    · rfl
    · rw [List.flatMap_singleton]
      intro hm
      have := hnew r hm
      omega
  · rw [mem_shown] at hk ⊢
    rcases hk with hk | hk
    · exact .inl (.inl hk)
    · rw [Option.getD_some, List.flatMap_append, List.mem_append, List.flatMap_singleton] at hk
      rcases hk with hk | hk
      · rw [hfooter]
        exact .inl (.inr hk)
      · exact .inr (Nat.le_trans hle (hnew k hk))

lemma header_not_empty (h : Laid xml r d f) : (f.tree (r + 6)).isEmpty = false := by
  rw [tree_of_find? h.find?_header]
  simp [Dialog.headed, Markup.Tree.isEmpty, Markup.Tree.children]

lemma dropFooter (h : Laid xml r d f) (hfooter : d.footer = some []) :
    Laid xml r { d with footer := none } (f.detach (r + (behind xml + 4))) where
  sound := h.sound.detach _
  tree := by
    have hlt := lt_behind xml
    obtain ⟨hheading, hbody, _⟩ := h.not_mem (k := r + (behind xml + 4)) (by omega) (by omega)
    have hheading' : d.heading.flatMap (Markup.Tree.replace (r + (behind xml + 4)) fun _ => []) = d.heading :=
      Markup.Tree.replaceIn_of_not_mem hheading _
    have hbody' : d.body.flatMap (Markup.Tree.replace (r + (behind xml + 4)) fun _ => []) = d.body :=
      Markup.Tree.replaceIn_of_not_mem hbody _
    rw [h.sound.find?_detach, h.tree, Option.map_some]
    cases xml <;> simp only [behind, if_true, if_false, Bool.false_eq_true, Nat.reduceAdd] at hheading' hbody' ⊢ <;>
      simp [Dialog.tree, Dialog.parts, Dialog.headed, Dialog.footed, hfooter, behind, Markup.Tree.without,
        Markup.Tree.label, Markup.Tree.inside, Markup.Tree.replace, hheading', hbody']
  apart k hk := h.apart k (by
    rw [mem_shown] at hk ⊢
    rcases hk with hk | hk
    · exact .inl hk
    · exact absurd hk List.not_mem_nil)
  le := Nat.le_trans h.le (Confined.detach h.sound.beside_nil (Sound.outside_nil _)).le

end Laid

/-- A copy of the dialog that has not been rendered, with the tag of its root and the buttons in its footer. A rendering
that came to a stop has left attributes at the root. -/
structure Unrendered (xml : Bool) (m : Modal) (root : Tag) (buttons : List (Markup.Tree Unit)) (b : Bench) : Prop where
  kind : b.copy.kind = kind
  marker : b.copy.markerName = markerAttribute
  rendered : b.copy.rendered = false
  targets : b.copy.targets = ⟨b.copy.root, places xml b.copy.root⟩
  laid : ∃ bs, bs.map Markup.Tree.erase = buttons ∧
    Laid xml b.copy.root { Dialog.start xml b.copy.root with root, footer := some bs } b.forest
  elements : ∀ t ∈ buttons, t.isElement = true
  header : m.header = b.copy.root + 6
  body : m.body = b.copy.root + (behind xml + 2)
  footer : m.footer = b.copy.root + (behind xml + 4)

def rootTag (m : Modal) (t : Tag) : Tag := (t.setText? "id" m.id).addClasses (.ofText? m.cssClass)

lemma name_rootTag (m : Modal) (t : Tag) : (rootTag m t).name = t.name := by
  rw [rootTag, Tag.name_addClasses]
  cases m.id <;> rfl

section Runs

variable {xml : Bool} {m : Modal} {root : Tag} {buttons : List (Markup.Tree Unit)} {b : Bench} {d : Dialog}

lemma Laid.label_mem {r : Nat} {f : Forest} (h : Laid xml r d f) : f.within r (r + 8) = true := by
  rw [Forest.within, h.tree, Option.map_some, Option.getD_some, Markup.Tree.contains_iff]
  simp [Dialog.tree, Dialog.parts, Dialog.headed, Markup.Tree.labels]

lemma run_target_title {r : Nat} (htargets : b.copy.targets = ⟨r, places xml r⟩)
    (hw : b.forest.within r (r + 8) = true) : (Work.target none "title").run b = (.ok (r + 8), b) := by
  refine run_target_ok ?_
  change b.copy.targets.single b.forest "title" = _
  rw [htargets]
  exact Index.single_of_found rfl hw

lemma run_contains_title {r : Nat} (htargets : b.copy.targets = ⟨r, places xml r⟩) :
    (Work.contains none "title").run b = (.ok (b.forest.within r (r + 8)), b) := by
  have hcontains : b.copy.targets.contains b.forest "title" = b.forest.within r (r + 8) := by
    rw [htargets]
    exact Index.contains_of_found rfl
  exact (run_contains _ _ _).trans (congrArg (fun found => (Except.ok found, b)) hcontains)

lemma run_dropIfEmpty (n : Node) (b : Bench) : (dropIfEmpty n).run b =
    (.ok (), if (b.forest.tree n).isEmpty then { b with forest := b.forest.detach n } else b) := by
  rw [dropIfEmpty, run_bind_ok (run_tree n b)]
  split_ifs <;> rfl

def labelled (r : Nat) (uid : String) (title : Option String) (f : Forest) : Forest :=
  ((f.setTag r fun t => t.set "aria-labelledby" (.text uid)).setTag (r + 8) fun t => t.set "id" (.text uid)).setText?
    (r + 8) title

lemma run_labelled (htargets : b.copy.targets = ⟨b.copy.root, places xml b.copy.root⟩) (hkind : b.copy.kind = kind)
    (hw : (b.forest.setTag b.copy.root fun t => t.set "aria-labelledby" (.text (identifier b.uids.value))).within
      b.copy.root (b.copy.root + 8) = true) (hshort : b.uids.Short 1) :
    m.setTitle.run b = (.ok (), { b with
      forest := labelled b.copy.root (identifier b.uids.value) m.title b.forest
      uids := b.uids.skip 1 }) := by
  have hid : Work.nextId.run b = (.ok (identifier b.uids.value), { b with uids := b.uids.skip 1 }) :=
    run_nextId_of_short hshort hkind
  have htitle := run_target_title (b := { b with
    forest := b.forest.setTag b.copy.root fun t => t.set "aria-labelledby" (.text (identifier b.uids.value))
    uids := b.uids.skip 1 }) htargets hw
  rw [setTitle, run_bind_ok hid, run_bind_ok (run_root _), run_bind_ok (run_setTag _ _ _), run_bind_ok htitle,
    run_bind_ok (run_setTag _ _ _)]
  exact run_edit _ _

lemma run_setTitle (hlaid : Laid xml b.copy.root d b.forest)
    (htargets : b.copy.targets = ⟨b.copy.root, places xml b.copy.root⟩) (hkind : b.copy.kind = kind)
    (hshort : b.uids.Short 1) :
    ∃ f heading, m.setTitle.run b = (.ok (), { b with forest := f, uids := b.uids.skip 1 }) ∧
      Laid xml b.copy.root { d with
        root := d.root.set "aria-labelledby" (.text (identifier b.uids.value))
        title := d.title.set "id" (.text (identifier b.uids.value))
        heading } f ∧
      heading.map Markup.Tree.erase = (m.title.map fun s => [words s]).getD (d.heading.map Markup.Tree.erase) := by
  have hlabelled := hlaid.setRoot fun t => t.set "aria-labelledby" (.text (identifier b.uids.value))
  have hnamed := hlabelled.setTitle fun t => t.set "id" (.text (identifier b.uids.value))
  exact ⟨_, _, run_labelled htargets hkind hlabelled.label_mem hshort, hnamed.setHeading m.title, Laid.erase_texted _ _ _⟩

lemma run_dropFooter {bs : List (Markup.Tree Node)} (hlaid : Laid xml b.copy.root d b.forest) (hfooter : d.footer = some bs)
    (helements : ∀ t ∈ bs.map Markup.Tree.erase, t.isElement = true) :
    ∃ f footer, (dropIfEmpty (b.copy.root + (behind xml + 4))).run b = (.ok (), { b with forest := f }) ∧
      Laid xml b.copy.root { d with footer } f ∧
      (({ d with footer } : Dialog).footed xml b.copy.root).map Markup.Tree.erase =
        footerMarkup xml (bs.map Markup.Tree.erase) := by
  rw [run_dropIfEmpty, tree_of_find? (hlaid.find?_footer hfooter)]
  cases bs with
  | nil => exact ⟨_, none, rfl, hlaid.dropFooter hfooter, rfl⟩
  | cons t ts =>
    have hfirst : t.isElement = true := by
      rw [← Markup.Tree.isElement_erase]
      exact helements _ List.mem_cons_self
    obtain ⟨n, tag, cs, rfl⟩ : ∃ n tag cs, t = .element n tag cs := by
      cases t with
      | leaf _ _ => cases hfirst
      | element n tag cs => exact ⟨n, tag, cs, rfl⟩
    refine ⟨b.forest, d.footer, by simp [Markup.Tree.isEmpty, Markup.Tree.children], hlaid, ?_⟩
    simp [Dialog.footed, hfooter, footerMarkup, Markup.Tree.erase]

lemma run_rest {bs : List (Markup.Tree Node)} (hlaid : Laid xml b.copy.root d b.forest) (hfooter : d.footer = some bs)
    (helements : ∀ t ∈ bs.map Markup.Tree.erase, t.isElement = true) (hheader : m.header = b.copy.root + 6)
    (hbody : m.body = b.copy.root + (behind xml + 2)) (hm : m.footer = b.copy.root + (behind xml + 4)) :
    ∃ f d', (Work.edit (fun f => f.setText? m.body m.text) >>= fun _ => dropIfEmpty m.header >>= fun _ =>
        dropIfEmpty m.footer).run b = (.ok (), { b with forest := f }) ∧
      Laid xml b.copy.root d' f ∧
      (d'.tree xml b.copy.root).erase = markupWith xml d.root d.title (d.heading.map Markup.Tree.erase)
        ((m.text.map fun s => [words s]).getD (d.body.map Markup.Tree.erase))
        (footerMarkup xml (bs.map Markup.Tree.erase)) := by
  have htexted := hlaid.setBody m.text
  obtain ⟨f, footer, hrun, hdone, hfoot⟩ := run_dropFooter (b := { b with
    forest := b.forest.setText? (b.copy.root + (behind xml + 2)) m.text }) htexted hfooter helements
  refine ⟨f, _, ?_, hdone, ?_⟩
  · rw [run_bind_ok (run_edit _ _), run_bind_ok (run_dropIfEmpty _ _), hheader, hbody, hm]
    simp only [htexted.header_not_empty, Bool.false_eq_true, if_false]
    exact hrun
  · rw [Dialog.erase_tree, hfoot, Laid.erase_texted]

lemma run_opened (htargets : b.copy.targets = ⟨b.copy.root, places xml b.copy.root⟩) : m.render.run b =
    ((if (b.forest.setTag b.copy.root (rootTag m)).within b.copy.root (b.copy.root + 8) then m.setTitle
        else pure ()) >>= fun _ =>
      Work.edit (fun f => f.setText? m.body m.text) >>= fun _ => dropIfEmpty m.header >>= fun _ =>
        dropIfEmpty m.footer).run { b with forest := b.forest.setTag b.copy.root (rootTag m) } := by
  have hset : (Work.setTag b.copy.root fun t => (t.setText? "id" m.id).addClasses (.ofText? m.cssClass)).run b =
      (.ok (), { b with forest := b.forest.setTag b.copy.root (rootTag m) }) := rfl
  have htitle := run_contains_title (b := { b with forest := b.forest.setTag b.copy.root (rootTag m) }) htargets
  rw [render, run_bind_ok (run_root b), run_bind_ok hset, run_bind_ok htitle]
  cases (b.forest.setTag b.copy.root (rootTag m)).within b.copy.root (b.copy.root + 8) <;> rfl

lemma run_render_titled (hlaid : Laid xml b.copy.root d (b.forest.setTag b.copy.root (rootTag m)))
    (htargets : b.copy.targets = ⟨b.copy.root, places xml b.copy.root⟩) :
    m.render.run b = (m.setTitle >>= fun _ => Work.edit (fun f => f.setText? m.body m.text) >>= fun _ =>
      dropIfEmpty m.header >>= fun _ => dropIfEmpty m.footer).run { b with
        forest := b.forest.setTag b.copy.root (rootTag m) } := by
  rw [run_opened htargets, hlaid.label_mem, if_pos rfl]

namespace Unrendered

lemma run_render (h : Unrendered xml m root buttons b) (hshort : b.uids.Short 1) :
    ∃ f d, m.render.run b = (.ok (), { b with forest := f, uids := b.uids.skip 1 }) ∧ Laid xml b.copy.root d f ∧
      (d.tree xml b.copy.root).erase =
        markup xml (rootTag m root) (identifier b.uids.value) m.title m.text buttons := by
  obtain ⟨bs, hbs, hlaid⟩ := h.laid
  have hroot := hlaid.setRoot (rootTag m)
  obtain ⟨f, heading, htitle, htitled, hheading⟩ := run_setTitle (m := m) (b := { b with
    forest := b.forest.setTag b.copy.root (rootTag m) }) hroot h.targets h.kind hshort
  obtain ⟨g, d, hrest, hdone, herase⟩ := run_rest (m := m) (b := { b with forest := f, uids := b.uids.skip 1 })
    htitled rfl (hbs ▸ h.elements) h.header h.body h.footer
  refine ⟨g, d, ?_, hdone, ?_⟩
  · rw [run_render_titled hroot h.targets, run_bind_ok htitle]
    exact hrest
  · rw [herase, hheading, hbs, markup]
    cases m.title <;> cases m.text <;> rfl

lemma run_stops (h : Unrendered xml m root buttons b) (hlong : ¬ b.uids.Short 1) :
    ∃ f, m.render.run b = (.error .identifierTooLong, { b with forest := f, uids := b.uids.skip 1 }) ∧
      Unrendered xml m (rootTag m root) buttons { b with forest := f, uids := b.uids.skip 1 } := by
  obtain ⟨bs, hbs, hlaid⟩ := h.laid
  have hroot := hlaid.setRoot (rootTag m)
  refine ⟨b.forest.setTag b.copy.root (rootTag m), ?_, h.kind, h.marker, h.rendered, h.targets, ⟨bs, hbs, hroot⟩,
    h.elements, h.header, h.body, h.footer⟩
  have hid : Work.nextId.run { b with forest := b.forest.setTag b.copy.root (rootTag m) } =
      (.error .identifierTooLong, { b with
        forest := b.forest.setTag b.copy.root (rootTag m), uids := b.uids.skip 1 }) :=
    run_nextId_of_long (b := { b with forest := b.forest.setTag b.copy.root (rootTag m) }) hlong
  rw [run_render_titled hroot h.targets, setTitle, run_bind_error (run_bind_error hid)]

theorem run_once (h : Unrendered xml m root buttons b) (hshort : b.uids.Short 1) :
    ∃ c t, (Work.once m.render).run b = (.ok b.copy.root, c) ∧ c.uids = b.uids.skip 1 ∧
      c.copy = { b.copy with rendered := true } ∧ c.forest.find? b.copy.root = some t ∧
      t.erase = (markup xml (rootTag m root) (identifier b.uids.value) m.title m.text buttons).mapTags
        fun t => t.remove markerAttribute := by
  obtain ⟨f, d, hrun, hlaid, herase⟩ := h.run_render hshort
  have honce := run_once_ok h.rendered hrun
  refine ⟨_, _, honce, rfl, rfl,
    hlaid.sound.find?_mapTags_self hlaid.tree fun t => t.remove b.copy.markerName, ?_⟩
  rw [Markup.Tree.erase_mapTags, herase, h.marker]

theorem run_once_stops (h : Unrendered xml m root buttons b) (hlong : ¬ b.uids.Short 1) :
    ∃ c, (Work.once m.render).run b = (.error .identifierTooLong, c) ∧ c.uids = b.uids.skip 1 ∧
      Unrendered xml m (rootTag m root) buttons c := by
  obtain ⟨f, hrun, hagain⟩ := h.run_stops hlong
  refine ⟨{ b with forest := f, uids := b.uids.skip 1 }, ?_, rfl, hagain⟩
  rw [Work.run_once _ h.rendered, run_bind_error hrun]

lemma addButton (h : Unrendered xml m root buttons b) (o : Button) :
    ∃ n f, (m.addButton o).run b = (.ok n, { b with forest := f }) ∧
      Unrendered xml m root (buttons ++ [o.tree]) { b with forest := f } := by
  obtain ⟨bs, hbs, hlaid⟩ := h.laid
  have hle := hlaid.le
  have hlt := lt_behind xml
  have hfooter : m.footer ≠ b.forest.next := by
    rw [h.footer]
    exact Nat.ne_of_lt (by omega)
  have hrun : (m.addButton o).run b = (.ok b.forest.next, { b with
      forest := (b.forest.plant o.tree).2.adopt m.footer b.forest.next }) := by
    rw [Modal.addButton, run_bind_ok (run_plant _ _), run_bind_ok (run_append hfooter)]
    rfl
  refine ⟨_, _, hrun, h.kind, h.marker, h.rendered, h.targets, ?_, ?_, h.header, h.body, h.footer⟩
  · refine ⟨bs ++ [o.tree.number b.forest.next], ?_, ?_⟩
    · rw [List.map_append, hbs, List.map_singleton, Markup.Tree.erase_number, Markup.Tree.erase_unit]
    · rw [h.footer]
      exact hlaid.addButton rfl o.tree
  · intro t ht
    rw [List.mem_append, List.mem_singleton] at ht
    rcases ht with ht | rfl
    · exact h.elements t ht
    · rfl

lemma addButtons (h : Unrendered xml m root buttons b) (os : List Button) :
    ∃ f, (os.forM fun o => discard (m.addButton o)).run b = (.ok (), { b with forest := f }) ∧
      Unrendered xml m root (buttons ++ os.map Button.tree) { b with forest := f } := by
  induction os generalizing buttons b with
  | nil =>
    refine ⟨b.forest, rfl, ?_⟩
    rw [List.map_nil, List.append_nil]
    exact h
  | cons o os ih =>
    obtain ⟨n, f, hrun, hadded⟩ := h.addButton o
    obtain ⟨g, hruns, hall⟩ := ih hadded
    refine ⟨g, ?_, ?_⟩
    · have hdiscard : (discard (m.addButton o)).run b = (.ok (), { b with forest := f }) := by
        rw [run_discard, hrun]
        rfl
      change (discard (m.addButton o) >>= fun _ => os.forM fun o => discard (m.addButton o)).run b = _
      rw [run_bind_ok hdiscard]
      exact hruns
    · rw [List.map_cons, List.append_cons]
      exact hall

end Unrendered

lemma run_make {title text id cssClass : Option String} (hsound : b.forest.Sound) (hkind : b.copy.kind = kind)
    (hmarker : b.copy.markerName = markerAttribute) (hrendered : b.copy.rendered = false)
    (htree : b.forest.find? b.copy.root = some ((packaged xml).number b.copy.root))
    (htargets : b.copy.targets = ⟨b.copy.root, markersOf b.copy.markerName ((packaged xml).number b.copy.root)⟩) :
    ∃ header body footer, (make title text id cssClass).run b = (.ok ⟨title, text, id, cssClass, header, body, footer⟩, b) ∧
      Unrendered xml ⟨title, text, id, cssClass, header, body, footer⟩ (tags xml).root [] b := by
  rw [hmarker, markersOf_packaged] at htargets
  rw [number_packaged] at htree
  have hlt : b.copy.root + (behind xml + 8) ≤ b.forest.next := by
    have hlast : b.copy.root + (behind xml + 7) ∈ ((Dialog.start xml b.copy.root).tree xml b.copy.root).labels := by
      simp [Dialog.tree, Markup.Tree.labels]
    exact hsound.lt_of_find? htree hlast
  have hlaid : Laid xml b.copy.root (Dialog.start xml b.copy.root) b.forest := by
    refine ⟨hsound, htree, fun k hk => Or.inl ?_, hlt⟩
    simpa [Dialog.start, Markup.Tree.labels] using hk
  have hfound : ∀ (marker : String) (n : Node), (places xml b.copy.root).filter (fun e => e.1 == marker) = [(marker, n)] →
      n ∈ ((Dialog.start xml b.copy.root).tree xml b.copy.root).labels →
      (Work.target none marker).run b = (.ok n, b) := by
    intro marker n hplace hn
    refine run_target_ok ?_
    change b.copy.targets.single b.forest marker = .ok n
    rw [htargets]
    refine Index.single_of_found hplace ?_
    rw [Forest.within, htree, Option.map_some, Option.getD_some, Markup.Tree.contains_iff]
    exact hn
  have hheader := hfound "header" (b.copy.root + 6) rfl
    (by simp [Dialog.tree, Dialog.parts, Dialog.headed, Markup.Tree.labels])
  have hbody := hfound "body" (b.copy.root + (behind xml + 2)) rfl (by simp [Dialog.tree, Dialog.parts, Markup.Tree.labels])
  have hfooter := hfound "footer" (b.copy.root + (behind xml + 4)) rfl (by
    simp [Dialog.tree, Dialog.parts, Dialog.start, Dialog.footed, Markup.Tree.labels])
  refine ⟨b.copy.root + 6, b.copy.root + (behind xml + 2), b.copy.root + (behind xml + 4),
    ?_, hkind, hmarker, hrendered, htargets, ⟨[], rfl, hlaid⟩, fun _ ht => absurd ht List.not_mem_nil, rfl, rfl, rfl⟩
  rw [make, run_bind_ok hheader, run_bind_ok hbody, run_bind_ok hfooter]
  rfl

end Runs

end PageStencil.Modal
