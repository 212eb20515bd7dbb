import PageStencil.Proofs.Markup.TagSequence
import PageStencil.Proofs.Studio.Printing

/-!
The tags of bars and dialogs. They depend on the shape of the menus and on the number of buttons, and on no text that
is put in: neither on a label, nor on an address, a class or an identifier.
-/

namespace PageStencil

open Markup Stencil

def Link.hasIcon (l : Link) : Bool := l.icon.any fun icon => !icon.isEmpty

/-- Labels that are both there or both missing, and that show an icon or do not. -/
def SameLabel : Option Link → Option Link → Prop := Option.Rel fun l l' => l'.hasIcon = l.hasIcon

inductive Menu.SameShape : Menu → Menu → Prop
  | item {l l' : Option Link} {c c' : Option String} : SameLabel l l' → SameShape (.item l c) (.item l' c')
  | group {l l' : Option Link} {c c' : Option String} {es es' : List Menu} : SameLabel l l' →
      List.Forall₂ SameShape es es' → SameShape (.group l c es) (.group l' c' es')

namespace Menu.SameShape

variable {m m' : Menu}

lemma label (h : m.SameShape m') : SameLabel m.label m'.label := by
  cases h with
  | item h => exact h
  | group h _ => exact h

lemma isLeaf (h : m.SameShape m') : m'.isLeaf = m.isLeaf := by
  cases h <;> rfl

lemma entries (h : m.SameShape m') : List.Forall₂ Menu.SameShape m.entries m'.entries := by
  cases h with
  | item _ => exact .nil
  | group _ h => exact h

end Menu.SameShape

lemma flatMap_congr_forall₂ {α β γ : Type} {R : α → β → Prop} {as : List α} {bs : List β} {f : α → List γ}
    {g : β → List γ} (h : List.Forall₂ R as bs) (hfg : ∀ a b, R a b → g b = f a) : bs.flatMap g = as.flatMap f := by
  induction h with
  | nil => rfl
  | cons hr _ ih => rw [List.flatMap_cons, List.flatMap_cons, hfg _ _ hr, ih]

lemma marks_contents (l : Link) : l.contents.flatMap Markup.Tree.marks =
    if l.hasIcon then [.opening "span".toList, .closing "span".toList] else [] := by
  obtain ⟨text, href, icon, cssClass, id, rel, target⟩ := l
  have htext : ((text.map fun s => Markup.Tree.leaf () (.text s)).toList).flatMap Markup.Tree.marks = [] := by
    cases text <;> rfl
  have hicon (icon : String) : (Link.iconTree icon).marks = [.opening "span".toList, .closing "span".toList] := by
    rw [Link.iconTree, Markup.Tree.marks_element]
    rfl
  rw [Link.contents, List.flatMap_append, htext, Link.hasIcon]
  cases icon with
  | none => rfl
  | some icon => cases hempty : icon.isEmpty <;> simp [hempty, hicon]

namespace Navbar

variable {l l' : Option Link} {m m' : Menu} {ms ms' : List Menu}

lemma marks_link (t : Tag) (placeholder : String) (h : SameLabel l l') :
    (linkMarkup t placeholder l').marks = (linkMarkup t placeholder l).marks := by
  cases h with
  | none => rfl
  | some h =>
    rw [linkMarkup, linkMarkup, Markup.Tree.marks_element, Markup.Tree.marks_element, Tag.name_merge, Tag.name_merge,
      marks_contents, marks_contents, h]

namespace Tags

variable (T : Tags)

lemma marks_item (h : SameLabel l l') : (T.itemMarkup l').marks = (T.itemMarkup l).marks := by
  rw [itemMarkup, itemMarkup, itemWith, itemWith, Markup.Tree.marks_element, Markup.Tree.marks_element]
  simp only [List.flatMap_cons, marks_link T.itemLink "Link" h]

lemma marks_dropdown (uid uid' : String) (h : m.SameShape m') :
    (T.dropdownMarkup uid' m').marks = (T.dropdownMarkup uid m).marks := by
  have hentries : (m'.entries.map fun e => linkMarkup T.dropdownItem "Action" e.label).flatMap Markup.Tree.marks =
      (m.entries.map fun e => linkMarkup T.dropdownItem "Action" e.label).flatMap Markup.Tree.marks := by
    rw [List.flatMap_map, List.flatMap_map]
    exact flatMap_congr_forall₂ h.entries fun e e' he => marks_link _ _ he.label
  simp only [dropdownMarkup, Markup.Tree.marks_element, List.flatMap_cons, hentries, Tag.name_addClasses, Tag.name_set]
  rfl

lemma marks_entries (value value' : Int) (h : List.Forall₂ Menu.SameShape ms ms') :
    (T.entriesMarkup value' ms').flatMap Markup.Tree.marks = (T.entriesMarkup value ms).flatMap Markup.Tree.marks := by
  induction h generalizing value value' with
  | nil => rfl
  | cons hm _ ih =>
    rw [entriesMarkup, entriesMarkup, hm.isLeaf]
    split_ifs
    · rw [List.flatMap_cons, List.flatMap_cons, T.marks_item hm.label, ih]
    · rw [List.flatMap_cons, List.flatMap_cons, T.marks_dropdown _ _ hm, ih]

lemma marks_part (value value' : Int) (first : Bool) (h : m.SameShape m') :
    (T.partMarkup value' first m').marks = (T.partMarkup value first m).marks := by
  simp only [partMarkup, Markup.Tree.marks_element, List.flatMap_cons, T.marks_entries value value' h.entries,
    name_align]

lemma marks_parts (value value' : Int) (first : Bool) (h : List.Forall₂ Menu.SameShape ms ms') :
    (T.partsMarkup value' first ms').flatMap Markup.Tree.marks =
      (T.partsMarkup value first ms).flatMap Markup.Tree.marks := by
  induction h generalizing value value' first with
  | nil => rfl
  | cons hm _ ih =>
    rw [partsMarkup, partsMarkup, List.flatMap_cons, List.flatMap_cons, T.marks_part value value' first hm, ih]

lemma marks_brand (h : SameLabel l l') :
    (T.brandMarkup l').flatMap Markup.Tree.marks = (T.brandMarkup l).flatMap Markup.Tree.marks := by
  cases h with
  | none => rfl
  | some h =>
    simp only [brandMarkup, List.flatMap_singleton, Markup.Tree.marks_element, Tag.name_merge, marks_contents, h]

lemma head_label (h : List.Forall₂ Menu.SameShape ms ms') :
    SameLabel (ms.head?.bind Menu.label) (ms'.head?.bind Menu.label) := by
  cases h with
  | nil => exact .none
  | cons hm _ => exact hm.label

lemma marks_markup (cssClass cssClass' : Option String) (boxed : Bool) (value value' : Int)
    (h : List.Forall₂ Menu.SameShape ms ms') :
    (T.markup cssClass' boxed value' ms').marks = (T.markup cssClass boxed value ms).marks := by
  have hparts := T.marks_parts (value + 1) (value' + 1) true h
  have hbrand := T.marks_brand (head_label h)
  have hinner : (gap :: T.brandMarkup (ms'.head?.bind Menu.label) ++ [gap,
        T.togglerTree (T.toggler.set "data-target" (.text ("#" ++ identifier value'))), gap,
        .element () (T.content.set "id" (.text (identifier value')))
          (gap :: gap :: T.partsMarkup (value' + 1) true ms'), gap]).flatMap Markup.Tree.marks =
      (gap :: T.brandMarkup (ms.head?.bind Menu.label) ++ [gap,
        T.togglerTree (T.toggler.set "data-target" (.text ("#" ++ identifier value))), gap,
        .element () (T.content.set "id" (.text (identifier value)))
          (gap :: gap :: T.partsMarkup (value + 1) true ms), gap]).flatMap Markup.Tree.marks := by
    simp only [List.cons_append, List.flatMap_cons, List.flatMap_append, hbrand, togglerTree, Markup.Tree.marks_element,
      Tag.name_set, hparts]
  have hbox : ∀ inner inner' : List (Markup.Tree Unit),
      inner'.flatMap Markup.Tree.marks = inner.flatMap Markup.Tree.marks →
      (if boxed then [.element () T.positioning inner'] else inner').flatMap Markup.Tree.marks =
        (if boxed then [.element () T.positioning inner] else inner).flatMap Markup.Tree.marks := by
    intro inner inner' h
    cases boxed with
    | false => exact h
    | true => simp only [if_true, List.flatMap_singleton, Markup.Tree.marks_element, h]
  rw [markup, markup, barWith, barWith, Markup.Tree.marks_element, Markup.Tree.marks_element, Tag.name_addClasses,
    Tag.name_addClasses, List.flatMap_cons, List.flatMap_cons, List.flatMap_append, List.flatMap_append,
    hbox _ _ hinner]

end Tags

end Navbar

namespace Modal

lemma marks_button (b : Button) : b.tree.marks = [.opening "button".toList, .closing "button".toList] := by
  have hlabel : (b.label.map fun s => Markup.Tree.leaf () (.text s)).toList.flatMap Markup.Tree.marks = [] := by
    cases b.label <;> rfl
  rw [Button.tree, Markup.Tree.marks_element, hlabel, b.name_tag]
  rfl

lemma marks_buttons (os : List Button) : (os.map Button.tree).flatMap Markup.Tree.marks =
    (List.replicate os.length [.opening "button".toList, .closing "button".toList]).flatten := by
  induction os with
  | nil => rfl
  | cons o os ih => rw [List.map_cons, List.flatMap_cons, marks_button, ih, List.length_cons, List.replicate_succ,
      List.flatten_cons]

lemma marks_footer (xml : Bool) {os os' : List Button} (h : os'.length = os.length) :
    (footerMarkup xml (os'.map Button.tree)).flatMap Markup.Tree.marks =
      (footerMarkup xml (os.map Button.tree)).flatMap Markup.Tree.marks := by
  have hempty : (os'.map Button.tree).isEmpty = (os.map Button.tree).isEmpty := by
    rw [List.isEmpty_map, List.isEmpty_map, Bool.eq_iff_iff, List.isEmpty_iff, List.isEmpty_iff,
      ← List.length_eq_zero_iff, ← List.length_eq_zero_iff, h]
  rw [footerMarkup, footerMarkup, hempty]
  split_ifs
  · rfl
  · simp only [List.flatMap_singleton, Markup.Tree.marks_element, marks_buttons, h]

lemma marks_markup (xml : Bool) {root root' : Tag} (hroot : root'.name = root.name) (uid uid' : String)
    (title title' text text' : Option String) {os os' : List Button} (h : os'.length = os.length) :
    (markup xml root' uid' title' text' (os'.map Button.tree)).marks =
      (markup xml root uid title text (os.map Button.tree)).marks := by
  have hwords : ∀ text : Option String, (text.map Navbar.words).toList.flatMap Markup.Tree.marks = [] := by
    intro text
    cases text <;> rfl
  simp only [markup, markupWith, Markup.Tree.marks_element, List.flatMap_cons, List.flatMap_append, Tag.name_set, hroot,
    hwords, marks_footer xml h]
  rfl

end Modal

section Names

lemma wellNamed_words (s : String) : (Navbar.words s).WellNamed := .leaf

lemma wellNamed_gap : Navbar.gap.WellNamed := .leaf

lemma Link.wellNamed_tag (l : Link) : l.tag.WellNamed := by
  have hplain : ({ name := l.tagName } : Tag).WellNamed := by
    rw [Link.tagName]
    split_ifs <;> decide +kernel
  rw [Link.tag]
  iterate 5 apply Tag.WellNamed.setText? _ (by decide +kernel)
  exact hplain

lemma Link.wellNamed_contents (l : Link) : ∀ t ∈ l.contents, t.WellNamed := by
  have hicon (icon : String) : (Link.iconTree icon).WellNamed := by
    have hplain : ({ name := "span" } : Tag).WellNamed := by decide +kernel
    have htag : (Tag.ofTexts "span" [("class", "fa fa-" ++ icon)]).WellNamed := hplain.set (by decide +kernel) _
    simp [Link.iconTree, htag]
  obtain ⟨text, href, icon, cssClass, id, rel, target⟩ := l
  rw [Link.contents]
  refine List.forall_mem_append.mpr ⟨?_, ?_⟩
  · cases text <;> simp
  · cases icon with
    | none => exact List.forall_mem_nil _
    | some icon => cases hempty : icon.isEmpty <;> simp [hempty, hicon]

lemma Button.wellNamed_tree (b : Button) : b.tree.WellNamed := by
  have hbare : ({ name := "button" } : Tag).WellNamed := by decide +kernel
  have hset : ((({ name := "button" } : Tag).set "type" (.text b.type)).set "class"
      (.tokens (Text.wordsOf "btn"))).WellNamed :=
    (hbare.set (by decide +kernel) _).set (by decide +kernel) _
  have hplain : (Tag.ofTexts "button" [("type", b.type), ("class", "btn")]).WellNamed := hset
  have htag : b.tag.WellNamed := by
    rw [Button.tag]
    iterate 3 apply Tag.WellNamed.setText? _ (by decide +kernel)
    exact hplain.addClasses _
  refine .element htag ?_
  cases b.label <;> simp

end Names

namespace Navbar

structure Tags.WellNamed (T : Tags) : Prop where
  nav : T.nav.WellNamed
  positioning : T.positioning.WellNamed
  brand : T.brand.WellNamed
  toggler : T.toggler.WellNamed
  icon : T.icon.WellNamed
  content : T.content.WellNamed
  container : T.container.WellNamed
  item : T.item.WellNamed
  itemLink : T.itemLink.WellNamed
  dropdown : T.dropdown.WellNamed
  dropdownText : T.dropdownText.WellNamed
  dropdownMenu : T.dropdownMenu.WellNamed
  dropdownItem : T.dropdownItem.WellNamed

lemma wellNamed_packaged (xml : Bool) : (packaged xml).WellNamed := by
  cases xml <;> constructor <;> decide +kernel

lemma wellNamed_link {t : Tag} (ht : t.WellNamed) (placeholder : String) (label : Option Link) :
    (linkMarkup t placeholder label).WellNamed := by
  cases label with
  | none => exact .element ht (List.forall_mem_singleton.mpr (wellNamed_words _))
  | some l => exact .element (ht.merge l.wellNamed_tag) l.wellNamed_contents

lemma wellNamed_align {t : Tag} (ht : t.WellNamed) (first : Bool) (css : Option String) :
    (align first css t).WellNamed := by
  cases css with
  | none => exact ht
  | some s =>
    rw [align]
    cases first with
    | true => exact ht.addClasses _
    | false => exact (ht.removeClass _).addClasses _

namespace Tags.WellNamed

variable {T : Tags}

lemma itemMarkup (h : T.WellNamed) (label : Option Link) : (T.itemMarkup label).WellNamed := by
  simp [Tags.itemMarkup, itemWith, h.item, wellNamed_gap, wellNamed_link h.itemLink]

lemma dropdownMarkup (h : T.WellNamed) (uid : String) (m : Menu) : (T.dropdownMarkup uid m).WellNamed := by
  have htext : (T.dropdownText.set "id" (.text uid)).WellNamed := h.dropdownText.set (by decide +kernel) _
  have hmenu : ((T.dropdownMenu.set "aria-labelledby" (.text uid)).addClasses (.ofText? m.cssClass)).WellNamed :=
    (h.dropdownMenu.set (by decide +kernel) _).addClasses _
  simp [Tags.dropdownMarkup, h.dropdown, htext, hmenu, wellNamed_gap, wellNamed_words, wellNamed_link h.dropdownItem]

lemma entriesMarkup (h : T.WellNamed) (value : Int) (ms : List Menu) : ∀ t ∈ T.entriesMarkup value ms, t.WellNamed := by
  induction ms generalizing value with
  | nil => exact List.forall_mem_nil _
  | cons m ms ih =>
    rw [Tags.entriesMarkup]
    split_ifs
    · exact List.forall_mem_cons.mpr ⟨h.itemMarkup m.label, ih _⟩
    · exact List.forall_mem_cons.mpr ⟨h.dropdownMarkup _ m, ih _⟩

lemma partsMarkup (h : T.WellNamed) (value : Int) (first : Bool) (ms : List Menu) :
    ∀ t ∈ T.partsMarkup value first ms, t.WellNamed := by
  induction ms generalizing value first with
  | nil => exact List.forall_mem_nil _
  | cons m ms ih =>
    have hentries := h.entriesMarkup value m.entries
    have hpart : (T.partMarkup value first m).WellNamed := by
      simp only [partMarkup, Markup.Tree.wellNamed_element, List.forall_mem_cons]
      exact ⟨wellNamed_align h.container first m.cssClass, wellNamed_gap, wellNamed_gap, wellNamed_gap, hentries⟩
    exact List.forall_mem_cons.mpr ⟨hpart, ih _ _⟩

lemma brandMarkup (h : T.WellNamed) (label : Option Link) : ∀ t ∈ T.brandMarkup label, t.WellNamed := by
  cases label with
  | none => exact List.forall_mem_nil _
  | some l => exact List.forall_mem_singleton.mpr (.element (h.brand.merge l.wellNamed_tag) l.wellNamed_contents)

lemma markup (h : T.WellNamed) (cssClass : Option String) (boxed : Bool) (value : Int) (ms : List Menu) :
    (T.markup cssClass boxed value ms).WellNamed := by
  have htoggler : (T.toggler.set "data-target" (.text ("#" ++ identifier value))).WellNamed :=
    h.toggler.set (by decide +kernel) _
  have hcontent : (T.content.set "id" (.text (identifier value))).WellNamed := h.content.set (by decide +kernel) _
  have hbrand := h.brandMarkup (ms.head?.bind Menu.label)
  have hparts := h.partsMarkup (value + 1) true ms
  rw [Tags.markup, barWith, Markup.Tree.wellNamed_element]
  refine ⟨h.nav.addClasses _, ?_⟩
  cases boxed <;>
    simpa [or_imp, forall_and, togglerTree, wellNamed_gap, htoggler, hcontent, h.icon, h.positioning]
      using ⟨hbrand, hparts⟩

end Tags.WellNamed

end Navbar

namespace Modal

lemma wellNamed_tags (xml : Bool) : ∀ t ∈ [(tags xml).root, (tags xml).dialog, (tags xml).content, (tags xml).header,
    (tags xml).title, (tags xml).close, (tags xml).sign, (tags xml).body, (tags xml).footer], t.WellNamed := by
  cases xml <;> decide +kernel

lemma wellNamed_rootTag (m : Modal) {t : Tag} (ht : t.WellNamed) : (rootTag m t).WellNamed :=
  (ht.setText? (by decide +kernel) m.id).addClasses _

lemma wellNamed_markup (xml : Bool) {root : Tag} (hroot : root.WellNamed) (uid : String) (title text : Option String)
    (os : List Button) : (markup xml root uid title text (os.map Button.tree)).WellNamed := by
  have htags := wellNamed_tags xml
  simp only [List.forall_mem_cons] at htags
  obtain ⟨_, hdialog, hcontent, hheader, htitleTag, hclose, hsign, hbody, hfooter, _⟩ := htags
  have hlabelled : (root.set "aria-labelledby" (.text uid)).WellNamed := hroot.set (by decide +kernel) _
  have htitle : ((tags xml).title.set "id" (.text uid)).WellNamed := htitleTag.set (by decide +kernel) _
  have hcross : ∀ t ∈ if xml then [] else [Navbar.words "×"], t.WellNamed := by
    cases xml <;> simp [wellNamed_words]
  have hwords : ∀ t ∈ (text.map Navbar.words).toList, t.WellNamed := by
    cases text <;> simp [wellNamed_words]
  have hfoot : ∀ t ∈ footerMarkup xml (os.map Button.tree), t.WellNamed := by
    rw [footerMarkup]
    split_ifs
    · exact List.forall_mem_nil _
    · exact List.forall_mem_singleton.mpr (.element hfooter (List.forall_mem_map.mpr fun b _ => b.wellNamed_tree))
  simp only [markup, markupWith, Markup.Tree.wellNamed_element, List.forall_mem_cons, List.forall_mem_append,
    wellNamed_gap, wellNamed_words, hlabelled, hdialog, hcontent, hheader, htitle, hclose, hsign, hbody,
    List.not_mem_nil, false_imp_iff, implies_true, true_and, and_true]
  exact ⟨hcross, hwords, hfoot⟩

end Modal

namespace Studio

variable {p p' : Studio}

lemma wellNamed_stripped {t : Markup.Tree Unit} (h : t.WellNamed) : (Navbar.stripped t).WellNamed :=
  h.mapTags fun _ ht => ht.remove markerAttribute

lemma marks_stripped (t : Markup.Tree Unit) : (Navbar.stripped t).marks = t.marks := by
  apply Markup.Tree.marks_mapTags
  intro t
  rfl

lemma tagsIn_written {t : Markup.Tree Nat} {u : Markup.Tree Unit} (herase : t.erase = Navbar.stripped u)
    (hu : u.WellNamed) : tagsIn (t.written false) = u.marks := by
  rw [← Markup.Tree.written_erase, herase]
  exact (tagsIn_html (wellNamed_stripped hu)).trans (marks_stripped u)

lemma alone_ok {k : FragmentKind} {w : Work String} (hdir : p.source.directory = Packaged.directory) {html : String}
    (h : (p.alone k w).1 = .ok html) : ∃ c : Bench, w.run (Bench.withCopy p.settings.markerName k.name
      (k.packaged p.source.isXml) {} (p.counter k.name)) = (.ok html, c) := by
  cases hread : p.source.readRoot k.templateName with
  | error e =>
    rw [alone, PageStencil.made_of_error hread] at h
    cases h
  | ok t =>
    rw [alone, PageStencil.made_of_ok hread, FragmentKind.eq_packaged hdir hread] at h
    exact ⟨_, Prod.ext h rfl⟩

lemma Sound.navbar_tags (hp : p.Sound) (hdir : p.source.directory = Packaged.directory) {n : Navbar Menu} {html : String}
    (h : (p.navbar n false).1 = .ok html) : ∃ parts, n.shown = .ok parts ∧
      tagsIn html = ((Navbar.packaged p.source.isXml).markup n.cssClass n.inContainer
        (p.counter Navbar.kind).value parts).marks := by
  have halone := congrArg Prod.fst (hp.navbar_alone hdir n false)
  obtain ⟨_, hprinted⟩ := alone_ok hdir (halone.symm.trans h)
  have hpending := Navbar.pending_withCopy p.source.isXml p.settings.markerName sound_nil (p.counter Navbar.kind)
  rcases hpending.run_once n with ⟨e, c, hstop, _⟩ | ⟨c, parts, hshown, _, hrun, _, hbar⟩
  · cases hprinted.symm.trans (run_printing hstop)
  · obtain ⟨u, htree, herase⟩ := hbar.tree
    cases (Prod.mk.inj (hprinted.symm.trans (run_printing hrun))).1
    refine ⟨parts, hshown, ?_⟩
    rw [Navbar.tree_of_find? htree]
    exact tagsIn_written herase ((Navbar.wellNamed_packaged p.source.isXml).markup _ _ _ _)

lemma Sound.modal_tags (hp : p.Sound) (hdir : p.source.directory = Packaged.directory) {o : ModalOrder} {html : String}
    (h : (p.modal o false).1 = .ok html) : ∃ (root : Tag) (uid : String), root.name = "div" ∧
      tagsIn html = (Modal.markup p.source.isXml root uid o.title o.text (o.buttons.map Button.tree)).marks := by
  have halone := congrArg Prod.fst (hp.modal_alone hdir o false)
  obtain ⟨_, hprinted⟩ := alone_ok hdir (halone.symm.trans h)
  by_cases hname : p.settings.markerName = markerAttribute
  · rw [hname] at hprinted
    obtain ⟨header, body, footer, f, hrun, hfull⟩ :=
      o.run_printing_new p.source.isXml false sound_nil (p.counter Modal.kind)
    by_cases hshort : (p.counter Modal.kind).Short 1
    · obtain ⟨c, u, hok, _, hcopy, htree, herase⟩ := hfull.run_once hshort
      cases (Prod.mk.inj (hprinted.symm.trans (hrun.trans (run_printing hok)))).1
      have hroot : (Modal.tags p.source.isXml).root.WellNamed :=
        Modal.wellNamed_tags p.source.isXml _ List.mem_cons_self
      have hdiv : (Modal.rootTag ⟨o.title, o.text, o.id, o.cssClass, header, body, footer⟩
          (Modal.tags p.source.isXml).root).name = "div" := Modal.name_rootTag _ _
      refine ⟨_, Modal.identifier (p.counter Modal.kind).value, hdiv, ?_⟩
      rw [hcopy, Navbar.tree_of_find? htree]
      exact tagsIn_written herase (Modal.wellNamed_markup _ (Modal.wellNamed_rootTag _ hroot) _ _ _ _)
    · obtain ⟨c, hstop, _⟩ := hfull.run_once_stops hshort
      cases hprinted.symm.trans (hrun.trans (run_printing hstop))
  · have hmake := Modal.run_make_lacking p.source.isXml hname {} (p.counter Modal.kind) o.title o.text o.id o.cssClass
    cases hprinted.symm.trans (run_bind_error hmake)

/-- No text that is put into a bar or a dialog has a part in its tags. -/
theorem tags_of_shape (hp : p.Sound) (hp' : p'.Sound) (hdir : p.source.directory = Packaged.directory)
    (hdir' : p'.source.directory = Packaged.directory) (hxml : p'.source.isXml = p.source.isXml) :
    (∀ (n n' : Navbar Menu) (parts parts' : List Menu), n.shown = .ok parts → n'.shown = .ok parts' →
        List.Forall₂ Menu.SameShape parts parts' → n'.inContainer = n.inContainer →
        (p.Stocked → ((∃ html, (p.navbar n false).1 = .ok html) ↔
          (p.counter Navbar.kind).Short (1 + Navbar.dropdownsIn parts))) ∧
        ∀ html html', (p.navbar n false).1 = .ok html → (p'.navbar n' false).1 = .ok html' →
          tagsIn html' = tagsIn html) ∧
      ∀ o o' : ModalOrder, o'.buttons.length = o.buttons.length →
        (p.Stocked → ((∃ html, (p.modal o false).1 = .ok html) ↔ (p.counter Modal.kind).Short 1)) ∧
        ∀ html html', (p.modal o false).1 = .ok html → (p'.modal o' false).1 = .ok html' →
          tagsIn html' = tagsIn html := by
  constructor
  · intro n n' parts parts' hshown hshown' hshape hboxed
    refine ⟨fun hstocked => exists_ok_iff_of_error_iff (hstocked.navbar_fails_iff hp hshown false), ?_⟩
    intro html html' h h'
    obtain ⟨_, hsame, htags⟩ := hp.navbar_tags hdir h
    obtain ⟨_, hsame', htags'⟩ := hp'.navbar_tags hdir' h'
    cases hshown.symm.trans hsame
    cases hshown'.symm.trans hsame'
    rw [htags, htags', hxml, hboxed]
    exact (Navbar.packaged p.source.isXml).marks_markup _ _ _ _ _ hshape
  · intro o o' hbuttons
    refine ⟨fun hstocked => exists_ok_iff_of_error_iff (hstocked.modal_fails_iff hp o false), ?_⟩
    intro html html' h h'
    obtain ⟨root, uid, hroot, htags⟩ := hp.modal_tags hdir h
    obtain ⟨root', uid', hroot', htags'⟩ := hp'.modal_tags hdir' h'
    rw [htags, htags', hxml]
    exact Modal.marks_markup _ (hroot'.trans hroot.symm) _ _ _ _ _ _ hbuttons

def hostile : Navbar Menu where
  menu := some (.group (some { text := some "</a><b>", href := some "\x22\x27><script>" }) (some "x\x22>")
    [.item (some { text := some "<!--", id := some "\x22 onclick=\x27<i>\x27" }) none,
      .group (some { text := some "</ul></nav>", target := some ">" }) (some "<a b='c'>") [.item none (some "&lt;")]])
  cssClass := some "\x22><br/>"

theorem hostile_tags : ∃ html html', ((startingAt 1000).navbar Navbar.sample false).1 = .ok html ∧
    ((startingAt 7).navbar hostile false).1 = .ok html' ∧ tagsIn html' = tagsIn html := by
  have hbranches {l l' : Link} {c c' c₁ c₁' c₂ c₂' c₃ c₃' : Option String} {k k' k₂ k₂' : Link}
      (hl : l'.hasIcon = l.hasIcon) (hk : k'.hasIcon = k.hasIcon) (hk₂ : k₂'.hasIcon = k₂.hasIcon) :
      List.Forall₂ Menu.SameShape
        [.group (some l) c [.item (some k) c₁, .group (some k₂) c₂ [.item none c₃]]]
        [.group (some l') c' [.item (some k') c₁', .group (some k₂') c₂' [.item none c₃']]] :=
    .cons (.group (.some hl) (.cons (.item (.some hk))
      (.cons (.group (.some hk₂) (.cons (.item .none) .nil)) .nil))) .nil
  have hshort : ((startingAt 1000).counter Navbar.kind).Short (1 + Navbar.dropdownsIn Navbar.sample.menus) := by
    decide +kernel
  have hshort' : ((startingAt 7).counter Navbar.kind).Short (1 + Navbar.dropdownsIn hostile.menus) := by
    decide +kernel
  have hdir (seed : Int) : (startingAt seed).source.directory = Packaged.directory := rfl
  obtain ⟨hprints, htags⟩ :=
    (tags_of_shape (sound_startingAt 1000) (sound_startingAt 7) (hdir 1000) (hdir 7) rfl).1
      Navbar.sample hostile _ _ rfl rfl (hbranches rfl rfl rfl) rfl
  obtain ⟨hprints', _⟩ := (tags_of_shape (sound_startingAt 7) (sound_startingAt 7) (hdir 7) (hdir 7) rfl).1
    hostile hostile _ _ rfl rfl (hbranches rfl rfl rfl) rfl
  obtain ⟨html, h⟩ := (hprints (stocked_startingAt 1000)).mpr hshort
  obtain ⟨html', h'⟩ := (hprints' (stocked_startingAt 7)).mpr hshort'
  exact ⟨html, html', h, h', htags html html' h h'⟩

end Studio

end PageStencil
