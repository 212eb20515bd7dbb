import PageStencil.Proofs.Component.ModalRendering
import PageStencil.Proofs.Component.NavbarShown
import PageStencil.Proofs.Component.Spans

namespace PageStencil

open Markup Stencil

namespace Markup.Tree

variable {α : Type}

def tags (t : Tree α) : List Tag := t.elements.map (·.2)

lemma tags_element (l : α) (tag : Tag) (cs : List (Tree α)) : (element l tag cs).tags = tag :: cs.flatMap tags := by
  rw [tags, elements, elementsOfAll_eq, List.map_cons, List.map_flatMap]
  rfl

lemma tags_erase (t : Tree α) : t.erase.tags = t.tags := by
  induction t using ind with
  | hleaf l c => rfl
  | helement l tag cs ih =>
    rw [erase, tags_element, tags_element, eraseAll_eq, List.flatMap_map, List.flatMap_congr fun c hc => ih c hc]

lemma tags_mapTags (change : Tag → Tag) (t : Tree α) : (t.mapTags change).tags = t.tags.map change := by
  induction t using ind with
  | hleaf l c => rfl
  | helement l tag cs ih =>
    rw [mapTags, tags_element, tags_element, mapTagsOfAll_eq, List.flatMap_map, List.flatMap_congr fun c hc => ih c hc,
      List.map_cons, List.map_flatMap]

lemma filterMap_tags_element {β : Type} (f : Tag → Option β) (l : α) (tag : Tag) (cs : List (Tree α)) :
    (element l tag cs).tags.filterMap f = (f tag).toList ++ cs.flatMap fun c => c.tags.filterMap f := by
  rw [tags_element, List.filterMap_cons, List.filterMap_flatMap]
  cases f tag <;> rfl

lemma filterMap_tags_mapTags {β : Type} {f : Tag → Option β} {change : Tag → Tag} (hf : ∀ tag, f (change tag) = f tag)
    (t : Tree α) : (t.mapTags change).tags.filterMap f = t.tags.filterMap f := by
  rw [tags_mapTags, List.filterMap_map]
  exact congrArg (List.filterMap · t.tags) (funext hf)

end Markup.Tree

def Markup.Tag.id? (t : Tag) : Option String := (t.get? "id").map Value.plain

lemma Markup.Tag.id?_remove (t : Tag) : (t.remove markerAttribute).id? = t.id? := by
  rw [id?, get?_remove, if_neg (by decide), id?]

namespace Navbar

/-- The identifier that a rendering has put on an element: one on the content of a bar, one on the toggle of each
dropdown. An identifier on any other link comes from its label. -/
def identifierOf (t : Tag) : Option String :=
  if t.name = "div" ∨ t.get? "data-toggle" = some (.text "dropdown") then t.id? else none

def identifiers {α : Type} (t : Markup.Tree α) : List String := t.tags.filterMap identifierOf

def block (value : Int) (n : Nat) : List String := (List.range n).map fun (k : Nat) => identifier (value + k)

lemma block_eq_names (value : Int) (n : Nat) : block value n = Span.names kind (some (value, n)) := rfl

lemma block_add (value : Int) (n m : Nat) : block value (n + m) = block value n ++ block (value + n) m := by
  simp only [block_eq_names, names_add]

lemma block_one (value : Int) : block value 1 = [identifier value] := by
  rw [block, List.range_one, List.map_singleton, Int.natCast_zero, Int.add_zero]

lemma identifierOf_remove (t : Tag) : identifierOf (t.remove markerAttribute) = identifierOf t := by
  have htoggle : (t.remove markerAttribute).get? "data-toggle" = t.get? "data-toggle" := by
    rw [Tag.get?_remove, if_neg (by decide)]
  rw [identifierOf, identifierOf, Tag.id?_remove, htoggle]
  rfl

lemma identifiers_stripped (t : Markup.Tree Unit) : identifiers (stripped t) = identifiers t :=
  Markup.Tree.filterMap_tags_mapTags identifierOf_remove t

lemma identifiers_element (tag : Tag) (cs : List (Markup.Tree Unit)) :
    identifiers (.element () tag cs) = (identifierOf tag).toList ++ cs.flatMap identifiers :=
  Markup.Tree.filterMap_tags_element identifierOf () tag cs

lemma identifiers_gap : identifiers gap = [] := rfl

lemma identifiers_words (s : String) : identifiers (words s) = [] := rfl

lemma identifierOf_congr {t u : Tag} (hname : u.name = t.name) (hget : ∀ name ≠ "class", u.get? name = t.get? name) :
    identifierOf u = identifierOf t := by
  rw [identifierOf, identifierOf, Tag.id?, Tag.id?, hname, hget "data-toggle" (by decide), hget "id" (by decide)]

lemma identifierOf_addClasses (t : Tag) (names : ClassNames) : identifierOf (t.addClasses names) = identifierOf t :=
  identifierOf_congr (Tag.name_addClasses t names) fun _ hname => Tag.get?_addTokens hname _

lemma identifierOf_align (first : Bool) (css : Option String) (t : Tag) :
    identifierOf (align first css t) = identifierOf t := by
  refine identifierOf_congr (name_align first css t) fun name hname => ?_
  cases css with
  | none => rfl
  | some css =>
    have hadd := fun u : Tag => Tag.get?_addTokens (t := u) hname (ClassNames.text css).tokens
    cases first with
    | true => exact hadd t
    | false => exact (hadd _).trans (Tag.get?_removeClass hname t defaultAlignment)

lemma identifiers_contents (l : Link) : l.contents.flatMap identifiers = [] := by
  have hicon : ∀ icon, identifiers (Link.iconTree icon) = [] := by
    intro icon
    rw [Link.iconTree, identifiers_element]
    rfl
  rw [Link.contents, List.flatMap_append]
  have htext : (l.text.map fun s => Markup.Tree.leaf () (.text s)).toList.flatMap identifiers = [] := by
    cases l.text <;> rfl
  rw [htext, List.nil_append]
  cases l.icon with
  | none => rfl
  | some icon =>
    dsimp only
    split_ifs
    · rfl
    · rw [List.flatMap_singleton, hicon]

lemma identifiers_link {t : Tag} (hname : t.name = "a") (htoggle : t.get? "data-toggle" = none)
    (placeholder : String) (label : Option Link) : identifiers (linkMarkup t placeholder label) = [] := by
  have hnone : ∀ {t : Tag}, t.name = "a" → t.get? "data-toggle" = none → identifierOf t = none := by
    intro t hn ht
    rw [identifierOf, hn, ht]
    exact if_neg (by decide)
  cases label with
  | none => rw [linkMarkup, identifiers_element, hnone hname htoggle]; rfl
  | some l =>
    have hlink : l.tag.get? "data-toggle" = none := l.get?_other (by decide)
    have hmerge : identifierOf (t.merge l.tag) = none := by
      refine hnone ((Tag.name_merge _ _).trans hname) ?_
      rw [Tag.get?_merge l.nodup_tag (by decide), hlink, htoggle]
      rfl
    rw [linkMarkup, identifiers_element, hmerge, identifiers_contents]
    rfl

variable (xml : Bool)

lemma identifiers_item (label : Option Link) : identifiers ((packaged xml).itemMarkup label) = [] := by
  have hlink := identifiers_link (t := (packaged xml).itemLink) rfl rfl "Link" label
  rw [Tags.itemMarkup, Tags.itemWith, identifiers_element]
  simp only [List.flatMap_cons, List.flatMap_nil, identifiers_gap, hlink]
  rfl

lemma identifiers_dropdown (uid : String) (m : Menu) : identifiers ((packaged xml).dropdownMarkup uid m) = [uid] := by
  have hlinks : (m.entries.map fun e => linkMarkup (packaged xml).dropdownItem "Action" e.label).flatMap identifiers = [] := by
    rw [List.flatMap_map, List.flatMap_congr fun e _ => identifiers_link rfl rfl "Action" e.label]
    exact List.flatMap_eq_nil_iff.mpr fun _ _ => rfl
  have htoggle : identifierOf ((packaged xml).dropdownText.set "id" (.text uid)) = some uid := by
    rw [identifierOf, if_pos (.inr (Tag.get?_set_of_ne _ (by decide) _)), Tag.id?, Tag.get?_set]
    rfl
  have hmenu : identifierOf (((packaged xml).dropdownMenu.set "aria-labelledby" (.text uid)).addClasses
      (.ofText? m.cssClass)) = none := by
    rw [identifierOf_addClasses, identifierOf, Tag.id?, Tag.get?_set_of_ne _ (by decide)]
    rfl
  rw [Tags.dropdownMarkup, identifiers_element]
  simp only [List.flatMap_cons, List.flatMap_nil, identifiers_gap, identifiers_element, htoggle, hmenu,
    identifiers_words, hlinks]
  rfl

lemma identifiers_entries (value : Int) (ms : List Menu) :
    ((packaged xml).entriesMarkup value ms).flatMap identifiers = block value (dropdowns ms) := by
  induction ms generalizing value with
  | nil => rfl
  | cons m ms ih =>
    rw [Tags.entriesMarkup]
    split_ifs with h
    · have hcount : dropdowns (m :: ms) = dropdowns ms := by simp [dropdowns, h]
      rw [List.flatMap_cons, identifiers_item, ih, hcount]
      rfl
    · have hcount : dropdowns (m :: ms) = 1 + dropdowns ms := by simp [dropdowns, h, Nat.add_comm]
      rw [List.flatMap_cons, identifiers_dropdown, ih, hcount, block_add, block_one]
      rfl

lemma identifiers_part (value : Int) (first : Bool) (m : Menu) :
    identifiers ((packaged xml).partMarkup value first m) = block value (dropdowns m.entries) := by
  have hlist : identifierOf (align first m.cssClass (packaged xml).container) = none := by
    rw [identifierOf_align]
    rfl
  rw [Tags.partMarkup, identifiers_element, hlist]
  simp only [List.flatMap_cons, identifiers_gap, identifiers_entries]
  rfl

lemma identifiers_parts (value : Int) (first : Bool) (parts : List Menu) :
    ((packaged xml).partsMarkup value first parts).flatMap identifiers = block value (dropdownsIn parts) := by
  induction parts generalizing value first with
  | nil => rfl
  | cons m ms ih =>
    rw [Tags.partsMarkup, List.flatMap_cons, identifiers_part, ih, dropdownsIn_cons, block_add]

theorem identifiers_markup (cssClass : Option String) (boxed : Bool) (value : Int) (parts : List Menu) :
    identifiers ((packaged xml).markup cssClass boxed value parts) = block value (1 + dropdownsIn parts) := by
  have hbrand : ((packaged xml).brandMarkup (parts.head?.bind Menu.label)).flatMap identifiers = [] := by
    cases parts.head?.bind Menu.label with
    | none => rfl
    | some l =>
      have hlink := identifiers_link (t := (packaged xml).brand) rfl rfl "Brand" (some l)
      rw [Tags.brandMarkup, List.flatMap_singleton]
      exact hlink
  have htoggler : identifiers ((packaged xml).togglerTree ((packaged xml).toggler.set "data-target"
      (.text ("#" ++ identifier value)))) = [] := by
    have htag : identifierOf ((packaged xml).toggler.set "data-target" (.text ("#" ++ identifier value))) = none := by
      rw [identifierOf, Tag.id?, Tag.get?_set_of_ne _ (by decide), Tag.get?_set_of_ne _ (by decide)]
      rfl
    rw [Tags.togglerTree, identifiers_element, htag]
    rfl
  have hcontent : identifierOf ((packaged xml).content.set "id" (.text (identifier value))) = some (identifier value) := by
    rw [identifierOf, if_pos (.inl rfl), Tag.id?, Tag.get?_set]
    rfl
  have hnav : identifierOf ((packaged xml).nav.addClasses (.ofText? cssClass)) = none := by
    rw [identifierOf_addClasses]
    rfl
  have hbox : identifierOf (packaged xml).positioning = none := rfl
  rw [Tags.markup, Tags.barWith, identifiers_element, hnav, block_add, block_one]
  cases boxed <;> simp [identifiers_element, identifiers_gap, hbrand, htoggler, hcontent, hbox, identifiers_parts]

end Navbar

namespace Modal

def identifierOf (t : Tag) : Option String := if t.name = "h5" then t.id? else none

/-- The identifier that a rendering has put on the title of a dialog; any other comes from who made the dialog. -/
def identifiers {α : Type} (t : Markup.Tree α) : List String := t.tags.filterMap identifierOf

lemma identifierOf_remove (t : Tag) : identifierOf (t.remove markerAttribute) = identifierOf t := by
  rw [identifierOf, identifierOf, Tag.id?_remove]
  rfl

lemma identifiers_element (tag : Tag) (cs : List (Markup.Tree Unit)) :
    identifiers (.element () tag cs) = (identifierOf tag).toList ++ cs.flatMap identifiers :=
  Markup.Tree.filterMap_tags_element identifierOf () tag cs

lemma identifiers_stripped (t : Markup.Tree Unit) : identifiers (Navbar.stripped t) = identifiers t :=
  Markup.Tree.filterMap_tags_mapTags identifierOf_remove t

variable {xml : Bool} {root : Tag}

theorem identifiers_markup (hroot : root.name = "div") (uid : String) (title text : Option String)
    {buttons : List (Markup.Tree Unit)} (hbuttons : ∀ t ∈ buttons, identifiers t = []) :
    identifiers (markup xml root uid title text buttons) = [uid] := by
  have hnone : ∀ {t : Tag}, t.name ≠ "h5" → identifierOf t = none := fun h => if_neg h
  have htitle : identifierOf ((tags xml).title.set "id" (.text uid)) = some uid := by
    have hname : ((tags xml).title.set "id" (.text uid)).name = "h5" := rfl
    rw [identifierOf, if_pos hname, Tag.id?, Tag.get?_set]
    rfl
  have hframe : identifierOf (root.set "aria-labelledby" (.text uid)) = none := by
    refine hnone ?_
    rw [Tag.name_set, hroot]
    decide
  have hwords : ∀ s, identifiers (Navbar.words s) = [] := fun _ => rfl
  have hgap : identifiers Navbar.gap = [] := rfl
  have hrest : ∀ t ∈ [(tags xml).dialog, (tags xml).content, (tags xml).header, (tags xml).close, (tags xml).sign,
      (tags xml).body, (tags xml).footer], identifierOf t = none := by
    simp only [List.forall_mem_cons]
    exact ⟨rfl, rfl, rfl, rfl, rfl, rfl, rfl, List.forall_mem_nil _⟩
  simp only [List.forall_mem_cons] at hrest
  obtain ⟨hdialog, hcontent, hheader, hclose, hsign, hbody, hfooter, _⟩ := hrest
  have hfoot : (footerMarkup xml buttons).flatMap identifiers = [] := by
    rw [footerMarkup]
    split_ifs
    · rfl
    · rw [List.flatMap_singleton, identifiers_element, hfooter, List.flatMap_eq_nil_iff.mpr hbuttons]
      rfl
  have htext : (text.map Navbar.words).toList.flatMap identifiers = [] := by cases text <;> rfl
  cases xml <;> simp [markup, markupWith, identifiers_element, hframe, hdialog, hcontent, hheader, htitle, hclose, hsign,
    hbody, hwords, hgap, hfoot, htext]

structure ShowsDialog (uid : String) (t : Markup.Tree Unit) : Prop where
  label : t.attribute? "aria-labelledby" = some uid
  title : identifiers t = [uid]

theorem showsDialog_markup (hroot : root.name = "div") (uid : String) (title text : Option String)
    {buttons : List (Markup.Tree Unit)} (hbuttons : ∀ t ∈ buttons, identifiers t = []) :
    ShowsDialog uid (Navbar.stripped (markup xml root uid title text buttons)) where
  label := by
    change (((root.set "aria-labelledby" (.text uid)).remove markerAttribute).get? "aria-labelledby").map Value.plain = _
    rw [Tag.get?_remove, if_neg (by decide), Tag.get?_set]
    rfl
  title := by rw [identifiers_stripped, identifiers_markup hroot uid title text hbuttons]

end Modal

end PageStencil
