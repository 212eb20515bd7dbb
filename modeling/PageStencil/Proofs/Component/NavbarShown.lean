import PageStencil.Proofs.Component.NavbarRendering
import PageStencil.Proofs.Component.Packaged
import PageStencil.Proofs.Menu.LinkMarkup

namespace PageStencil

open Markup Stencil

namespace Markup.Tree

variable {α : Type}

def name? (t : Tree α) : Option String := t.tag?.map Tag.name

def attribute? (t : Tree α) (name : String) : Option String :=
  (t.tag?.bind fun tag => tag.get? name).map Value.plain

def classes (t : Tree α) : List String := (t.tag?.map Tag.classes).getD []

def elementChildren (t : Tree α) : List (Tree α) := t.children.filter isElement

end Markup.Tree

namespace Navbar

open Text

/-- A link made from a placeholder of a class and a text: what the label gives takes the place of what was there, and
its classes are added. Without a label the placeholder is kept. -/
structure ShowsLink (xml : Bool) (cssClass placeholder : String) (label : Option Link) (t : Markup.Tree Unit) : Prop where
  name : t.name? = some "a"
  children : t.children = (label.map fun l => l.tree.children).getD [words placeholder]
  href : t.attribute? "href" = some ((label.bind Link.href).getD "#")
  classes : t.classes = appendNew [cssClass] (wordsOf ((label.bind Link.cssClass).getD ""))
  id : t.attribute? "id" = label.bind Link.id
  rel : t.attribute? "rel" = label.bind Link.rel
  target : t.attribute? "target" = label.bind Link.target
  kept : label = none → t = .element () (packagedTag xml "a" [] [cssClass] [("href", "#")]) [words placeholder]

structure ShowsItem (xml : Bool) (label : Option Link) (t : Markup.Tree Unit) : Prop where
  name : t.name? = some "li"
  classes : t.classes = ["nav-item"]
  link : ∃ a, t.elementChildren = [a] ∧ ShowsLink xml "nav-link" "Link" label a

/-- A dropdown: its toggle, and a menu with a link for each entry. -/
structure ShowsDropdown (xml : Bool) (uid : String) (m : Menu) (t : Markup.Tree Unit) : Prop where
  name : t.name? = some "li"
  classes : t.classes = ["nav-item", "dropdown"]
  toggle : ∃ toggle menu, t.elementChildren = [toggle, menu] ∧
    toggle.children = [words ((m.label.bind Link.text).getD "Dropdown")] ∧ toggle.attribute? "id" = some uid ∧
    menu.attribute? "aria-labelledby" = some uid ∧
    menu.classes = appendNew ["dropdown-menu"] (wordsOf (m.cssClass.getD "")) ∧
    List.Forall₂ (fun e a => ShowsLink xml "dropdown-item" "Action" e.label a) m.entries menu.elementChildren

/-- Items and dropdowns for some entries, one to one and in their order, the identifiers counted from a value. -/
inductive ShowsEntries (xml : Bool) : Int → List Menu → List (Markup.Tree Unit) → Prop
  | nil (value : Int) : ShowsEntries xml value [] []
  | item {value : Int} {m : Menu} {ms : List Menu} {t : Markup.Tree Unit} {ts : List (Markup.Tree Unit)}
    (hleaf : m.isLeaf = true) (hitem : ShowsItem xml m.label t) (hrest : ShowsEntries xml value ms ts) :
    ShowsEntries xml value (m :: ms) (t :: ts)
  | dropdown {value : Int} {m : Menu} {ms : List Menu} {t : Markup.Tree Unit} {ts : List (Markup.Tree Unit)}
    (hgroup : m.isLeaf = false) (hdropdown : ShowsDropdown xml (identifier value) m t)
    (hrest : ShowsEntries xml (value + 1) ms ts) : ShowsEntries xml value (m :: ms) (t :: ts)

/-- The classes of a part: its own are added, and all parts but the first give up the default alignment for them. -/
def partClasses (first : Bool) : Option String → List String
  | none => ["navbar-nav", "mr-auto"]
  | some css => appendNew (if first then ["navbar-nav", "mr-auto"] else ["navbar-nav"]) (wordsOf css)

structure ShowsPart (xml : Bool) (value : Int) (first : Bool) (m : Menu) (t : Markup.Tree Unit) : Prop where
  name : t.name? = some "ul"
  classes : t.classes = partClasses first m.cssClass
  entries : ShowsEntries xml value m.entries t.elementChildren

inductive ShowsParts (xml : Bool) : Int → Bool → List Menu → List (Markup.Tree Unit) → Prop
  | nil (value : Int) (first : Bool) : ShowsParts xml value first [] []
  | cons {value : Int} {first : Bool} {m : Menu} {ms : List Menu} {t : Markup.Tree Unit} {ts : List (Markup.Tree Unit)}
    (hpart : ShowsPart xml value first m t) (hrest : ShowsParts xml (value + dropdowns m.entries) false ms ts) :
    ShowsParts xml value first (m :: ms) (t :: ts)

structure ShowsBar (xml : Bool) (n : Navbar Menu) (parts : List Menu) (value : Int) (t : Markup.Tree Unit) : Prop where
  name : t.name? = some "nav"
  classes : t.classes = appendNew ["navbar", "navbar-expand-lg"] (wordsOf (n.cssClass.getD ""))
  inner : ∃ brand toggler content,
    (if n.inContainer then ∃ box, t.elementChildren = [box] ∧ box.classes = ["container"] ∧
        box.elementChildren = brand ++ [toggler, content]
      else t.elementChildren = brand ++ [toggler, content]) ∧
    List.Forall₂ (fun l a => ShowsLink xml "navbar-brand" "Brand" (some l) a) (parts.head?.bind Menu.label).toList brand ∧
    toggler.attribute? "data-target" = some ("#" ++ identifier value) ∧
    content.classes = ["collapse", "navbar-collapse"] ∧ content.attribute? "id" = some (identifier value) ∧
    ShowsParts xml (value + 1) true parts content.elementChildren

def stripped (t : Markup.Tree Unit) : Markup.Tree Unit := t.mapTags fun t => t.remove markerAttribute

@[simp] lemma stripped_element (tag : Tag) (cs : List (Markup.Tree Unit)) :
    stripped (.element () tag cs) = .element () (tag.remove markerAttribute) (cs.map stripped) := by
  rw [stripped, Markup.Tree.mapTags, Markup.Tree.mapTagsOfAll_eq]
  rfl

@[simp] lemma stripped_gap : stripped gap = gap := rfl

@[simp] lemma stripped_words (s : String) : stripped (words s) = words s := rfl

lemma stripped_contents (l : Link) : l.contents.map stripped = l.contents := by
  have hicon : ∀ icon, stripped (Link.iconTree icon) = Link.iconTree icon := by
    intro icon
    simp [Link.iconTree, Tag.ofTexts, Tag.ofValues, Tag.markEncoding, Tag.remove, markerAttribute]
    rfl
  rw [Link.contents, List.map_append]
  congr 1
  · cases l.text <;> rfl
  · cases l.icon with
    | none => rfl
    | some icon =>
      dsimp only
      split_ifs
      · rfl
      · rw [List.map_singleton, hicon]

lemma tokens_ofText? (s : Option String) : (ClassNames.ofText? s).tokens = wordsOf (s.getD "") := by
  cases s with
  | none => simp [ClassNames.ofText?, ClassNames.tokens, wordsOf, Text.words, stretches]
  | some s => rfl

lemma classes_addClasses (t : Tag) (css : Option String) :
    (t.addClasses (.ofText? css)).classes = appendNew t.classes (wordsOf (css.getD "")) := by
  rw [Tag.addClasses, tokens_ofText?, Tag.classes_addTokens fun w hw => isWord_of_mem hw]

lemma classes_packagedTag {c : String} (hc : IsWord c) (xml : Bool) (name : String) (back : List (String × String)) :
    (packagedTag xml name [] [c] back).classes = [c] := by
  cases xml with
  | false => exact flatMap_wordsOf fun w hw => List.mem_singleton.mp hw ▸ hc
  | true => exact hc

def linkTag (xml : Bool) (c marker : String) : Tag :=
  packagedTag xml "a" [] [c] [("href", "#"), ("data-stencil", marker)]

lemma remove_linkTag (xml : Bool) (c marker : String) :
    (linkTag xml c marker).remove markerAttribute = packagedTag xml "a" [] [c] [("href", "#")] := by
  simp [linkTag, packagedTag, Tag.remove, markerAttribute]

lemma get?_linkMarkup {name : String} (hclass : name ≠ "class") (hmarker : name ≠ markerAttribute) (l : Link) (t : Tag) :
    ((t.merge l.tag).remove markerAttribute).get? name = (l.tag.get? name).or (t.get? name) := by
  rw [Tag.get?_remove, if_neg hmarker, Tag.get?_merge l.nodup_tag hclass]

lemma showsLink {c : String} (hc : IsWord c) (xml : Bool) (marker placeholder : String) (label : Option Link) :
    ShowsLink xml c placeholder label (stripped (linkMarkup (linkTag xml c marker) placeholder label)) := by
  cases label with
  | none =>
    rw [linkMarkup, stripped_element, remove_linkTag, List.map_singleton, stripped_words]
    refine ⟨rfl, rfl, rfl, ?_, rfl, rfl, rfl, fun _ => rfl⟩
    have hempty : wordsOf "" = [] := (tokens_ofText? none).symm
    rw [Option.bind_none, Option.getD_none, hempty]
    exact classes_packagedTag hc xml "a" [("href", "#")]
  | some l =>
    have hclasses : (linkTag xml c marker).classes = [c] := classes_packagedTag hc xml "a" _
    have hnone : ∀ {name : String} {field : Option String}, name ≠ "class" → name ≠ markerAttribute →
        l.tag.get? name = field.map .text → (linkTag xml c marker).get? name = none →
        (stripped (linkMarkup (linkTag xml c marker) placeholder (some l))).attribute? name = field := by
      intro name field hclass hmarker hfield htag
      rw [linkMarkup, stripped_element]
      change (((linkTag xml c marker).merge l.tag).remove markerAttribute |>.get? name).map Value.plain = _
      rw [get?_linkMarkup hclass hmarker, hfield, htag, Option.or_none]
      cases field <;> rfl
    refine ⟨?_, ?_, ?_, ?_, hnone (by decide) (by decide) l.get?_id rfl, hnone (by decide) (by decide) l.get?_rel rfl,
      hnone (by decide) (by decide) l.get?_target rfl, fun h => nomatch h⟩
    · rw [linkMarkup, stripped_element]
      change some ((linkTag xml c marker).merge l.tag).name = _
      rw [Tag.name_merge]
      rfl
    · rw [linkMarkup, stripped_element, stripped_contents]
      rfl
    · have hhref : (linkTag xml c marker).get? "href" = some (.text "#") := rfl
      rw [linkMarkup, stripped_element]
      change (((linkTag xml c marker).merge l.tag).remove markerAttribute |>.get? "href").map Value.plain = _
      rw [get?_linkMarkup (by decide) (by decide), l.get?_href, hhref, Option.bind_some]
      cases l.href <;> rfl
    · rw [linkMarkup, stripped_element]
      change (((linkTag xml c marker).merge l.tag).remove markerAttribute).classes = _
      rw [Tag.classes_remove (by decide), Tag.classes_merge l.nodup_tag (hclasses ▸ List.nodup_singleton c), hclasses,
        l.classes_tag, Option.bind_some, ← tokens_ofText?]
      cases l.cssClass <;> rfl

@[simp] lemma isElement_stripped (t : Markup.Tree Unit) : (stripped t).isElement = t.isElement := by
  cases t <;> rfl

lemma isElement_linkMarkup (tag : Tag) (placeholder : String) (label : Option Link) :
    (linkMarkup tag placeholder label).isElement = true := by
  cases label <;> rfl

lemma filter_stripped {ts : List (Markup.Tree Unit)} (h : ∀ t ∈ ts, t.isElement = true) :
    (ts.map stripped).filter Markup.Tree.isElement = ts.map stripped := by
  refine List.filter_eq_self.mpr fun u hu => ?_
  obtain ⟨t, ht, rfl⟩ := List.mem_map.mp hu
  rw [isElement_stripped, h t ht]

lemma elementChildren_element (tag : Tag) (cs : List (Markup.Tree Unit)) :
    (Markup.Tree.element () tag cs).elementChildren = cs.filter Markup.Tree.isElement := rfl

lemma classes_stripped (tag : Tag) (cs : List (Markup.Tree Unit)) :
    (stripped (.element () tag cs)).classes = tag.classes := by
  rw [stripped_element]
  exact Tag.classes_remove (by decide)

lemma showsItem (xml : Bool) (label : Option Link) : ShowsItem xml label (stripped ((packaged xml).itemMarkup label)) := by
  rw [Tags.itemMarkup, Tags.itemWith]
  refine ⟨by rw [stripped_element]; rfl, ?_, stripped (linkMarkup (linkTag xml "nav-link" "item-link") "Link" label), ?_,
    showsLink (by decide +kernel) xml "item-link" "Link" label⟩
  · rw [classes_stripped]
    cases xml <;> decide +kernel
  · have hlink := isElement_linkMarkup (packaged xml).itemLink "Link" label
    rw [stripped_element, elementChildren_element]
    simp only [List.map_cons, List.map_nil, stripped_gap]
    rw [List.filter_cons_of_neg (by decide), List.filter_cons_of_pos (by rw [isElement_stripped, hlink]),
      List.filter_cons_of_neg (by decide), List.filter_nil]
    rfl

lemma showsDropdown (xml : Bool) (uid : String) (m : Menu) :
    ShowsDropdown xml uid m (stripped ((packaged xml).dropdownMarkup uid m)) := by
  rw [Tags.dropdownMarkup]
  refine ⟨by rw [stripped_element]; rfl, ?_, _, _, by rw [stripped_element]; rfl, ?_, ?_, ?_, ?_, ?_⟩
  · rw [classes_stripped]
    cases xml <;> decide +kernel
  · rw [stripped_element]
    rfl
  · rw [stripped_element]
    change ((((packaged xml).dropdownText.set "id" (.text uid)).remove markerAttribute).get? "id").map Value.plain = _
    rw [Tag.get?_remove, if_neg (by decide), Tag.get?_set]
    rfl
  · rw [stripped_element]
    change (((((packaged xml).dropdownMenu.set "aria-labelledby" (.text uid)).addClasses (.ofText? m.cssClass)).remove
      markerAttribute).get? "aria-labelledby").map Value.plain = _
    rw [Tag.get?_remove, if_neg (by decide), Tag.addClasses, Tag.get?_addTokens (by decide), Tag.get?_set]
    rfl
  · have hmenu : (packaged xml).dropdownMenu.classes = ["dropdown-menu"] := by cases xml <;> decide +kernel
    rw [classes_stripped, classes_addClasses, Tag.classes_set (by decide), hmenu]
  · have hlinks : ∀ t ∈ m.entries.map fun e => linkMarkup (packaged xml).dropdownItem "Action" e.label,
        t.isElement = true := by
      intro t ht
      obtain ⟨e, _, rfl⟩ := List.mem_map.mp ht
      exact isElement_linkMarkup _ _ _
    rw [stripped_element, elementChildren_element, List.map_cons, List.map_cons, stripped_gap,
      List.filter_cons_of_neg (by decide), List.filter_cons_of_neg (by decide), filter_stripped hlinks, List.map_map]
    exact List.forall₂_map_right_iff.mpr (List.forall₂_same.mpr fun e _ =>
      showsLink (by decide +kernel) xml "dropdown-item dropdown-link" "Action" e.label)

lemma isElement_entriesMarkup (T : Tags) (value : Int) (ms : List Menu) :
    ∀ t ∈ T.entriesMarkup value ms, t.isElement = true := by
  induction ms generalizing value with
  | nil => exact fun t ht => absurd ht List.not_mem_nil
  | cons m ms ih =>
    intro t ht
    rw [Tags.entriesMarkup] at ht
    split_ifs at ht
    · rcases List.mem_cons.mp ht with rfl | ht
      · rfl
      · exact ih value t ht
    · rcases List.mem_cons.mp ht with rfl | ht
      · rfl
      · exact ih (value + 1) t ht

lemma showsEntries (xml : Bool) (value : Int) (ms : List Menu) :
    ShowsEntries xml value ms (((packaged xml).entriesMarkup value ms).map stripped) := by
  induction ms generalizing value with
  | nil => exact .nil value
  | cons m ms ih =>
    rw [Tags.entriesMarkup]
    split_ifs with h
    · exact .item h (showsItem xml m.label) (ih value)
    · exact .dropdown (Bool.not_eq_true _ ▸ h) (showsDropdown xml (identifier value) m) (ih (value + 1))

lemma name_align (first : Bool) (css : Option String) (t : Tag) : (align first css t).name = t.name := by
  cases css with
  | none => rfl
  | some css =>
    rw [align, Tag.name_addClasses]
    split_ifs
    · rfl
    · exact Tag.name_removeClass t _

lemma classes_align {t : Tag} (ht : t.classes = ["navbar-nav", "mr-auto"]) (first : Bool) (css : Option String) :
    (align first css t).classes = partClasses first css := by
  cases css with
  | none => exact ht
  | some css =>
    have hadd := fun u : Tag => classes_addClasses u (some css)
    cases first with
    | true => exact (hadd t).trans (by rw [ht]; rfl)
    | false =>
      refine (hadd _).trans ?_
      rw [if_neg Bool.false_ne_true, Tag.classes_removeClass, ht]
      rfl

lemma showsPart (xml : Bool) (value : Int) (first : Bool) (m : Menu) :
    ShowsPart xml value first m (stripped ((packaged xml).partMarkup value first m)) := by
  rw [Tags.partMarkup]
  refine ⟨?_, ?_, ?_⟩
  · rw [stripped_element]
    change some (align first m.cssClass (packaged xml).container).name = _
    rw [name_align]
    rfl
  · have hlist : (packaged xml).container.classes = ["navbar-nav", "mr-auto"] := by cases xml <;> decide +kernel
    rw [classes_stripped, classes_align hlist]
  · have hentries := filter_stripped (isElement_entriesMarkup (packaged xml) value m.entries)
    rw [stripped_element, elementChildren_element, List.map_cons, List.map_cons, List.map_cons, stripped_gap,
      List.filter_cons_of_neg (by decide), List.filter_cons_of_neg (by decide), List.filter_cons_of_neg (by decide),
      hentries]
    exact showsEntries xml value m.entries

lemma showsParts (xml : Bool) (value : Int) (first : Bool) (ms : List Menu) :
    ShowsParts xml value first ms (((packaged xml).partsMarkup value first ms).map stripped) := by
  induction ms generalizing value first with
  | nil => exact .nil value first
  | cons m ms ih => exact .cons (showsPart xml value first m) (ih _ false)

lemma isElement_partsMarkup (T : Tags) (value : Int) (first : Bool) (ms : List Menu) :
    ∀ t ∈ T.partsMarkup value first ms, t.isElement = true := by
  induction ms generalizing value first with
  | nil => exact fun t ht => absurd ht List.not_mem_nil
  | cons m ms ih =>
    intro t ht
    rcases List.mem_cons.mp ht with rfl | ht
    · rfl
    · exact ih _ false t ht

lemma filter_inner (T : Tags) (label : Option Link) (toggler content : Tag) (cs : List (Markup.Tree Unit)) :
    ((gap :: T.brandMarkup label ++ [gap, T.togglerTree toggler, gap, .element () content cs, gap]).map
        stripped).filter Markup.Tree.isElement =
      (T.brandMarkup label).map stripped ++ [stripped (T.togglerTree toggler), stripped (.element () content cs)] := by
  have hbrand : ∀ t ∈ T.brandMarkup label, t.isElement = true := by
    intro t ht
    cases label with
    | none => exact absurd ht List.not_mem_nil
    | some l =>
      rw [List.mem_singleton.mp ht]
      rfl
  rw [List.map_append, List.map_cons, List.filter_append, stripped_gap, List.filter_cons_of_neg (by decide),
    filter_stripped hbrand]
  rfl

lemma filter_between (ts : List (Markup.Tree Unit)) :
    ((gap :: (ts ++ [gap])).map stripped).filter Markup.Tree.isElement = (ts.map stripped).filter Markup.Tree.isElement := by
  rw [List.map_cons, stripped_gap, List.filter_cons_of_neg (by decide), List.map_append, List.filter_append]
  exact List.append_nil _

lemma showsBrand (xml : Bool) (label : Option Link) :
    List.Forall₂ (fun l a => ShowsLink xml "navbar-brand" "Brand" (some l) a) label.toList
      (((packaged xml).brandMarkup label).map stripped) := by
  cases label with
  | none => exact .nil
  | some l => exact .cons (showsLink (by decide +kernel) xml "brand-link" "Brand" (some l)) .nil

lemma showsBar (xml : Bool) (n : Navbar Menu) (parts : List Menu) (value : Int) :
    ShowsBar xml n parts value (stripped ((packaged xml).markup n.cssClass n.inContainer value parts)) := by
  let toggler := (packaged xml).toggler.set "data-target" (.text ("#" ++ identifier value))
  let content := (packaged xml).content.set "id" (.text (identifier value))
  let lists := gap :: gap :: (packaged xml).partsMarkup (value + 1) true parts
  have hinner := filter_inner (packaged xml) (parts.head?.bind Menu.label) toggler content lists
  rw [Tags.markup, Tags.barWith]
  refine ⟨?_, ?_, ((packaged xml).brandMarkup (parts.head?.bind Menu.label)).map stripped,
    stripped ((packaged xml).togglerTree toggler), stripped (.element () content lists), ?_, showsBrand xml _, ?_, ?_, ?_, ?_⟩
  · rw [stripped_element]
    change some ((packaged xml).nav.addClasses _).name = _
    rw [Tag.name_addClasses]
    rfl
  · have hnav : (packaged xml).nav.classes = ["navbar", "navbar-expand-lg"] := by cases xml <;> decide +kernel
    rw [classes_stripped, classes_addClasses, hnav]
  · rw [stripped_element, elementChildren_element]
    cases n.inContainer with
    | false =>
      rw [if_neg Bool.false_ne_true, if_neg Bool.false_ne_true, filter_between]
      exact hinner
    | true =>
      have hbox : (packaged xml).positioning.classes = ["container"] := by cases xml <;> decide +kernel
      rw [if_pos rfl, if_pos rfl, filter_between]
      refine ⟨_, rfl, (classes_stripped _ _).trans hbox, ?_⟩
      rw [stripped_element, elementChildren_element]
      exact hinner
  · rw [Tags.togglerTree, stripped_element]
    change (((packaged xml).toggler.set "data-target" _).remove markerAttribute |>.get? "data-target").map Value.plain = _
    rw [Tag.get?_remove, if_neg (by decide), Tag.get?_set]
    rfl
  · have hcontent : (packaged xml).content.classes = ["collapse", "navbar-collapse"] := by cases xml <;> decide +kernel
    rw [classes_stripped, Tag.classes_set (by decide), hcontent]
  · rw [stripped_element]
    change (((packaged xml).content.set "id" _).remove markerAttribute |>.get? "id").map Value.plain = _
    rw [Tag.get?_remove, if_neg (by decide), Tag.get?_set]
    rfl
  · have hparts := filter_stripped (isElement_partsMarkup (packaged xml) (value + 1) true parts)
    rw [stripped_element, elementChildren_element, List.map_cons, List.map_cons, stripped_gap,
      List.filter_cons_of_neg (by decide), List.filter_cons_of_neg (by decide), hparts]
    exact showsParts xml (value + 1) true parts

variable {μ : Type}

def menus (n : Navbar μ) : List μ := n.menu.toList ++ n.parts.getD []

lemma shown_of {n : Navbar μ} (h : n.menu = none ∨ n.parts = none) : n.shown = .ok n.menus := by
  rw [shown, menus]
  rcases h with h | h
  · rw [h]
    rfl
  · rw [h]
    cases n.menu <;> rfl

lemma shown_eq {n : Navbar μ} {parts : List μ} (h : n.shown = .ok parts) : parts = n.menus := by
  obtain ⟨menu, rest, _, _⟩ := n
  cases menu <;> cases rest <;> cases h <;> rfl

def benchOf (markerName : String) (template : Markup.Tree Unit) (f : Forest) (uids : Allocator) : Bench :=
  ⟨(WorkingCopy.make markerName kind template f).2, uids, (WorkingCopy.make markerName kind template f).1⟩

lemma new_benchOf {T : Tags} {name : String} (hT : T.Marked name) {f : Forest} (hf : f.Sound) (uids : Allocator) :
    New T (benchOf name T.template f uids) := by
  have htree : (f.plant T.template).2.find? f.next = some (T.template.number f.next) := f.find?_plant T.template
  refine ⟨hT, rfl, hf.plant T.template, htree, ?_, rfl⟩
  change Index.build name (f.plant T.template).2 f.next = _
  rw [Index.build, htree, Option.map_some, Option.getD_some]
  rfl

/-- A bar made from the packaged template is rendered and shows its menus. Its identifiers are counted from the value
at which the allocator stands. -/
theorem render_shows {s : Source} (hdir : s.directory = Packaged.directory)
    (hpath : (s.pathOf templateName).utf8ByteSize < Storage.Path.textLimit) {d : Dialect}
    (hparser : Dialect.ofName? s.parser = some d) {n : Navbar Menu} (hn : n.menu = none ∨ n.parts = none)
    {f : Forest} (hf : f.Sound) {uids : Allocator} (hshort : uids.Short (1 + dropdownsIn n.menus)) :
    ∃ template b t, s.readRoot templateName = .ok template ∧
      (Work.once n.render).run (benchOf markerAttribute template f uids) = (.ok f.next, b) ∧
      b.forest.find? f.next = some t ∧ ShowsBar (d == .xml) n n.menus uids.value t.erase := by
  obtain ⟨_, hread⟩ := read_packaged hdir hpath hparser
  have hnew := new_benchOf (marked_packaged (d == .xml)) hf uids
  obtain ⟨b, t, hrun, _, _, htree, herase⟩ := run_once_render hnew (shown_of hn) hshort
  have hstripped : t.erase = stripped ((packaged (d == .xml)).markup n.cssClass n.inContainer uids.value n.menus) :=
    herase
  exact ⟨_, b, t, hread, hrun, htree, hstripped ▸ showsBar (d == .xml) n n.menus uids.value⟩

def sample : Navbar Menu where
  menu := some (.group (some { text := some "Home", href := some "/" }) none
    [.item (some { text := some "News" }) none, .group (some { text := some "More" }) none [.item none none]])

def shelves : Source := ⟨.ofText "templates", Packaged.directory, "html.parser"⟩

theorem sample_shown : ∃ template b t, shelves.readRoot templateName = .ok template ∧
    (Work.once sample.render).run (benchOf markerAttribute template {} ⟨1000, 0⟩) = (.ok 0, b) ∧
    b.forest.find? 0 = some t ∧ ShowsBar false sample sample.menus 1000 t.erase := by
  have hempty : ({} : Forest).Sound := ⟨List.nodup_nil, fun _ hn => absurd hn List.not_mem_nil⟩
  have hshort : (⟨1000, 0⟩ : Allocator).Short (1 + dropdownsIn sample.menus) := by decide +kernel
  exact render_shows (s := shelves) (d := .asWritten) rfl (by decide +kernel) rfl (.inr rfl) hempty hshort

def oneDropdown : Navbar Menu where
  menu := some (.group none none [.group none none []])

def nearlyTooLong : Allocator := ⟨((10 ^ Text.digitLimit - 1 : Nat) : Int), 0⟩

/-- A bar is not rendered where the second identifier has too many digits, nor where the places of the template go by
another attribute. -/
theorem oneDropdown_stops : ∃ template, shelves.readRoot templateName = .ok template ∧
    ((Work.once oneDropdown.render).run (benchOf markerAttribute template {} nearlyTooLong)).1.toOption = none ∧
    ((Work.once oneDropdown.render).run (benchOf "data-slot" template {} ⟨1000, 0⟩)).1.toOption = none := by
  obtain ⟨_, hread⟩ := read_packaged (s := shelves) rfl (by decide +kernel) (d := .asWritten) rfl
  exact ⟨_, hread, by decide +kernel, by decide +kernel⟩

end Navbar

end PageStencil
