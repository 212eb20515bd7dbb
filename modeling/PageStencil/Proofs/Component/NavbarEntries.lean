import PageStencil.Proofs.Component.Made
import PageStencil.Proofs.Component.NavbarMarkup

namespace PageStencil.Navbar

open Markup Stencil Forest Work

variable {T : Tags} {b : Bench}

lemma tree_of_find? {f : Forest} {n : Nat} {t : Markup.Tree Node} (h : f.find? n = some t) : f.tree n = t := by
  rw [Forest.tree, h, Option.getD_some]

lemma run_fill (target : Node) (l : Link) (b : Bench) :
    (fill target l).run b = (.ok (), { b with forest := (b.forest.plant l.tree).2.merge target b.forest.next }) := rfl

def relabelled (t : Markup.Tree Unit) (start k : Nat) : Option Link → Markup.Tree Unit
  | none => t
  | some l => ((t.number start).modify k fun v =>
      (v.withChildren (Markup.Tree.numberAll (start + t.size + 1) l.contents)).mapTag fun t => t.merge l.tag).erase

lemma makes_labelled (hb : b.forest.Sound) {mould : Node} {t : Markup.Tree Unit} (hmould : b.forest.markup? mould = some t)
    {marker : String} (label : Option Link) {k : Nat}
    (hm : (markersOf b.copy.markerName (t.number b.forest.next)).filter (fun e => e.1 == marker) = [(marker, k)]) :
    Makes (labelled mould marker label) b 0 (relabelled t b.forest.next k label) := by
  have hsound := hb.plant t
  have htop := find?_plant b.forest t
  cases label with
  | none =>
    refine makes_of_run hb (labelled_local mould marker none) (run_bind_ok (run_instantiate_of_markup hmould)) rfl ?_
    exact markup?_eq_some.mpr ⟨_, htop, (Markup.Tree.erase_number _ t).trans t.erase_unit⟩
  | some l =>
    have hk : k ∈ (t.number b.forest.next).labels := by
      obtain ⟨tag, he, _⟩ := mem_markersOf.mp (List.mem_of_mem_filter (hm ▸ List.mem_singleton_self (marker, k)))
      exact Markup.Tree.labels_of_elements he
    have htarget : (target (some b.forest.next) marker).run { b with forest := (b.forest.plant t).2 } = (.ok k, _) :=
      run_target_ok (Index.single_build htop hm)
    have hfind := hsound.find?_merge_plant (hsound.lt_of_find? htop hk) (hsound.lt_of_find?_self htop) l.tag l.contents
    rw [htop, Option.map_some] at hfind
    have hrun : (labelled mould marker (some l)).run b = (.ok b.forest.next, { b with
        forest := ((b.forest.plant t).2.plant l.tree).2.merge k (b.forest.plant t).2.next }) := by
      rw [labelled, run_bind_ok (run_instantiate_of_markup hmould), run_bind_ok htarget, run_bind_ok (run_fill _ _ _)]
      rfl
    exact makes_of_run hb (labelled_local mould marker (some l)) hrun rfl (markup?_eq_some.mpr ⟨_, hfind, rfl⟩)

lemma number_itemMould (T : Tags) (n : Nat) :
    T.itemMould.number n = .element n T.item [.leaf (n + 1) lineBreak,
      .element (n + 2) T.itemLink [.leaf (n + 3) (.text "Link")], .leaf (n + 4) lineBreak] := rfl

lemma number_dropdownItemMould (T : Tags) (n : Nat) :
    T.dropdownItemMould.number n = .element n T.dropdownItem [.leaf (n + 1) (.text "Action")] := rfl

lemma erase_merged (n : Nat) (tag : Tag) (old : List (Markup.Tree Node)) (start : Nat) (l : Link) :
    (((Markup.Tree.element n tag old).withChildren (Markup.Tree.numberAll start l.contents)).mapTag
      fun t => t.merge l.tag).erase = .element () (tag.merge l.tag) l.contents := by
  rw [Markup.Tree.withChildren, Markup.Tree.mapTag, Markup.Tree.erase, Markup.Tree.erase_numberAll,
    Markup.Tree.eraseAll_eq, List.map_congr_left fun t _ => Markup.Tree.erase_unit t, List.map_id']

lemma makes_item (hT : T.Marked b.copy.markerName) (hb : b.forest.Sound) {mould : Node}
    (hmould : b.forest.markup? mould = some T.itemMould) (label : Option Link) :
    Makes (labelled mould "item-link" label) b 0 (T.itemMarkup label) := by
  have hm : (markersOf b.copy.markerName (T.itemMould.number b.forest.next)).filter (fun e => e.1 == "item-link") =
      [("item-link", b.forest.next + 2)] := by
    rw [number_itemMould]
    simp [markersOf, Markup.Tree.elements, hT.item, hT.itemLink]
  have hmakes := makes_labelled hb hmould label hm
  cases label with
  | none => exact hmakes
  | some l =>
    rw [relabelled, number_itemMould, Markup.Tree.modify_element (by omega), List.map_cons, List.map_cons, List.map_cons,
      List.map_nil, Markup.Tree.modify_leaf (by omega), Markup.Tree.modify_element_self,
      Markup.Tree.modify_leaf (by omega), Markup.Tree.erase, Markup.Tree.eraseAll, Markup.Tree.eraseAll,
      Markup.Tree.eraseAll, erase_merged] at hmakes
    exact hmakes

lemma makes_dropdownItem (hT : T.Marked b.copy.markerName) (hb : b.forest.Sound) {mould : Node}
    (hmould : b.forest.markup? mould = some T.dropdownItemMould) (label : Option Link) :
    Makes (labelled mould "dropdown-link" label) b 0 (linkMarkup T.dropdownItem "Action" label) := by
  have hm : (markersOf b.copy.markerName (T.dropdownItemMould.number b.forest.next)).filter
      (fun e => e.1 == "dropdown-link") = [("dropdown-link", b.forest.next)] := by
    rw [number_dropdownItemMould]
    simp [markersOf, Markup.Tree.elements, hT.dropdownItem]
  have hmakes := makes_labelled hb hmould label hm
  cases label with
  | none => exact hmakes
  | some l =>
    rw [relabelled, number_dropdownItemMould, Markup.Tree.modify_element_self, erase_merged] at hmakes
    exact hmakes

lemma run_items {parent mould : Nat} (ms : List Menu) (hT : T.Marked b.copy.markerName) (hb : b.forest.Sound)
    (hparent : parent < b.forest.next) (hmould : Forest.Mould parent mould T.dropdownItemMould b.forest) :
    ∃ us f, (appendEach parent (fun m => labelled mould "dropdown-link" m.label) ms).run b =
        (.ok (), { b with forest := f }) ∧ Appended parent us b.forest f ∧
      us.map Markup.Tree.erase = ms.map fun m => linkMarkup T.dropdownItem "Action" m.label := by
  induction ms generalizing b with
  | nil => exact ⟨[], b.forest, rfl, Appended.refl hb parent, rfl⟩
  | cons m ms ih =>
    obtain ⟨u, f, hrun, hput, hu⟩ := (makes_dropdownItem hT hb hmould.markup m.label).run_append hb hparent
      fun _ => appendEach parent (fun m => labelled mould "dropdown-link" m.label) ms
    obtain ⟨us, g, hrest, hputs, hus⟩ := ih (b := { b with forest := f }) hT hput.sound
      (Nat.lt_of_lt_of_le hparent hput.le) (hput.mould hb hmould)
    refine ⟨u :: us, g, hrun.trans hrest, hput.trans hputs, ?_⟩
    rw [List.map_cons, List.map_cons, hu, hus]

lemma number_dropdownMould (T : Tags) (n : Nat) :
    T.dropdownMould.number n = .element n T.dropdown [.leaf (n + 1) lineBreak,
      .element (n + 2) T.dropdownText [.leaf (n + 3) (.text "Dropdown")], .leaf (n + 4) lineBreak,
      .element (n + 5) T.dropdownMenu [.leaf (n + 6) lineBreak,
        .element (n + 7) T.dropdownItem [.leaf (n + 8) (.text "Action")], .leaf (n + 9) lineBreak],
      .leaf (n + 10) lineBreak] := rfl

/-- A dropdown while it is made, its own item taken out: the tag and the text of its toggle, and the tag of its menu. -/
structure Half where
  toggle : Tag
  label : Nat
  text : String
  menu : Tag

def Half.tree (T : Tags) (n : Nat) (h : Half) (items : List (Markup.Tree Node)) : Markup.Tree Node :=
  .element n T.dropdown [.leaf (n + 1) lineBreak, .element (n + 2) h.toggle [.leaf h.label (.text h.text)],
    .leaf (n + 4) lineBreak, .element (n + 5) h.menu (.leaf (n + 6) lineBreak :: .leaf (n + 9) lineBreak :: items),
    .leaf (n + 10) lineBreak]

lemma not_mem_item {n k : Nat} (hk : k < n) : k ∉ (T.dropdownItemMould.number n).labels := fun hm =>
  Nat.not_le.mpr hk (mem_labels_number.mp hm).1

structure Opened (T : Tags) (n : Nat) (h : Half) (f : Forest) : Prop where
  sound : f.Sound
  label : h.label = n + 3 ∨ n + 11 ≤ h.label
  tree : f.find? n = some (h.tree T n [])
  item : f.find? (n + 7) = some (T.dropdownItemMould.number (n + 7))
  le : n + 11 ≤ f.next

namespace Opened

variable {T : Tags} {n : Nat} {h : Half} {f : Forest}

lemma setText (ho : Opened T n h f) (s : String) :
    Opened T n { h with label := f.next, text := s } (f.setText? (n + 2) (some s)) where
  sound := ho.sound.setText? _ _
  label := Or.inr ho.le
  tree := by
    have hle := ho.le
    rw [ho.sound.find?_setText? (by omega), ho.tree, Option.map_some, Half.tree, Markup.Tree.modify_element (by omega)]
    simp [Half.tree, Markup.Tree.modify_element, Markup.Tree.modify_leaf, Markup.Tree.modify_element_self,
      Markup.Tree.withChildren]
  item := by
    have hle := ho.le
    rw [ho.sound.find?_setText? (by omega), ho.item, Option.map_some,
      Markup.Tree.modify_of_not_mem (not_mem_item (by omega))]
  le := by
    have hle := ho.le
    rw [Forest.setText?]
    change n + 11 ≤ (f.clear (n + 2)).next + 1
    rw [Confined.next_clear]
    omega

lemma setToggle (ho : Opened T n h f) (change : Tag → Tag) :
    Opened T n { h with toggle := change h.toggle } (f.setTag (n + 2) change) where
  sound := ho.sound.setTag _ _
  label := ho.label
  tree := by
    rw [ho.sound.find?_setTag, ho.tree, Option.map_some, Half.tree, Markup.Tree.modify_element (by omega)]
    simp [Half.tree, Markup.Tree.modify_element, Markup.Tree.modify_leaf, Markup.Tree.modify_element_self,
      Markup.Tree.mapTag]
  item := by
    rw [ho.sound.find?_setTag, ho.item, Option.map_some, Markup.Tree.modify_of_not_mem (not_mem_item (by omega))]
  le := ho.le

lemma setMenu (ho : Opened T n h f) (change : Tag → Tag) :
    Opened T n { h with menu := change h.menu } (f.setTag (n + 5) change) where
  sound := ho.sound.setTag _ _
  label := ho.label
  tree := by
    have hl : h.label ≠ n + 5 := by have := ho.label; omega
    rw [ho.sound.find?_setTag, ho.tree, Option.map_some, Half.tree, Markup.Tree.modify_element (by omega)]
    simp [Half.tree, Markup.Tree.modify_element, Markup.Tree.modify_leaf, Markup.Tree.modify_element_self,
      Markup.Tree.mapTag, hl]
  item := by
    rw [ho.sound.find?_setTag, ho.item, Option.map_some, Markup.Tree.modify_of_not_mem (not_mem_item (by omega))]
  le := ho.le

end Opened

lemma opened_mould {name : String} (hT : T.Marked name) {f : Forest} (hf : f.Sound) {n : Nat}
    (htop : f.find? n = some (T.dropdownMould.number n)) :
    (Index.build name f n).single f "dropdown-text" = .ok (n + 2) ∧
      (Index.build name f n).single f "dropdown-container" = .ok (n + 5) ∧
      (Index.build name f (n + 5)).single f "dropdown-item" = .ok (n + 7) ∧
      Opened T n ⟨T.dropdownText, n + 3, "Dropdown", T.dropdownMenu⟩ (f.detach (n + 7)) := by
  have hbelow : ∀ k, n ≤ k → k < n + 11 → f.find? k = (T.dropdownMould.number n).find? k := by
    intro k hle hlt
    exact hf.find?_of_mem htop (mem_labels_number.mpr ⟨hle, hlt⟩)
  have hmenu : f.find? (n + 5) = some (.element (n + 5) T.dropdownMenu
      [.leaf (n + 6) lineBreak, T.dropdownItemMould.number (n + 7), .leaf (n + 9) lineBreak]) := by
    rw [hbelow (n + 5) (by omega) (by omega), number_dropdownMould, number_dropdownItemMould]
    simp [Markup.Tree.find?]
  have hitem : f.find? (n + 7) = some (T.dropdownItemMould.number (n + 7)) := by
    rw [hbelow (n + 7) (by omega) (by omega), number_dropdownMould, number_dropdownItemMould]
    simp [Markup.Tree.find?]
  refine ⟨?_, ?_, ?_, hf.detach _, Or.inl rfl, ?_, ?_, ?_⟩
  · refine Index.single_build htop ?_
    rw [number_dropdownMould]
    simp [markersOf, Markup.Tree.elements, hT.dropdown, hT.dropdownText, hT.dropdownMenu, hT.dropdownItem]
  · refine Index.single_build htop ?_
    rw [number_dropdownMould]
    simp [markersOf, Markup.Tree.elements, hT.dropdown, hT.dropdownText, hT.dropdownMenu, hT.dropdownItem]
  · refine Index.single_build hmenu ?_
    rw [number_dropdownItemMould]
    simp [markersOf, Markup.Tree.elements, hT.dropdownMenu, hT.dropdownItem]
  · rw [hf.find?_detach, htop, Option.map_some, number_dropdownMould]
    simp [Half.tree, Markup.Tree.without, Markup.Tree.label, Markup.Tree.inside, Markup.Tree.replace]
  · rw [hf.find?_detach, hitem, Option.map_some, Markup.Tree.without_number]
  · have hlast : n + 10 ∈ (T.dropdownMould.number n).labels := by
      rw [number_dropdownMould]
      simp [Markup.Tree.labels]
    have hlt := hf.lt_of_find? htop hlast
    have hle := (Confined.detach hf.beside_nil (Sound.outside_nil (n + 7))).le
    omega

def named (f : Forest) (n : Nat) (text : Option String) (uid : String) (cssClass : Option String) : Forest :=
  ((f.setText? (n + 2) text).setTag (n + 2) fun t => t.set "id" (.text uid)).setTag (n + 5)
    fun t => (t.set "aria-labelledby" (.text uid)).addClasses (.ofText? cssClass)

lemma opened_named {n : Nat} {f : Forest} (ho : Opened T n ⟨T.dropdownText, n + 3, "Dropdown", T.dropdownMenu⟩ f)
    (text : Option String) (uid : String) (cssClass : Option String) :
    ∃ label, Opened T n ⟨T.dropdownText.set "id" (.text uid), label, text.getD "Dropdown",
      (T.dropdownMenu.set "aria-labelledby" (.text uid)).addClasses (.ofText? cssClass)⟩ (named f n text uid cssClass) := by
  have hlabel : ∃ label, Opened T n ⟨T.dropdownText, label, text.getD "Dropdown", T.dropdownMenu⟩
      (f.setText? (n + 2) text) := by
    cases text with
    | none => exact ⟨n + 3, ho⟩
    | some s => exact ⟨_, ho.setText s⟩
  obtain ⟨label, hl⟩ := hlabel
  exact ⟨label, (hl.setToggle fun t => t.set "id" (.text uid)).setMenu
    fun t => (t.set "aria-labelledby" (.text uid)).addClasses (.ofText? cssClass)⟩

lemma Opened.find?_appended {n : Nat} {h : Half} {f g : Forest} (ho : Opened T n h f) {items : List (Markup.Tree Node)}
    (hput : Appended (n + 5) items f g) : g.find? n = some (h.tree T n items) := by
  have hl : h.label ≠ n + 5 := by have := ho.label; omega
  have hle := ho.le
  rw [hput.find n (by omega), ho.tree, Option.map_some, Half.tree, Markup.Tree.modify_element (by omega)]
  simp [Half.tree, Markup.Tree.modify_element, Markup.Tree.modify_leaf, Markup.Tree.modify_element_self,
    Markup.Tree.append, hl]

lemma Opened.mould {n : Nat} {h : Half} {f : Forest} (ho : Opened T n h f) :
    Forest.Mould (n + 5) (n + 7) T.dropdownItemMould f := by
  exact ⟨_, ho.item, (Markup.Tree.erase_number _ _).trans (Markup.Tree.erase_unit _), not_mem_item (by omega)⟩

lemma erase_half (T : Tags) (n : Nat) (h : Half) (items : List (Markup.Tree Node)) :
    (h.tree T n items).erase = .element () T.dropdown [gap, .element () h.toggle [words h.text], gap,
      .element () h.menu (gap :: gap :: items.map Markup.Tree.erase), gap] := by
  rw [Half.tree]
  simp only [Markup.Tree.erase, Markup.Tree.eraseAll, Markup.Tree.eraseAll_eq]
  rfl

lemma run_nextId_of_short {b : Bench} (hshort : b.uids.Short 1) {k : String} (hkind : b.copy.kind = k) :
    nextId.run b = (.ok (k ++ "-" ++ toString b.uids.value), { b with uids := b.uids.skip 1 }) := by
  rw [run_nextId, Allocator.next?_of_short hshort, hkind]

lemma run_nextId_of_long {b : Bench} (hlong : ¬ b.uids.Short 1) :
    nextId.run b = (.error .identifierTooLong, { b with uids := b.uids.skip 1 }) := by
  rw [run_nextId, Allocator.next?_of_long hlong]

lemma run_nextId_short {b : Bench} (hshort : b.uids.Short 1) (hkind : b.copy.kind = kind) :
    nextId.run b = (.ok (identifier b.uids.value), { b with uids := b.uids.skip 1 }) :=
  run_nextId_of_short hshort hkind

lemma run_opened (hT : T.Marked b.copy.markerName) (hb : b.forest.Sound) {n : Nat}
    (htop : b.forest.find? n = some (T.dropdownMould.number n)) {α : Type} (k : Node → Node → Node → Work α) :
    (target (some n) "dropdown-text" >>= fun text => target (some n) "dropdown-container" >>= fun container =>
        takeTarget (some container) "dropdown-item" >>= fun item => k text container item).run b =
      (k (n + 2) (n + 5) (n + 7)).run { b with forest := b.forest.detach (n + 7) } := by
  obtain ⟨htext, hcontainer, hitem, _⟩ := opened_mould hT hb htop
  have htarget : (target (some n) "dropdown-text").run b = (.ok (n + 2), b) := run_target_ok htext
  have htarget' : (target (some n) "dropdown-container").run b = (.ok (n + 5), b) := run_target_ok hcontainer
  rw [run_bind_ok htarget, run_bind_ok htarget', run_bind_ok (run_takeTarget_below hitem)]

def dropdownFrom (m : Menu) (n text container item : Node) : Work Node := do
  Work.edit fun f => f.setText? text (m.label.bind Link.text)
  let uid ← Work.nextId
  Work.setTag text fun t => t.set "id" (.text uid)
  Work.setTag container fun t => (t.set "aria-labelledby" (.text uid)).addClasses (.ofText? m.cssClass)
  Work.appendEach container (fun m => labelled item "dropdown-link" m.label) m.entries
  return n

lemma run_dropdown_eq (hT : T.Marked b.copy.markerName) (hb : b.forest.Sound) {mould : Node}
    (hmould : b.forest.markup? mould = some T.dropdownMould) (m : Menu) : (dropdown mould m).run b =
      (dropdownFrom m b.forest.next (b.forest.next + 2) (b.forest.next + 5) (b.forest.next + 7)).run
        { b with forest := (b.forest.plant T.dropdownMould).2.detach (b.forest.next + 7) } := by
  rw [dropdown, run_bind_ok (run_instantiate_of_markup hmould)]
  exact run_opened (b := { b with forest := (b.forest.plant T.dropdownMould).2 }) hT (hb.plant _) (find?_plant _ _)
    (dropdownFrom m b.forest.next)

lemma run_dropdownFrom (hT : T.Marked b.copy.markerName) (hkind : b.copy.kind = kind) {n : Nat} (m : Menu)
    (ho : Opened T n ⟨T.dropdownText, n + 3, "Dropdown", T.dropdownMenu⟩ b.forest) (hshort : b.uids.Short 1) :
    ∃ f, (dropdownFrom m n (n + 2) (n + 5) (n + 7)).run b = (.ok n, { b with forest := f, uids := b.uids.skip 1 }) ∧
      f.markup? n = some (T.dropdownMarkup (identifier b.uids.value) m) := by
  obtain ⟨label, hnamed⟩ := opened_named ho (m.label.bind Link.text) (identifier b.uids.value) m.cssClass
  have hle := hnamed.le
  obtain ⟨us, f, hitems, hput, hus⟩ := run_items (b := { b with
    forest := named b.forest n (m.label.bind Link.text) (identifier b.uids.value) m.cssClass
    uids := b.uids.skip 1 }) m.entries hT hnamed.sound (by dsimp only; omega) hnamed.mould
  have hid : ∀ f : Forest, nextId.run { b with forest := f } =
      (.ok (identifier b.uids.value), { b with forest := f, uids := b.uids.skip 1 }) :=
    fun f => run_nextId_short hshort hkind
  refine ⟨f, ?_, markup?_eq_some.mpr ⟨_, hnamed.find?_appended hput, ?_⟩⟩
  · rw [dropdownFrom, run_bind_ok (run_edit _ _), run_bind_ok (hid _), run_bind_ok (run_setTag _ _ _),
      run_bind_ok (run_setTag _ _ _)]
    exact run_bind_ok hitems
  · rw [erase_half, hus]
    rfl

lemma makes_dropdown (hT : T.Marked b.copy.markerName) (hkind : b.copy.kind = kind) (hb : b.forest.Sound) {mould : Node}
    (hmould : b.forest.markup? mould = some T.dropdownMould) (m : Menu) (hshort : b.uids.Short 1) :
    Makes (dropdown mould m) b 1 (T.dropdownMarkup (identifier b.uids.value) m) := by
  obtain ⟨_, _, _, hopened⟩ := opened_mould hT (hb.plant T.dropdownMould) (find?_plant b.forest T.dropdownMould)
  obtain ⟨f, hrun, hmarkup⟩ := run_dropdownFrom (b := { b with
    forest := (b.forest.plant T.dropdownMould).2.detach (b.forest.next + 7) }) hT hkind m hopened hshort
  exact makes_of_run hb (dropdown_local mould m) ((run_dropdown_eq hT hb hmould m).trans hrun) rfl hmarkup

def Tags.shell (T : Tags) : Markup.Tree Unit := .element () T.container [gap, gap, gap]

structure Moulds.Of (T : Tags) (moulds : Moulds) (f : Forest) : Prop where
  container : f.markup? moulds.container = some T.shell
  item : f.markup? moulds.item = some T.itemMould
  dropdown : f.markup? moulds.dropdown = some T.dropdownMould

lemma Moulds.Of.added {moulds : Moulds} {f g : Forest} (h : moulds.Of T f) (hf : f.Sound)
    (hg : Confined f.trees f g) {parent : Nat} (hparent : f.next ≤ parent) :
    Forest.Mould parent moulds.item T.itemMould g ∧ Forest.Mould parent moulds.dropdown T.dropdownMould g :=
  ⟨mould_of_added hf hg h.item hparent, mould_of_added hf hg h.dropdown hparent⟩

lemma dropdowns_cons (m : Menu) (ms : List Menu) : dropdowns (m :: ms) = dropdowns [m] + dropdowns ms := by
  rw [dropdowns, dropdowns, dropdowns, ← List.length_append, ← List.filter_append, List.singleton_append]

lemma entriesMarkup_cons (T : Tags) (value : Int) (m : Menu) (ms : List Menu) :
    T.entriesMarkup value (m :: ms) = T.entriesMarkup value [m] ++ T.entriesMarkup (value + dropdowns [m]) ms := by
  cases h : m.isLeaf <;> simp [Tags.entriesMarkup, dropdowns, h]

variable {moulds : Moulds}

lemma makes_entry (hT : T.Marked b.copy.markerName) (hkind : b.copy.kind = kind) (hb : b.forest.Sound)
    (hitem : b.forest.markup? moulds.item = some T.itemMould)
    (hdropdown : b.forest.markup? moulds.dropdown = some T.dropdownMould) (m : Menu)
    (hshort : b.uids.Short (dropdowns [m])) :
    ∃ t, Makes (entry moulds m) b (dropdowns [m]) t ∧ [t] = T.entriesMarkup b.uids.value [m] := by
  rw [entry]
  cases h : m.isLeaf with
  | true =>
    have hd : dropdowns [m] = 0 := by simp [dropdowns, h]
    refine ⟨_, hd ▸ makes_item hT hb hitem m.label, ?_⟩
    rw [Tags.entriesMarkup, if_pos h, Tags.entriesMarkup]
  | false =>
    have hd : dropdowns [m] = 1 := by simp [dropdowns, h]
    refine ⟨_, hd ▸ makes_dropdown hT hkind hb hdropdown m (hd ▸ hshort), ?_⟩
    rw [Tags.entriesMarkup, h, if_neg Bool.false_ne_true, Tags.entriesMarkup]

lemma run_entries {parent : Nat} (hT : T.Marked b.copy.markerName) (hkind : b.copy.kind = kind) (hb : b.forest.Sound)
    (hparent : parent < b.forest.next) (hitem : Forest.Mould parent moulds.item T.itemMould b.forest)
    (hdropdown : Forest.Mould parent moulds.dropdown T.dropdownMould b.forest) (ms : List Menu)
    (hshort : b.uids.Short (dropdowns ms)) :
    ∃ us f, (appendEach parent (entry moulds) ms).run b =
        (.ok (), { b with forest := f, uids := b.uids.skip (dropdowns ms) }) ∧ Appended parent us b.forest f ∧
      us.map Markup.Tree.erase = T.entriesMarkup b.uids.value ms := by
  induction ms generalizing b with
  | nil => exact ⟨[], b.forest, rfl, Appended.refl hb parent, rfl⟩
  | cons m ms ih =>
    rw [dropdowns_cons] at hshort ⊢
    obtain ⟨t, hmakes, ht⟩ := makes_entry hT hkind hb hitem.markup hdropdown.markup m hshort.left
    obtain ⟨u, f, hrun, hput, hu⟩ := hmakes.run_append hb hparent fun _ => appendEach parent (entry moulds) ms
    obtain ⟨us, g, hrest, hputs, hus⟩ := ih (b := { b with forest := f, uids := b.uids.skip (dropdowns [m]) }) hT hkind
      hput.sound (Nat.lt_of_lt_of_le hparent hput.le) (hput.mould hb hitem) (hput.mould hb hdropdown) hshort.right
    rw [Allocator.skip_skip] at hrest
    refine ⟨u :: us, g, hrun.trans hrest, hput.trans hputs, ?_⟩
    rw [entriesMarkup_cons, ← ht, List.map_cons, hu, hus, Allocator.value_skip, List.singleton_append]

lemma added_shell {f : Forest} (hf : f.Sound) (T : Tags) (change : Tag → Tag) :
    Confined f.trees f ((f.plant T.shell).2.setTag f.next change) ∧ f.next < (f.plant T.shell).2.next ∧
      ((f.plant T.shell).2.setTag f.next change).find? f.next = some ((T.shell.number f.next).mapTag change) := by
  have hplant := Confined.plant f.trees f T.shell
  have htop := find?_plant f T.shell
  refine ⟨hplant.trans (Confined.setTag (hplant.beside hf.beside_self)
    (hf.beside_self.outside_of_le (Nat.le_refl _)) change), (hf.plant T.shell).lt_of_find?_self htop, ?_⟩
  rw [(hf.plant T.shell).find?_setTag, htop, Option.map_some, Tags.shell, Markup.Tree.number,
    Markup.Tree.modify_element_self]

lemma makes_part (hT : T.Marked b.copy.markerName) (hkind : b.copy.kind = kind) (hb : b.forest.Sound)
    (hm : moulds.Of T b.forest) (first : Bool) (m : Menu) (hshort : b.uids.Short (dropdowns m.entries)) :
    Makes (part moulds first m) b (dropdowns m.entries) (T.partMarkup b.uids.value first m) := by
  obtain ⟨hadded, hlt, htop⟩ := added_shell hb T (align first m.cssClass)
  obtain ⟨hitem, hdropdown⟩ := hm.added hb hadded (Nat.le_refl _)
  obtain ⟨us, f, hrun, hput, hus⟩ := run_entries (b := { b with
    forest := (b.forest.plant T.shell).2.setTag b.forest.next (align first m.cssClass) })
    hT hkind (hadded.added hb).1 hlt hitem hdropdown m.entries hshort
  have hpart : (part moulds first m).run b =
      (.ok b.forest.next, { b with forest := f, uids := b.uids.skip (dropdowns m.entries) }) := by
    rw [part, run_bind_ok (run_instantiate_of_markup hm.container), run_bind_ok (run_setTag _ _ _)]
    exact run_bind_ok hrun
  have hfound : f.find? b.forest.next =
      some (((T.shell.number b.forest.next).mapTag (align first m.cssClass)).append us) := by
    rw [hput.find _ hlt, htop, Option.map_some, Tags.shell, Markup.Tree.number, Markup.Tree.mapTag,
      Markup.Tree.modify_element_self]
  refine makes_of_run hb (part_local moulds first m) hpart rfl (markup?_eq_some.mpr ⟨_, hfound, ?_⟩)
  rw [Markup.Tree.erase_append, hus]
  rfl

end PageStencil.Navbar
