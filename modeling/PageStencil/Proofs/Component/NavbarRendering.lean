import Mathlib.Algebra.GroupWithZero.Nat
import PageStencil.Proofs.Component.NavbarEntries

/-!
A navigation bar as it is rendered: once the moulds are taken out of the template, each step changes one of its places,
and the parts are put in one after the other.
-/

namespace PageStencil.Navbar

open Markup Stencil Forest Work

/-- What stands in a copy of a template that begins at a number, its markers still there. The first three nodes of
the content are blank. -/
structure Bar where
  nav : Tag
  boxed : Bool
  brand : List (Markup.Tree Node)
  toggler : Tag
  content : Tag
  contents : List (Markup.Tree Node)

namespace Bar

def inner (T : Tags) (r : Nat) (bar : Bar) : List (Markup.Tree Node) :=
  .leaf (r + 3) lineBreak :: bar.brand ++ [.leaf (r + 6) lineBreak,
    .element (r + 7) bar.toggler [.leaf (r + 8) lineBreak, .element (r + 9) T.icon [], .leaf (r + 10) lineBreak],
    .leaf (r + 11) lineBreak, .element (r + 12) bar.content bar.contents, .leaf (r + 35) lineBreak]

def tree (T : Tags) (r : Nat) (bar : Bar) : Markup.Tree Node :=
  .element r bar.nav (.leaf (r + 1) lineBreak ::
    ((if bar.boxed then [.element (r + 2) T.positioning (bar.inner T r)] else bar.inner T r) ++
      [.leaf (r + 36) lineBreak]))

end Bar

def brandMould (T : Tags) (r : Nat) : Markup.Tree Node := .element (r + 4) T.brand [.leaf (r + 5) (.text "Brand")]

def barOf (T : Tags) (r : Nat) (moulds : List (Markup.Tree Node)) : Bar where
  nav := T.nav
  boxed := true
  brand := [brandMould T r]
  toggler := T.toggler
  content := T.content
  contents := .leaf (r + 13) lineBreak :: moulds ++ [.leaf (r + 34) lineBreak]

lemma number_template (T : Tags) (r : Nat) :
    T.template.number r = (barOf T r [.element (r + 14) T.container [.leaf (r + 15) lineBreak,
      T.itemMould.number (r + 16), .leaf (r + 21) lineBreak, T.dropdownMould.number (r + 22),
      .leaf (r + 33) lineBreak]]).tree T r := by
  simp [Tags.template, Tags.barWith, Tags.togglerTree, Tags.containerMould, Tags.itemMould, Tags.itemWith,
    Tags.dropdownMould, Tags.dropdownItemMould, gap, words, lineBreak, barOf, brandMould, Bar.tree, Bar.inner,
    Markup.Tree.number, Markup.Tree.numberAll, Markup.Tree.size, Markup.Tree.sizeAll, Nat.add_assoc]

lemma Bar.find?_content {T : Tags} {r : Nat} {bar : Bar} {f : Forest} (hf : f.Sound)
    (h : f.find? r = some (bar.tree T r)) : f.find? (r + 12) = some (.element (r + 12) bar.content bar.contents) := by
  have hinner : ∀ {n : Nat} {tag : Tag} {cs : List (Markup.Tree Node)}, f.find? n = some (.element n tag cs) →
      (∀ t ∈ bar.inner T r, t ∈ cs) → f.find? (r + 12) = some (.element (r + 12) bar.content bar.contents) :=
    fun hn hcs => hf.find?_child hn (hcs (.element (r + 12) bar.content bar.contents) (by simp [inner]))
  cases hb : bar.boxed with
  | false => exact hinner h fun t ht => by simp [hb, ht]
  | true =>
    have hbox := hf.find?_child h (c := .element (r + 2) T.positioning (bar.inner T r))
      (by simp [tree, Markup.Tree.children, hb])
    exact hinner hbox fun t ht => ht

def places (r : Nat) : List (String × Node) :=
  [("positioning", r + 2), ("brand-link", r + 4), ("toggler", r + 7), ("content", r + 12)]

lemma markersOf_template {T : Tags} {name : String} (hT : T.Marked name) (r : Nat) :
    markersOf name (T.template.number r) = places r ++ [("container", r + 14), ("item", r + 16), ("item-link", r + 18),
      ("dropdown", r + 22), ("dropdown-text", r + 24), ("dropdown-container", r + 27), ("dropdown-item", r + 29),
      ("dropdown-link", r + 29)] := by
  rw [number_template, number_itemMould, number_dropdownMould]
  simp [markersOf, barOf, Bar.tree, Bar.inner, brandMould, places, Markup.Tree.elements, Markup.Tree.elementsOfAll, hT.nav,
    hT.positioning, hT.brand, hT.toggler, hT.icon, hT.content, hT.container, hT.item, hT.itemLink, hT.dropdown,
    hT.dropdownText, hT.dropdownMenu, hT.dropdownItem]

/-- The moulds stand by themselves, and the rest is a bar whose nodes are old or new. -/
structure Taken (T : Tags) (r : Nat) (bar : Bar) (f : Forest) : Prop where
  sound : f.Sound
  tree : f.find? r = some (bar.tree T r)
  container : f.find? (r + 14) = some (.element (r + 14) T.container
    [.leaf (r + 15) lineBreak, .leaf (r + 21) lineBreak, .leaf (r + 33) lineBreak])
  item : f.find? (r + 16) = some (T.itemMould.number (r + 16))
  dropdown : f.find? (r + 22) = some (T.dropdownMould.number (r + 22))
  apart : ∀ k : Nat, k ∈ (bar.brand ++ bar.contents).flatMap Markup.Tree.labels →
    k = r + 4 ∨ k = r + 5 ∨ k = r + 13 ∨ k = r + 34 ∨ r + 37 ≤ k
  le : r + 37 ≤ f.next

lemma size_template (T : Tags) : T.template.size = 37 := by
  simp [Tags.template, Tags.barWith, Tags.togglerTree, Tags.containerMould, Tags.itemMould, Tags.itemWith,
    Tags.dropdownMould, Tags.dropdownItemMould, gap, words, Markup.Tree.size, Markup.Tree.sizeAll]

def containerWith (T : Tags) (r : Nat) (items dropdowns : List (Markup.Tree Node)) : Markup.Tree Node :=
  .element (r + 14) T.container (.leaf (r + 15) lineBreak :: items ++ .leaf (r + 21) lineBreak :: dropdowns ++
    [.leaf (r + 33) lineBreak])

lemma find?_container {T : Tags} {r : Nat} {f : Forest} (hf : f.Sound) (ht : f.find? r = some (T.template.number r)) :
    f.find? (r + 14) = some (containerWith T r [T.itemMould.number (r + 16)] [T.dropdownMould.number (r + 22)]) := by
  rw [number_template] at ht
  exact hf.find?_child (Bar.find?_content hf ht)
    (c := containerWith T r [T.itemMould.number (r + 16)] [T.dropdownMould.number (r + 22)])
    (by simp [barOf, Markup.Tree.children, containerWith])

lemma single_container {T : Tags} {name : String} (hT : T.Marked name) {r : Nat} {f : Forest}
    (ht : f.find? r = some (T.template.number r)) :
    (Index.mk r (markersOf name (T.template.number r))).single f "container" = .ok (r + 14) := by
  refine Index.single_of_found ?_ ?_
  · rw [markersOf_template hT]
    simp [places]
  · rw [Forest.within, ht, Option.map_some, Option.getD_some, Markup.Tree.contains_iff, mem_labels_number]
    exact ⟨Nat.le_add_right r 14, Nat.add_lt_add_left (size_template T ▸ by decide) r⟩

lemma forget_container {T : Tags} {name : String} (hT : T.Marked name) {r : Nat} {f : Forest} (hf : f.Sound)
    (ht : f.find? r = some (T.template.number r)) :
    (Index.mk r (markersOf name (T.template.number r))).forget (Index.gone f (r + 14)) = ⟨r, places r⟩ := by
  rw [Index.gone, find?_container hf ht, Option.map_some, Option.getD_some, markersOf_template hT, number_itemMould,
    number_dropdownMould]
  simp [Index.forget, places, containerWith, Markup.Tree.elements]

section Takes

variable {T : Tags} {name : String} {r : Nat} {f : Forest}

lemma find?_container_taken (hf : f.Sound) (ht : f.find? r = some (T.template.number r)) :
    (f.detach (r + 14)).find? (r + 14) =
      some (containerWith T r [T.itemMould.number (r + 16)] [T.dropdownMould.number (r + 22)]) := by
  rw [hf.find?_detach, find?_container hf ht, Option.map_some]
  exact congrArg some (Markup.Tree.without_self _)

lemma find?_container_without_item (hf : f.Sound) (ht : f.find? r = some (T.template.number r)) :
    ((f.detach (r + 14)).detach (r + 16)).find? (r + 14) =
      some (containerWith T r [] [T.dropdownMould.number (r + 22)]) := by
  rw [(hf.detach _).find?_detach, find?_container_taken hf ht, Option.map_some, number_itemMould, number_dropdownMould]
  simp [containerWith, Markup.Tree.without, Markup.Tree.label, Markup.Tree.inside, Markup.Tree.replace]

lemma single_item (hT : T.Marked name) (hf : f.Sound) (ht : f.find? r = some (T.template.number r)) :
    (Index.build name (f.detach (r + 14)) (r + 14)).single (f.detach (r + 14)) "item" = .ok (r + 16) := by
  refine Index.single_build (find?_container_taken hf ht) ?_
  rw [number_itemMould, number_dropdownMould]
  simp [containerWith, markersOf, Markup.Tree.elements, hT.container, hT.item, hT.itemLink, hT.dropdown,
    hT.dropdownText, hT.dropdownMenu, hT.dropdownItem]

lemma single_dropdown (hT : T.Marked name) (hf : f.Sound) (ht : f.find? r = some (T.template.number r)) :
    (Index.build name ((f.detach (r + 14)).detach (r + 16)) (r + 14)).single ((f.detach (r + 14)).detach (r + 16))
      "dropdown" = .ok (r + 22) := by
  refine Index.single_build (find?_container_without_item hf ht) ?_
  rw [number_dropdownMould]
  simp [containerWith, markersOf, Markup.Tree.elements, hT.container, hT.dropdown, hT.dropdownText, hT.dropdownMenu,
    hT.dropdownItem]

lemma find?_takes (hf : f.Sound) (a b c k : Nat) : (((f.detach a).detach b).detach c).find? k =
    (((f.find? k).map (Markup.Tree.without a)).map (Markup.Tree.without b)).map (Markup.Tree.without c) := by
  rw [((hf.detach a).detach b).find?_detach, (hf.detach a).find?_detach, hf.find?_detach]

lemma taken_template (hf : f.Sound) (ht : f.find? r = some (T.template.number r)) :
    Taken T r (barOf T r []) (((f.detach (r + 14)).detach (r + 16)).detach (r + 22)) := by
  have hcontainer := find?_container hf ht
  have hitem := hf.find?_child hcontainer (c := T.itemMould.number (r + 16))
    (by simp [containerWith, Markup.Tree.children])
  have hdropdown := hf.find?_child hcontainer (c := T.dropdownMould.number (r + 22))
    (by simp [containerWith, Markup.Tree.children])
  rw [Markup.Tree.label_number] at hitem hdropdown
  have hout : ∀ {m : Markup.Tree Unit} {start k : Nat}, ¬(start ≤ k ∧ k < start + m.size) →
      k ∉ (m.number start).labels := fun h hm => h (mem_labels_number.mp hm)
  refine ⟨((hf.detach _).detach _).detach _, ?_, ?_, ?_, ?_, ?_, ?_⟩
  · have hwithout : (T.template.number r).without (r + 14) = (barOf T r []).tree T r := by
      rw [number_template]
      simp [barOf, Bar.tree, Bar.inner, brandMould, Markup.Tree.without, Markup.Tree.label, Markup.Tree.inside,
        Markup.Tree.replace]
    have hlabels : ((barOf T r []).tree T r).labels = [r, r + 1, r + 2, r + 3, r + 4, r + 5, r + 6, r + 7, r + 8, r + 9,
        r + 10, r + 11, r + 12, r + 13, r + 34, r + 35, r + 36] := by
      simp [barOf, Bar.tree, Bar.inner, brandMould, Markup.Tree.labels]
    rw [find?_takes hf, ht, Option.map_some, Option.map_some, Option.map_some, hwithout,
      Markup.Tree.without_of_not_mem (n := r + 16) (by simp [hlabels]),
      Markup.Tree.without_of_not_mem (n := r + 22) (by simp [hlabels])]
  · rw [((hf.detach _).detach _).find?_detach, find?_container_without_item hf ht, Option.map_some, number_dropdownMould]
    simp [containerWith, Markup.Tree.without, Markup.Tree.label, Markup.Tree.inside, Markup.Tree.replace]
  · rw [find?_takes hf, hitem, Option.map_some, Option.map_some, Option.map_some,
      Markup.Tree.without_of_not_mem (n := r + 14) (hout (by omega)), Markup.Tree.without_number,
      Markup.Tree.without_of_not_mem (n := r + 22) (hout (by rw [show T.itemMould.size = 5 from rfl]; omega))]
  · rw [find?_takes hf, hdropdown, Option.map_some, Option.map_some, Option.map_some,
      Markup.Tree.without_of_not_mem (n := r + 14) (hout (by omega)),
      Markup.Tree.without_of_not_mem (n := r + 16) (hout (by omega)), Markup.Tree.without_number]
  · intro k hk
    simp [barOf, brandMould, Markup.Tree.labels] at hk
    tauto
  · have hlast : r + 36 ∈ (T.template.number r).labels := by
      rw [mem_labels_number, size_template]
      omega
    have hlt := hf.lt_of_find? ht hlast
    have h₁ := (Confined.detach hf.beside_nil (Sound.outside_nil (r + 14))).le
    have h₂ := (Confined.detach (hf.detach (r + 14)).beside_nil (Sound.outside_nil (r + 16))).le
    have h₃ := (Confined.detach ((hf.detach (r + 14)).detach (r + 16)).beside_nil (Sound.outside_nil (r + 22))).le
    omega

end Takes

lemma map_modify_of_not_mem {n : Nat} {ts : List (Markup.Tree Node)} (h : n ∉ ts.flatMap Markup.Tree.labels)
    (change : Markup.Tree Node → Markup.Tree Node) : ts.map (Markup.Tree.modify n change) = ts := by
  conv_rhs => rw [← List.map_id ts]
  refine List.map_congr_left fun t ht => Markup.Tree.modify_of_not_mem (fun hn => h ?_) change
  exact List.mem_flatMap.mpr ⟨t, ht, hn⟩

lemma Bar.modify_brand {T : Tags} {r : Nat} {bar : Bar} {u : Markup.Tree Node} (hbrand : bar.brand = [u])
    (hu : u.label = r + 4) (hcontents : r + 4 ∉ bar.contents.flatMap Markup.Tree.labels)
    (change : Markup.Tree Node → Markup.Tree Node) :
    (bar.tree T r).modify (r + 4) change = ({ bar with brand := [change u] } : Bar).tree T r := by
  have hmould := map_modify_of_not_mem hcontents change
  cases hb : bar.boxed <;> simp [tree, inner, hb, hbrand, Markup.Tree.modify_element, Markup.Tree.modify_leaf,
    Markup.Tree.modify_of_eq hu, hmould]

namespace Taken

variable {T : Tags} {r : Nat} {bar : Bar} {f : Forest}

lemma step (h : Taken T r bar f) {k : Nat} (hk : k < r + 14) (change : Markup.Tree Node → Markup.Tree Node)
    (hchange : ∀ t, k ∉ t.labels → change t = t) {g : Forest} (hg : g.Sound) (hle : f.next ≤ g.next)
    (hfind : ∀ j ∈ [r, r + 14, r + 16, r + 22], g.find? j = (f.find? j).map change) {bar' : Bar}
    (htree : change (bar.tree T r) = bar'.tree T r)
    (hapart : ∀ k : Nat, k ∈ (bar'.brand ++ bar'.contents).flatMap Markup.Tree.labels →
      k = r + 4 ∨ k = r + 5 ∨ k = r + 13 ∨ k = r + 34 ∨ r + 37 ≤ k) : Taken T r bar' g where
  sound := hg
  tree := by rw [hfind r (by simp), h.tree, Option.map_some, htree]
  container := by
    rw [hfind (r + 14) (by simp), h.container, Option.map_some, hchange]
    have hne : k ≠ r + 14 ∧ k ≠ r + 15 ∧ k ≠ r + 21 ∧ k ≠ r + 33 := by omega
    simp [Markup.Tree.labels, hne]
  item := by
    rw [hfind (r + 16) (by simp), h.item, Option.map_some, hchange]
    rw [mem_labels_number]
    omega
  dropdown := by
    rw [hfind (r + 22) (by simp), h.dropdown, Option.map_some, hchange]
    rw [mem_labels_number]
    omega
  apart := hapart
  le := Nat.le_trans h.le hle

lemma setTag (h : Taken T r bar f) {k : Nat} (hk : k < r + 14) (change : Tag → Tag) {bar' : Bar}
    (htree : (bar.tree T r).modify k (Markup.Tree.mapTag change) = bar'.tree T r) (hbrand : bar'.brand = bar.brand)
    (hcontents : bar'.contents = bar.contents) : Taken T r bar' (f.setTag k change) := by
  refine h.step hk (Markup.Tree.modify k (Markup.Tree.mapTag change)) (fun t ht => Markup.Tree.modify_of_not_mem ht _)
    (h.sound.setTag k change) (Nat.le_refl _) (fun j _ => h.sound.find?_setTag change) htree ?_
  rw [hbrand, hcontents]
  exact h.apart

lemma not_mem_brand (h : Taken T r bar f) {k : Nat} (hk : k < r + 37)
    (hne : k ≠ r + 4 ∧ k ≠ r + 5 ∧ k ≠ r + 13 ∧ k ≠ r + 34) : k ∉ bar.brand.flatMap Markup.Tree.labels := by
  intro hm
  have := h.apart k (by rw [List.flatMap_append]; exact List.mem_append_left _ hm)
  omega

lemma not_mem_contents (h : Taken T r bar f) {k : Nat} (hk : k < r + 37)
    (hne : k ≠ r + 4 ∧ k ≠ r + 5 ∧ k ≠ r + 13 ∧ k ≠ r + 34) : k ∉ bar.contents.flatMap Markup.Tree.labels := by
  intro hm
  have := h.apart k (by rw [List.flatMap_append]; exact List.mem_append_right _ hm)
  omega

lemma setNav (h : Taken T r bar f) (change : Tag → Tag) :
    Taken T r { bar with nav := change bar.nav } (f.setTag r change) :=
  h.setTag (by omega) change (Markup.Tree.modify_element_self _ _ _ _) rfl rfl

lemma setToggler (h : Taken T r bar f) (change : Tag → Tag) :
    Taken T r { bar with toggler := change bar.toggler } (f.setTag (r + 7) change) := by
  have hbrand := map_modify_of_not_mem (h.not_mem_brand (k := r + 7) (by omega) (by omega)) (Markup.Tree.mapTag change)
  have hcontents := map_modify_of_not_mem (h.not_mem_contents (k := r + 7) (by omega) (by omega))
    (Markup.Tree.mapTag change)
  refine h.setTag (by omega) change ?_ rfl rfl
  cases hb : bar.boxed <;> simp [Bar.tree, Bar.inner, hb, Markup.Tree.modify_element, Markup.Tree.modify_leaf,
    Markup.Tree.modify_element_self, Markup.Tree.mapTag, hbrand, hcontents]

lemma setContent (h : Taken T r bar f) (change : Tag → Tag) :
    Taken T r { bar with content := change bar.content } (f.setTag (r + 12) change) := by
  have hbrand := map_modify_of_not_mem (h.not_mem_brand (k := r + 12) (by omega) (by omega)) (Markup.Tree.mapTag change)
  refine h.setTag (by omega) change ?_ rfl rfl
  cases hb : bar.boxed <;> simp [Bar.tree, Bar.inner, hb, Markup.Tree.modify_element, Markup.Tree.modify_leaf,
    Markup.Tree.modify_element_self, Markup.Tree.mapTag, hbrand]

lemma mem_inner (h : Taken T r bar f) {k : Nat} (hk : k ∈ (bar.inner T r).flatMap Markup.Tree.labels) :
    r + 3 ≤ k ∧ k ≤ r + 13 ∨ r + 34 ≤ k := by
  by_cases hshown : k ∈ (bar.brand ++ bar.contents).flatMap Markup.Tree.labels
  · have := h.apart k hshown
    omega
  · rw [List.flatMap_append, List.mem_append, not_or] at hshown
    simp only [Bar.inner, List.flatMap_cons, List.flatMap_append, List.cons_append, Markup.Tree.labels,
      Markup.Tree.labelsOfAll_eq, List.flatMap_nil, List.mem_append, List.mem_cons, List.not_mem_nil, hshown.1,
      hshown.2, or_false, false_or] at hk
    change (k : Nat) = _ ∨ _ at hk
    omega

lemma unwrap (h : Taken T r bar f) (hboxed : bar.boxed = true) :
    ∃ g, f.unwrap (r + 2) = .ok g ∧ Taken T r { bar with boxed := false } g := by
  have hbox := h.sound.find?_child h.tree (c := .element (r + 2) T.positioning (bar.inner T r))
    (by simp [Bar.tree, Markup.Tree.children, hboxed])
  have hroot := h.sound.isRoot_of_below (n := r + 2) h.tree
    (by simp [Bar.tree, Markup.Tree.labels, hboxed]) (by omega)
  obtain ⟨g, hg, hnext, hfind⟩ := h.sound.find?_unwrap hbox hroot
  have hsound := h.sound.confined (Confined.unwrap h.sound.beside_nil (Sound.outside_nil _) hg)
  have hout : ∀ j : Nat, j = r ∨ j = r + 14 ∨ j = r + 16 ∨ j = r + 22 →
      j ∉ (Markup.Tree.element (r + 2) T.positioning (bar.inner T r)).labels := by
    intro j hj hm
    rw [Markup.Tree.labels, Markup.Tree.labelsOfAll_eq, List.mem_cons] at hm
    rcases hm with rfl | hm
    · omega
    · have := h.mem_inner hm
      omega
  refine ⟨g, hg, h.step (by omega) (Markup.Tree.inside (r + 2) Markup.Tree.children)
    (fun t ht => Markup.Tree.inside_of_not_mem ht _) hsound (Nat.le_of_eq hnext.symm) (fun j hj => ?_) ?_ h.apart⟩
  · exact hfind j (hout j (by simpa using hj))
  · have hinner : ({ bar with boxed := false } : Bar).inner T r = bar.inner T r := rfl
    simp [Bar.tree, hboxed, hinner, Markup.Tree.inside, Markup.Tree.replace, Markup.Tree.children]

lemma fillBrand (h : Taken T r bar f) (hbrand : bar.brand = [brandMould T r])
    (hcontents : r + 4 ∉ bar.contents.flatMap Markup.Tree.labels) (l : Link) :
    Taken T r { bar with brand := [.element (r + 4) (T.brand.merge l.tag) (Markup.Tree.numberAll (f.next + 1) l.contents)] }
      ((f.plant l.tree).2.merge (r + 4) f.next) := by
  have hle := h.le
  have hplant := (Confined.plant [] f l.tree).le
  have hmerge := (Confined.merge (h.sound.plant l.tree).beside_nil (Sound.outside_nil (r + 4))
    (Sound.outside_nil f.next)).le
  refine h.step (by omega) (Markup.Tree.modify (r + 4) fun u =>
    (u.withChildren (Markup.Tree.numberAll (f.next + 1) l.contents)).mapTag fun t => t.merge l.tag)
    (fun t ht => Markup.Tree.modify_of_not_mem ht _) ((h.sound.plant l.tree).merge _ _) (Nat.le_trans hplant hmerge)
    (fun j hj => h.sound.find?_merge_plant (by omega) ?_ l.tag l.contents) ?_ ?_
  · simp only [List.mem_cons, List.not_mem_nil, or_false] at hj
    change (j : Nat) = _ ∨ _ at hj
    omega
  · exact Bar.modify_brand hbrand rfl hcontents _
  · intro k hk
    rw [List.flatMap_append, List.mem_append, List.flatMap_singleton] at hk
    rcases hk with hk | hk
    · rw [Markup.Tree.labels, List.mem_cons] at hk
      rcases hk with rfl | hk
      · exact Or.inl rfl
      · have hnumber := labels_number f.next (Markup.Tree.element () l.tag l.contents)
        rw [Markup.Tree.number, Markup.Tree.labels] at hnumber
        have hmem : k ∈ List.range' f.next (Markup.Tree.element () l.tag l.contents).size :=
          hnumber ▸ List.mem_cons_of_mem _ hk
        rw [List.mem_range'_1] at hmem
        omega
    · exact h.apart k (by rw [List.flatMap_append]; exact List.mem_append_right _ hk)

lemma dropBrand (h : Taken T r bar f) (hbrand : bar.brand = [brandMould T r])
    (hcontents : r + 4 ∉ bar.contents.flatMap Markup.Tree.labels) :
    Taken T r { bar with brand := [] } (f.detach (r + 4)) := by
  have hle := (Confined.detach h.sound.beside_nil (Sound.outside_nil (r + 4))).le
  refine h.step (by omega) (Markup.Tree.without (r + 4)) (fun t ht => Markup.Tree.without_of_not_mem ht)
    (h.sound.detach _) hle (fun j _ => h.sound.find?_detach) ?_ ?_
  · have hmould : bar.contents.flatMap (Markup.Tree.replace (r + 4) fun _ => []) = bar.contents :=
      Markup.Tree.replaceIn_of_not_mem hcontents _
    cases hb : bar.boxed <;> simp [Bar.tree, Bar.inner, hb, hbrand, brandMould, Markup.Tree.without, Markup.Tree.label,
      Markup.Tree.inside, Markup.Tree.replace, hmould]
  · intro k hk
    exact h.apart k (by rw [List.flatMap_append]; exact List.mem_append_right _ hk)

lemma append (h : Taken T r bar f) {us : List (Markup.Tree Node)} {g : Forest} (hput : Appended (r + 12) us f g) :
    Taken T r { bar with contents := bar.contents ++ us } g := by
  have hl := h.le
  refine h.step (by omega) (Markup.Tree.modify (r + 12) (Markup.Tree.append us))
    (fun t ht => Markup.Tree.modify_of_not_mem ht _) hput.sound hput.le (fun j hj => hput.find j ?_) ?_ ?_
  · simp only [List.mem_cons, List.not_mem_nil, or_false] at hj
    change (j : Nat) = _ ∨ _ at hj
    omega
  · have hbrand := map_modify_of_not_mem (h.not_mem_brand (k := r + 12) (by omega) (by omega)) (Markup.Tree.append us)
    cases hb : bar.boxed <;> simp [Bar.tree, Bar.inner, hb, Markup.Tree.modify_element, Markup.Tree.modify_leaf,
      Markup.Tree.modify_element_self, Markup.Tree.append, hbrand]
  · intro k hk
    rw [List.flatMap_append, List.flatMap_append, ← List.append_assoc, List.mem_append] at hk
    rcases hk with hk | hk
    · exact h.apart k (by rwa [List.flatMap_append])
    · have := hput.new k hk
      omega

end Taken

structure New (T : Tags) (b : Bench) : Prop where
  marked : T.Marked b.copy.markerName
  kind : b.copy.kind = kind
  sound : b.forest.Sound
  tree : b.forest.find? b.copy.root = some (T.template.number b.copy.root)
  targets : b.copy.targets = ⟨b.copy.root, markersOf b.copy.markerName (T.template.number b.copy.root)⟩
  rendered : b.copy.rendered = false

structure Ready (T : Tags) (bar : Bar) (b : Bench) : Prop where
  marked : T.Marked b.copy.markerName
  kind : b.copy.kind = kind
  targets : b.copy.targets = ⟨b.copy.root, places b.copy.root⟩
  taken : Taken T b.copy.root bar b.forest

namespace Ready

variable {T : Tags} {bar bar' : Bar} {b : Bench}

lemma change (h : Ready T bar b) {f : Forest} (hf : Taken T b.copy.root bar' f) (uids : Allocator) :
    Ready T bar' { b with forest := f, uids } :=
  ⟨h.marked, h.kind, h.targets, hf⟩

lemma target (h : Ready T bar b) {marker : String} {n : Nat}
    (hplace : (places b.copy.root).filter (fun e => e.1 == marker) = [(marker, n)])
    (hn : n ∈ (bar.tree T b.copy.root).labels) : (Work.target none marker).run b = (.ok n, b) := by
  refine run_target_ok ?_
  change b.copy.targets.single b.forest marker = .ok n
  rw [h.targets]
  refine Index.single_of_found hplace ?_
  rw [Forest.within, h.taken.tree, Option.map_some, Option.getD_some, Markup.Tree.contains_iff]
  exact hn

lemma run_positioning (h : Ready T bar b) (hboxed : bar.boxed = true) :
    (Work.target none "positioning").run b = (.ok (b.copy.root + 2), b) :=
  h.target (by simp [places]) (by simp [Bar.tree, hboxed, Markup.Tree.labels])

lemma run_brand (h : Ready T bar b) (hbrand : bar.brand = [brandMould T b.copy.root]) :
    (Work.target none "brand-link").run b = (.ok (b.copy.root + 4), b) :=
  h.target (by simp [places]) (by
    cases hb : bar.boxed <;> simp [Bar.tree, Bar.inner, hb, hbrand, brandMould, Markup.Tree.labels])

lemma run_toggler (h : Ready T bar b) : (Work.target none "toggler").run b = (.ok (b.copy.root + 7), b) :=
  h.target (by simp [places]) (by cases hb : bar.boxed <;> simp [Bar.tree, Bar.inner, hb, Markup.Tree.labels])

lemma run_content (h : Ready T bar b) : (Work.target none "content").run b = (.ok (b.copy.root + 12), b) :=
  h.target (by simp [places]) (by cases hb : bar.boxed <;> simp [Bar.tree, Bar.inner, hb, Markup.Tree.labels])

lemma setBrand (h : Ready T bar b) (hbrand : bar.brand = [brandMould T b.copy.root])
    (hcontents : b.copy.root + 4 ∉ bar.contents.flatMap Markup.Tree.labels) (label : Option Link) :
    ∃ us f, (Navbar.setBrand (b.copy.root + 4) label).run b = (.ok (), { b with forest := f }) ∧
      Ready T { bar with brand := us } { b with forest := f } ∧ us.map Markup.Tree.erase = T.brandMarkup label := by
  cases label with
  | none => exact ⟨[], _, rfl, h.change (h.taken.dropBrand hbrand hcontents) b.uids, rfl⟩
  | some l =>
    refine ⟨_, _, run_fill _ l b, h.change (h.taken.fillBrand hbrand hcontents l) b.uids, ?_⟩
    rw [List.map_singleton, Markup.Tree.erase, Markup.Tree.erase_numberAll, Markup.Tree.eraseAll_eq,
      List.map_congr_left fun t _ => Markup.Tree.erase_unit t, List.map_id']
    rfl

end Ready

def dropdownsIn (parts : List Menu) : Nat := (parts.map fun m => dropdowns m.entries).sum

lemma dropdownsIn_cons (m : Menu) (ms : List Menu) : dropdownsIn (m :: ms) = dropdowns m.entries + dropdownsIn ms :=
  List.sum_cons

variable {T : Tags} {bar : Bar} {b : Bench}

def mouldsAt (r : Nat) : Moulds := ⟨r + 14, r + 16, r + 22⟩

lemma Ready.moulds (h : Ready T bar b) : (mouldsAt b.copy.root).Of T b.forest where
  container := markup?_eq_some.mpr ⟨_, h.taken.container, rfl⟩
  item := markup?_eq_some.mpr ⟨_, h.taken.item, (Markup.Tree.erase_number _ _).trans (Markup.Tree.erase_unit _)⟩
  dropdown := markup?_eq_some.mpr ⟨_, h.taken.dropdown, (Markup.Tree.erase_number _ _).trans (Markup.Tree.erase_unit _)⟩

lemma Ready.run_part (h : Ready T bar b) (first : Bool) (m : Menu) (ms : List Menu)
    (hshort : b.uids.Short (dropdowns m.entries)) :
    ∃ u f, (addParts (b.copy.root + 12) (mouldsAt b.copy.root) first (m :: ms)).run b =
        (addParts (b.copy.root + 12) (mouldsAt b.copy.root) false ms).run
          { b with forest := f, uids := b.uids.skip (dropdowns m.entries) } ∧
      Ready T { bar with contents := bar.contents ++ [u] }
        { b with forest := f, uids := b.uids.skip (dropdowns m.entries) } ∧
      u.erase = T.partMarkup b.uids.value first m := by
  have hmakes := makes_part h.marked h.kind h.taken.sound h.moulds first m hshort
  have hlt : b.copy.root + 12 < b.forest.next :=
    Nat.lt_of_lt_of_le (Nat.add_lt_add_left (by decide) b.copy.root) h.taken.le
  obtain ⟨u, f, hrun, hput, hu⟩ := hmakes.run_append h.taken.sound hlt
    fun _ => addParts (b.copy.root + 12) (mouldsAt b.copy.root) false ms
  exact ⟨u, f, hrun, h.change (h.taken.append hput) _, hu⟩

lemma run_addParts (h : Ready T bar b) (first : Bool) (parts : List Menu) (hshort : b.uids.Short (dropdownsIn parts)) :
    ∃ us f, (addParts (b.copy.root + 12) (mouldsAt b.copy.root) first parts).run b =
        (.ok (), { b with forest := f, uids := b.uids.skip (dropdownsIn parts) }) ∧
      Ready T { bar with contents := bar.contents ++ us }
        { b with forest := f, uids := b.uids.skip (dropdownsIn parts) } ∧
      us.map Markup.Tree.erase = T.partsMarkup b.uids.value first parts := by
  induction parts generalizing first b bar with
  | nil => exact ⟨[], b.forest, rfl, by rw [List.append_nil]; exact h, rfl⟩
  | cons m ms ih =>
    rw [dropdownsIn_cons] at hshort ⊢
    obtain ⟨u, f, hrun, hready, hu⟩ := h.run_part first m ms hshort.left
    obtain ⟨us, g, hrun', hready', hus⟩ := ih hready false hshort.right
    rw [Allocator.skip_skip] at hrun' hready'
    refine ⟨u :: us, g, hrun.trans hrun', ?_, ?_⟩
    · rw [List.append_cons]
      exact hready'
    · rw [List.map_cons, hu, hus, Allocator.value_skip, Tags.partsMarkup]

def emptied (f : Forest) (r : Nat) : Forest := ((f.detach (r + 14)).detach (r + 16)).detach (r + 22)

lemma New.ready (h : New T b) : Ready T (barOf T b.copy.root []) { b with
    forest := emptied b.forest b.copy.root, copy := { b.copy with targets := ⟨b.copy.root, places b.copy.root⟩ } } :=
  ⟨h.marked, h.kind, rfl, taken_template h.sound h.tree⟩

lemma New.run_container (h : New T b) : (Work.takeTarget none "container").run b = (.ok (b.copy.root + 14), { b with
    forest := b.forest.detach (b.copy.root + 14)
    copy := { b.copy with targets := ⟨b.copy.root, places b.copy.root⟩ } }) := by
  have hsingle := single_container h.marked h.tree
  have hforget := forget_container h.marked h.sound h.tree
  rw [← h.targets] at hsingle hforget
  have htake : (b.index none).take b.forest "container" = .ok (b.copy.root + 14, ⟨b.copy.root, places b.copy.root⟩,
      b.forest.detach (b.copy.root + 14)) := by
    rw [← hforget]
    exact Index.take_of_single hsingle
  rw [run_takeTarget, htake]
  rfl

lemma New.run_takes (h : New T b) {α : Type} (k : Node → Node → Node → Work α) :
    (Work.takeTarget none "container" >>= fun container => Work.takeTarget (some container) "item" >>= fun item =>
        Work.takeTarget (some container) "dropdown" >>= fun dropdown => k container item dropdown).run b =
      (k (b.copy.root + 14) (b.copy.root + 16) (b.copy.root + 22)).run { b with
        forest := emptied b.forest b.copy.root
        copy := { b.copy with targets := ⟨b.copy.root, places b.copy.root⟩ } } := by
  rw [run_bind_ok h.run_container, run_bind_ok (run_takeTarget_below (b := { b with
    forest := b.forest.detach (b.copy.root + 14)
    copy := { b.copy with targets := ⟨b.copy.root, places b.copy.root⟩ } }) (single_item h.marked h.sound h.tree)),
    run_bind_ok (run_takeTarget_below (b := { b with
      forest := (b.forest.detach (b.copy.root + 14)).detach (b.copy.root + 16)
      copy := { b.copy with targets := ⟨b.copy.root, places b.copy.root⟩ } }) (single_dropdown h.marked h.sound h.tree))]
  rfl

lemma Bar.erase_tree (T : Tags) (r : Nat) (bar : Bar) : (bar.tree T r).erase = T.barWith bar.nav bar.boxed
    (gap :: bar.brand.map Markup.Tree.erase ++ [gap, T.togglerTree bar.toggler, gap,
      .element () bar.content (bar.contents.map Markup.Tree.erase), gap]) := by
  cases hb : bar.boxed <;> simp [tree, inner, hb, Markup.Tree.erase, Tags.barWith, Tags.togglerTree, gap]

def renderNamed (parts : List Menu) (container item dropdown : Node) (uid : String) : Work Unit := do
  let toggler ← Work.target none "toggler"
  Work.setTag toggler fun t => t.set "data-target" (.text ("#" ++ uid))
  let content ← Work.target none "content"
  Work.setTag content fun t => t.set "id" (.text uid)
  addParts content ⟨container, item, dropdown⟩ true parts

def renderRest (cssClass : Option String) (parts : List Menu) (container item dropdown : Node) : Work Unit := do
  Work.setTag (← Work.root) fun t => t.addClasses (.ofText? cssClass)
  let brand ← Work.target none "brand-link"
  setBrand brand (parts.head?.bind Menu.label)
  let uid ← Work.nextId
  renderNamed parts container item dropdown uid

lemma Ready.run_branded (h : Ready T bar b) (hbar : bar = { barOf T b.copy.root [] with boxed := bar.boxed })
    (cssClass : Option String) (parts : List Menu) (container item dropdown : Node) :
    ∃ us f, (renderRest cssClass parts container item dropdown).run b =
        (Work.nextId >>= renderNamed parts container item dropdown).run { b with forest := f } ∧
      Ready T { bar with nav := bar.nav.addClasses (.ofText? cssClass), brand := us } { b with forest := f } ∧
      us.map Markup.Tree.erase = T.brandMarkup (parts.head?.bind Menu.label) := by
  have hcontents : b.copy.root + 4 ∉ bar.contents.flatMap Markup.Tree.labels := by
    rw [hbar]
    simp [barOf, Markup.Tree.labels]
  have hbrand : bar.brand = [brandMould T b.copy.root] := by rw [hbar]; rfl
  have hnav := h.change (h.taken.setNav fun t => t.addClasses (.ofText? cssClass)) b.uids
  obtain ⟨us, f, hrun, hlinked, hus⟩ := hnav.setBrand hbrand hcontents (parts.head?.bind Menu.label)
  refine ⟨us, f, ?_, hlinked, hus⟩
  rw [renderRest, run_bind_ok (run_root b), run_bind_ok (run_setTag _ _ _), run_bind_ok (hnav.run_brand hbrand),
    run_bind_ok hrun]

lemma Ready.run_named (h : Ready T bar b) (parts : List Menu) (hshort : b.uids.Short 1) :
    ∃ f, (Work.nextId >>= renderNamed parts (b.copy.root + 14) (b.copy.root + 16) (b.copy.root + 22)).run b =
        (addParts (b.copy.root + 12) (mouldsAt b.copy.root) true parts).run
          { b with forest := f, uids := b.uids.skip 1 } ∧
      Ready T { bar with
        toggler := bar.toggler.set "data-target" (.text ("#" ++ identifier b.uids.value))
        content := bar.content.set "id" (.text (identifier b.uids.value)) }
        { b with forest := f, uids := b.uids.skip 1 } := by
  have hnamed := h.change h.taken (b.uids.skip 1)
  have htoggler := hnamed.change
    (hnamed.taken.setToggler fun t => t.set "data-target" (.text ("#" ++ identifier b.uids.value))) (b.uids.skip 1)
  have hcontent := htoggler.change
    (htoggler.taken.setContent fun t => t.set "id" (.text (identifier b.uids.value))) (b.uids.skip 1)
  refine ⟨_, ?_, hcontent⟩
  rw [run_bind_ok (run_nextId_short hshort h.kind), renderNamed, run_bind_ok hnamed.run_toggler,
    run_bind_ok (run_setTag _ _ _), run_bind_ok htoggler.run_content, run_bind_ok (run_setTag _ _ _)]
  rfl

lemma Ready.run_rest (h : Ready T bar b) (hbar : bar = { barOf T b.copy.root [] with boxed := bar.boxed })
    (cssClass : Option String) (parts : List Menu) (hshort : b.uids.Short (1 + dropdownsIn parts)) :
    ∃ bar' f, (renderRest cssClass parts (b.copy.root + 14) (b.copy.root + 16) (b.copy.root + 22)).run b =
          (.ok (), { b with forest := f, uids := b.uids.skip (1 + dropdownsIn parts) }) ∧
      Ready T bar' { b with forest := f, uids := b.uids.skip (1 + dropdownsIn parts) } ∧
      (bar'.tree T b.copy.root).erase = T.markup cssClass bar.boxed b.uids.value parts := by
  obtain ⟨us, f, hbranded, hlinked, hus⟩ := h.run_branded hbar cssClass parts (b.copy.root + 14) (b.copy.root + 16)
    (b.copy.root + 22)
  obtain ⟨g, hnamed, hcontent⟩ := hlinked.run_named parts hshort.left
  obtain ⟨ts, g', hparts, hready, hts⟩ := run_addParts hcontent true parts hshort.right
  rw [Allocator.skip_skip] at hparts hready
  refine ⟨_, g', (hbranded.trans hnamed).trans hparts, hready, ?_⟩
  have hparts : ts.map Markup.Tree.erase = T.partsMarkup (b.uids.value + 1) true parts := by
    rw [hts, Allocator.value_skip]
    rfl
  rw [Bar.erase_tree, hus, List.map_append, hparts, hbar]
  rfl

lemma New.run_boxed (h : New T b) {n : Navbar Menu} {parts : List Menu} (hshown : n.shown = .ok parts) :
    ∃ f, n.render.run b =
        (renderRest n.cssClass parts (b.copy.root + 14) (b.copy.root + 16) (b.copy.root + 22)).run { b with
          forest := f, copy := { b.copy with targets := ⟨b.copy.root, places b.copy.root⟩ } } ∧
      Ready T { barOf T b.copy.root [] with boxed := n.inContainer } { b with
        forest := f, copy := { b.copy with targets := ⟨b.copy.root, places b.copy.root⟩ } } := by
  have hlift : (liftM (n.shown : Except Fault (List Menu)) : Work (List Menu)).run b = (.ok parts, b) := by
    rw [hshown]
    rfl
  rw [render, run_bind_ok hlift, h.run_takes]
  cases hc : n.inContainer with
  | true => exact ⟨_, rfl, h.ready⟩
  | false =>
    obtain ⟨g, hg, hunboxed⟩ := h.ready.taken.unwrap rfl
    refine ⟨g, ?_, h.ready.change hunboxed b.uids⟩
    have hattempt : (Work.attempt fun f => f.unwrap (b.copy.root + 2)).run { b with
        forest := emptied b.forest b.copy.root
        copy := { b.copy with targets := ⟨b.copy.root, places b.copy.root⟩ } } = (.ok (), { b with
          forest := g
          copy := { b.copy with targets := ⟨b.copy.root, places b.copy.root⟩ } }) := by
      rw [run_attempt, hg]
    simp only [Bool.not_false, if_true]
    rw [run_bind_ok (h.ready.run_positioning rfl), run_bind_ok hattempt]
    rfl

theorem run_render (h : New T b) {n : Navbar Menu} {parts : List Menu} (hshown : n.shown = .ok parts)
    (hshort : b.uids.Short (1 + dropdownsIn parts)) :
    ∃ bar f, n.render.run b = (.ok (), { b with
        forest := f
        uids := b.uids.skip (1 + dropdownsIn parts)
        copy := { b.copy with targets := ⟨b.copy.root, places b.copy.root⟩ } }) ∧
      Taken T b.copy.root bar f ∧
      (bar.tree T b.copy.root).erase = T.markup n.cssClass n.inContainer b.uids.value parts := by
  obtain ⟨g, hrun, hready⟩ := h.run_boxed hshown
  obtain ⟨bar, f, hrest, hdone, herase⟩ := hready.run_rest rfl n.cssClass parts hshort
  exact ⟨bar, f, hrun.trans hrest, hdone.taken, herase⟩

/-- Once rendered, a copy shows the markup of its menus without its markers, and the counter stands behind the
identifiers that it took. -/
theorem run_once_render (h : New T b) {n : Navbar Menu} {parts : List Menu} (hshown : n.shown = .ok parts)
    (hshort : b.uids.Short (1 + dropdownsIn parts)) :
    ∃ c t, (Work.once n.render).run b = (.ok b.copy.root, c) ∧ c.uids = b.uids.skip (1 + dropdownsIn parts) ∧
      c.copy = { b.copy with targets := ⟨b.copy.root, places b.copy.root⟩, rendered := true } ∧
      c.forest.find? b.copy.root = some t ∧
      t.erase = (T.markup n.cssClass n.inContainer b.uids.value parts).mapTags
        fun t => t.remove b.copy.markerName := by
  obtain ⟨bar, f, hrun, htaken, herase⟩ := run_render h hshown hshort
  have honce := run_once_ok h.rendered hrun
  refine ⟨_, _, honce, rfl, rfl,
    htaken.sound.find?_mapTags_self htaken.tree fun t => t.remove b.copy.markerName, ?_⟩
  rw [Markup.Tree.erase_mapTags, herase]

end PageStencil.Navbar
