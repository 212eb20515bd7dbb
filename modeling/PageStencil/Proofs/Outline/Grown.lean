import Mathlib.Data.List.Sort
import PageStencil.Proofs.Outline.Enclosure
import PageStencil.Proofs.Outline.Growth
import PageStencil.Proofs.Running
import PageStencil.Studio.Menus

/-!
A menu that has grown in a graph, node by node, is the menu that is planted there as a whole.
-/

namespace PageStencil.Outline

open Entry MenuGraph

section Planting

variable {base : MenuGraph} {d : Draft}

section Back

variable {α : Type} {later before : List α} {x a : α} {i : Nat}

lemma reverse_split (later : List α) (x : α) (before : List α) :
    (later ++ x :: before).reverse = before.reverse ++ x :: later.reverse := by
  rw [List.reverse_append, List.reverse_cons, List.append_assoc, List.singleton_append]

lemma getElem?_reverse_self : (later ++ x :: before).reverse[before.length]? = some x := by
  rw [reverse_split, List.getElem?_append_right (Nat.le_of_eq List.length_reverse), List.length_reverse, Nat.sub_self,
    List.getElem?_cons_zero]

lemma mem_of_getElem?_reverse_of_lt (h : (later ++ x :: before).reverse[i]? = some a) (hi : i < before.length) :
    a ∈ before := by
  rw [reverse_split, List.getElem?_append_left (List.length_reverse.symm ▸ hi)] at h
  exact List.mem_reverse.mp (List.mem_of_getElem? h)

lemma mem_of_getElem?_reverse_of_gt (h : (later ++ x :: before).reverse[i]? = some a) (hi : before.length < i) :
    a ∈ later := by
  rw [reverse_split, List.getElem?_append_right (List.length_reverse.symm ▸ Nat.le_of_lt hi), List.length_reverse,
    show i - before.length = i - before.length - 1 + 1 by omega, List.getElem?_cons_succ] at h
  exact List.mem_reverse.mp (List.mem_of_getElem? h)

end Back

lemma encloses_holder (later : List Nat) (x : Nat) (before : List Nat) :
    (holder x before = 0 ∧ ∀ j, ¬Shallower (later ++ x :: before).reverse j before.length) ∨
      ∃ j, holder x before = j + 1 ∧ Encloses (later ++ x :: before).reverse j before.length := by
  have hself : (later ++ x :: before).reverse[before.length]? = some x := getElem?_reverse_self
  rcases holder_spec x before with ⟨hzero, hle⟩ | ⟨between, y, rest, rfl, hlt, hle, hholder⟩
  · refine .inl ⟨hzero, ?_⟩
    rintro j ⟨hj, a, b, ha, hb, hab⟩
    obtain rfl : x = b := Option.some.inj (hself.symm.trans hb)
    exact absurd hab (Nat.not_lt.mpr (hle a (mem_of_getElem?_reverse_of_lt ha hj)))
  · have hrest : rest.length < (between ++ y :: rest).length := by
      rw [List.length_append, List.length_cons]
      omega
    have hwhole : later ++ x :: (between ++ y :: rest) = (later ++ x :: between) ++ y :: rest := by simp
    refine .inr ⟨rest.length, hholder, ⟨hrest, y, x, ?_, hself, hlt⟩, ?_⟩
    · rw [hwhole]
      exact getElem?_reverse_self
    · rintro i hi ⟨hik, a, b, ha, hb, hab⟩
      obtain rfl : x = b := Option.some.inj (hself.symm.trans hb)
      -- before the entry, and behind its holder
      have hbefore : (between ++ y :: rest).reverse[i]? = some a := by
        rwa [reverse_split, List.getElem?_append_left (List.length_reverse.symm ▸ hik)] at ha
      exact absurd hab (Nat.not_lt.mpr (hle a (mem_of_getElem?_reverse_of_gt hbefore hi)))

lemma Sound.faces_plant (hd : Sound d) (base : MenuGraph) :
    (base.plant none d.menu).2.nodes.size = base.nodes.size + 1 + d.entries.length ∧
      Labelled base d.title d.entries (base.plant none d.menu).2 := by
  obtain ⟨hsize, htop, hlooks⟩ := base.plant_looks d.menu
  have hfaces : (Menu.preorderAll d.menu.entries).map Menu.face = d.entries.reverse.map Entry.face :=
    preorder_nest hd.nested
  have hlength := congrArg List.length hfaces
  rw [List.length_map, List.length_map, List.length_reverse] at hlength
  rw [plant_fst] at hsize htop hlooks
  refine ⟨hlength ▸ hsize, htop, fun later e before hes => ?_⟩
  have hface := congrArg (fun fs => fs[before.length]?) hfaces
  rw [List.getElem?_map, List.getElem?_map, hes, getElem?_reverse_self] at hface
  obtain ⟨x, hx, hxe⟩ := Option.map_eq_some_iff.mp hface
  obtain ⟨hlabel, hrest⟩ := Prod.mk.inj hxe
  obtain ⟨hclass, hleaf⟩ := Prod.mk.inj hrest
  have hlooks := hlooks before.length x hx
  rw [hlabel, hclass, hleaf, Bool.not_not] at hlooks
  exact hlooks

theorem Sound.placed_plant (hd : Sound d) (base : MenuGraph) :
    Placed base (d.entries.map Entry.depth) (base.plant none d.menu).2 := by
  have hsize := (hd.faces_plant base).1
  have hplant : base.plant none d.menu = (base.nodes.size, (base.plant none d.menu).2) :=
    Prod.ext (base.plant_fst d.menu none) rfl
  have hrooted := base.plant_rooted d.menu
  rw [plant_fst] at hrooted
  obtain ⟨hbelow, htop⟩ := hd.enclosed base hplant rfl
  refine ⟨(base.plant_spec none d.menu).grown, by rw [hsize, List.length_map], hrooted.top, fun later x before hxs => ?_,
    fun q hq hlt => ?_⟩
  · have hlength := congrArg List.length hxs
    rw [List.length_map, List.length_append, List.length_cons] at hlength
    rw [List.map_reverse, hxs] at hbelow htop
    rcases encloses_holder later x before with ⟨hzero, hnone⟩ | ⟨j, hj, hencloses⟩
    · have hmem := htop before.length (by rw [List.length_reverse, List.length_append, List.length_cons]; omega) hnone
      rw [hzero]
      exact (hrooted.parent _ (Nat.le_refl _) (by omega) _ hmem).2.2
    · have hjk := hencloses.1.1
      rw [hj, (hrooted.parent _ (by omega) (by omega) _ (hbelow j before.length hencloses)).2.2]
      exact congrArg some (by omega)
  · refine (hrooted.ordered q hq hlt).eq_of_mem_iff ((List.pairwise_lt_range').filter _) fun k => ?_
    rw [List.mem_filter, List.mem_range'_1, List.length_map, beq_iff_eq]
    constructor
    · intro hk
      obtain ⟨hqk, hkn, hparent⟩ := hrooted.parent q hq hlt k hk
      exact ⟨by omega, hparent⟩
    · rintro ⟨⟨hk, hkn⟩, hparent⟩
      obtain ⟨p, ⟨hp, hpn, hmem⟩, -⟩ := hrooted.once k (by omega) (by omega)
      obtain rfl : p = q := Option.some.inj ((hrooted.parent p hp hpn k hmem).2.2.symm.trans hparent)
      exact hmem

end Planting

end PageStencil.Outline

namespace PageStencil.MenuGraph

def shown? (g : MenuGraph) (n : MenuId) : Option (Option Link × Option String × Option MenuId × Option (List MenuId)) :=
  (g.node? n).map fun m => (m.label.bind g.link?, m.cssClass, m.parent, m.entries)

section Shown

variable {g g' : MenuGraph} {n root : MenuId}

lemma shown?_eq {l : Option Link} {c : Option String} {opened : Bool} (h : g.Looks n l c opened)
    (h' : g'.Looks n l c opened) (hparent : g.parentOf n = g'.parentOf n) (hentries : g.entriesOf n = g'.entriesOf n) :
    g.shown? n = g'.shown? n := by
  obtain ⟨m, hm, hw, ho⟩ := h
  obtain ⟨m', hm', hw', ho'⟩ := h'
  have hlist : m.entries = m'.entries := by
    rw [entriesOf, entriesOf, hm, hm'] at hentries
    cases hes : m.entries <;> cases hes' : m'.entries <;> simp_all
  rw [parentOf, parentOf, hm, hm'] at hparent
  rw [shown?, shown?, hm, hm', Option.map_some, Option.map_some, hw.bind, hw'.bind, hw.cssClass, hw'.cssClass, hlist]
  exact congrArg (fun p => some (l, c, p, m'.entries)) hparent

lemma unfoldWithin_congr (h : ∀ n, root ≤ n → g.shown? n = g'.shown? n)
    (hbelow : ∀ q, root ≤ q → ∀ k ∈ g'.entriesOf q, root ≤ k) (fuel : Nat) (hn : root ≤ n) :
    g.unfoldWithin fuel n = g'.unfoldWithin fuel n := by
  induction fuel generalizing n with
  | zero => rfl
  | succ fuel ih =>
    have hshown := h n hn
    have hkids := hbelow n hn
    rw [shown?, shown?] at hshown
    rw [entriesOf] at hkids
    rw [unfoldWithin, unfoldWithin]
    cases hm : g.node? n with
    | none =>
      rw [hm] at hshown
      rw [Option.map_eq_none_iff.mp hshown.symm]
    | some m =>
      rw [hm] at hshown
      obtain ⟨m', hm', hsame⟩ := Option.map_eq_some_iff.mp hshown.symm
      simp only [Prod.mk.injEq] at hsame
      obtain ⟨hlabel, hclass, -, hentries⟩ := hsame
      rw [hm'] at hkids ⊢
      simp only [hlabel, hclass]
      rw [← hentries]
      cases hes : m'.entries with
      | none => rfl
      | some es =>
        rw [Option.bind_some, hes, Option.getD_some] at hkids
        exact congrArg _ (List.map_congr_left fun k hk => ih (hkids k hk))

end Shown

end PageStencil.MenuGraph

namespace PageStencil.Outline

open MenuGraph

section Same

variable {base g g' : MenuGraph} {title : Option Link} {es : List Entry}

lemma Placed.parentOf_eq {xs : List Nat} (h : Placed base xs g) (h' : Placed base xs g') {k : MenuId}
    (hk : k ∈ List.range' (base.nodes.size + 1) xs.length) : g.parentOf k = g'.parentOf k := by
  obtain ⟨later, x, before, hxs, rfl⟩ := exists_split hk
  rw [h.parent later x before hxs, h'.parent later x before hxs]

theorem shown?_eq_of_placed (h : Placed base (es.map Entry.depth) g) (h' : Placed base (es.map Entry.depth) g')
    (hl : Labelled base title es g) (hl' : Labelled base title es g') {n : MenuId} (hn : base.nodes.size ≤ n) :
    g.shown? n = g'.shown? n := by
  have hsize : g.nodes.size = g'.nodes.size := h.size.trans h'.size.symm
  by_cases hlt : n < g.nodes.size
  · have hentries : g.entriesOf n = g'.entriesOf n := by
      rw [h.entries n hn hlt, h'.entries n hn (hsize ▸ hlt)]
      exact List.filter_congr fun k hk => by rw [h.parentOf_eq h' hk]
    rcases Nat.eq_or_lt_of_le hn with rfl | hn
    · exact shown?_eq hl.top hl'.top (h.top.trans h'.top.symm) hentries
    · have hk : n ∈ List.range' (base.nodes.size + 1) (es.map Entry.depth).length :=
        List.mem_range'_1.mpr ⟨hn, h.size ▸ hlt⟩
      have hparent := h.parentOf_eq h' hk
      rw [List.length_map] at hk
      obtain ⟨later, e, before, hes, rfl⟩ := exists_split hk
      exact shown?_eq (hl.item later e before hes) (hl'.item later e before hes) hparent hentries
  · have hnone : g.node? n = none := Array.getElem?_eq_none (Nat.not_lt.mp hlt)
    have hnone' : g'.node? n = none := Array.getElem?_eq_none (hsize ▸ Nat.not_lt.mp hlt)
    rw [shown?, shown?, hnone, hnone']
    rfl

end Same

/-- What is put into a graph node by node is what is planted there as a whole. -/
theorem grow_spec (strict : Bool) (base : MenuGraph) (text : String) :
    match parse strict text with
    | .error f => grow strict base text = .error f
    | .ok m => ∃ g, grow strict base text = .ok ((base.plant none m).1, g) ∧ base.Extends g ∧
        g.nodes.size = (base.plant none m).2.nodes.size ∧
        ∀ n, (base.plant none m).1 ≤ n → g.shown? n = (base.plant none m).2.shown? n := by
  have hlines := (grown_start base).addLines sound_empty strict (numberedLines text.toList)
  rw [parse, draft, grow]
  cases hd : (numberedLines text.toList).foldlM (Draft.addLine strict) {} with
  | error f =>
    rw [hd] at hlines
    rw [hlines]
    rfl
  | ok d =>
    rw [hd] at hlines
    obtain ⟨hsound, b, hb, hgrown⟩ := hlines
    have hplaced := hsound.placed_plant base
    rw [hb]
    refine ⟨b.graph, ?_, hgrown.placed.grown, hgrown.placed.size.trans hplaced.size.symm, fun n hn => ?_⟩
    · change Except.ok (b.root, b.graph) = Except.ok ((base.plant none d.menu).1, b.graph)
      rw [hgrown.root, plant_fst]
    · rw [plant_fst] at hn
      exact shown?_eq_of_placed hgrown.placed hplaced hgrown.labelled (hsound.faces_plant base).2 hn

theorem grow_menu {strict : Bool} {text : String} {m : Menu} (h : parse strict text = .ok m) (base : MenuGraph) :
    ∃ g, grow strict base text = .ok (base.nodes.size, g) ∧ base.Extends g ∧ g.menu base.nodes.size = m := by
  have hgrow := grow_spec strict base text
  rw [h] at hgrow
  obtain ⟨g, hg, hextends, hsize, hshown⟩ := hgrow
  have hmenu := base.menu_plant m
  have hrooted := base.plant_rooted m
  rw [plant_fst] at hg hshown hmenu hrooted
  refine ⟨g, hg, hextends, ?_⟩
  rw [MenuGraph.menu, hsize, unfoldWithin_congr hshown (fun q hq k hk => ?_) _ (Nat.le_refl _)]
  · exact hmenu
  · by_cases hlt : q < (base.plant none m).2.nodes.size
    · exact Nat.le_trans hq (Nat.le_of_lt (hrooted.parent q hq hlt k hk).1)
    · have hnone : (base.plant none m).2.node? q = none := Array.getElem?_eq_none (Nat.not_lt.mp hlt)
      rw [entriesOf, hnone] at hk
      exact absurd hk List.not_mem_nil

end PageStencil.Outline

namespace PageStencil.Session

open Outline

/-- Reading an outline adds the menu that it reads as, or leaves all as it was. -/
theorem run_readOutline (s : Studio) (text : String) (strict : Option Bool) :
    match parse (strict.getD s.settings.strict) text with
    | .error f => (readOutline text strict).run s = (.error (.outline f), s)
    | .ok m => ∃ menus, (readOutline text strict).run s = (.ok s.menus.nodes.size, { s with menus }) ∧
        s.menus.Extends menus ∧ menus.menu s.menus.nodes.size = m := by
  cases h : parse (strict.getD s.settings.strict) text with
  | error f =>
    have hgrow := grow_spec (strict.getD s.settings.strict) s.menus text
    rw [h] at hgrow
    rw [readOutline, run_bind_ok (run_get s), hgrow]
    rfl
  | ok m =>
    obtain ⟨menus, hgrow, hextends, hmenu⟩ := grow_menu h s.menus
    refine ⟨menus, ?_, hextends, hmenu⟩
    rw [readOutline, run_bind_ok (run_get s), hgrow]
    rfl

end PageStencil.Session
