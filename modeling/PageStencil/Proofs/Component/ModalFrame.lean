import PageStencil.Proofs.Component.ModalRendering
import PageStencil.Proofs.Markup.Touched

/-!
The places of a dialog, of which some may have been taken out. Rendering fills the title and the body, and leaves the
header and the footer out if nothing stands in them.
-/

namespace PageStencil.Modal

open Markup Stencil Forest Work

section Frame

variable {xml : Bool} {r : Nat} {f g : Forest} {tags kids : Set Nat} {d : Dialog}

def pillars (xml : Bool) (r : Nat) : List Node :=
  [r, r + 2, r + 4, r + 6, r + 8, r + (behind xml + 2), r + (behind xml + 4)]

def above (xml : Bool) (r : Nat) : List (Node × Node) :=
  [(r + 2, r), (r + 4, r + 2), (r + 6, r + 4), (r + 8, r + 6), (r + (behind xml + 4), r + 4)]

lemma header_mem_above (xml : Bool) (r : Nat) : (r + 6, r + 4) ∈ above xml r := by
  simp [above]

lemma footer_mem_above (xml : Bool) (r : Nat) : (r + (behind xml + 4), r + 4) ∈ above xml r := by
  simp [above]

lemma title_mem_above (xml : Bool) (r : Nat) : (r + 8, r + 6) ∈ above xml r := by
  simp [above]

/-- A copy of the dialog whose places stand where they stood, or have been taken out. -/
structure Framed (xml : Bool) (r : Nat) (f : Forest) : Prop where
  sound : f.Sound
  elements : ∀ n ∈ pillars xml r, f.shape? n = some (.inr ())
  under : ∀ e ∈ above xml r, ∀ p, e.1 ∈ f.childNodes p → p = e.2

lemma mem_pillars {e : Nat × Nat} (h : e ∈ above xml r) : e.1 ∈ pillars xml r ∧ e.2 ∈ pillars xml r := by
  simp only [above, List.mem_cons, List.not_mem_nil, or_false] at h
  rcases h with rfl | rfl | rfl | rfl | rfl <;> simp [pillars]

lemma Laid.framed (h : Laid xml r d f) {bs : List (Markup.Tree Node)} (hfooter : d.footer = some bs) :
    Framed xml r f := by
  have hdialog : f.find? (r + 2) = some (.element (r + 2) (Modal.tags xml).dialog _) :=
    h.sound.find?_child h.tree (List.mem_cons_of_mem _ List.mem_cons_self)
  have hcontent := h.find?_content
  have hheader := h.find?_header
  have htitle := h.sound.find?_child hheader (List.mem_cons_of_mem _ List.mem_cons_self)
  have hbody := h.sound.find?_child hcontent (c := .element (r + (behind xml + 2)) (Modal.tags xml).body d.body)
    (by simp [Dialog.parts, Markup.Tree.children])
  have hfoot := h.find?_footer hfooter
  have hshape : ∀ {n : Nat} {tag : Tag} {cs : List (Markup.Tree Node)}, f.find? n = some (.element n tag cs) →
      f.shape? n = some (.inr ()) := fun hn => shape?_of_own? (own?_eq_inr_iff.mpr (tag?_eq_some_iff.mpr ⟨_, hn⟩))
  refine ⟨h.sound, fun n hn => ?_, fun e he p hp => ?_⟩
  · simp only [pillars, List.mem_cons, List.not_mem_nil, or_false] at hn
    rcases hn with rfl | rfl | rfl | rfl | rfl | rfl | rfl
    · exact hshape h.tree
    · exact hshape hdialog
    · exact hshape hcontent
    · exact hshape hheader
    · exact hshape htitle
    · exact hshape hbody
    · exact hshape hfoot
  · -- A node stands under one node only, so it is enough that each stands where its template has it.
    refine h.sound.parent_unique hp ?_
    simp only [above, List.mem_cons, List.not_mem_nil, or_false] at he
    rcases he with rfl | rfl | rfl | rfl | rfl
    · rw [childNodes_of_find? h.tree]
      simp [Dialog.tree, Markup.Tree.childLabels, Markup.Tree.children, Markup.Tree.label]
    · rw [childNodes_of_find? hdialog]
      simp [Markup.Tree.childLabels, Markup.Tree.children, Markup.Tree.label]
    · rw [childNodes_of_find? hcontent]
      simp [Dialog.parts, Dialog.headed, Markup.Tree.childLabels, Markup.Tree.children, Markup.Tree.label]
    · rw [childNodes_of_find? hheader]
      simp [Dialog.headed, Markup.Tree.childLabels, Markup.Tree.children, Markup.Tree.label]
    · rw [childNodes_of_find? hcontent]
      simp [Dialog.parts, Dialog.footed, hfooter, Markup.Tree.childLabels, Markup.Tree.children, Markup.Tree.label]

namespace Framed

lemma lt (h : Framed xml r f) {n : Nat} (hn : n ∈ pillars xml r) : n < f.next := h.sound.lt_of_shape? (h.elements n hn)

lemma touched (h : Framed xml r f) (ht : Touched tags kids f g) : Framed xml r g where
  sound := ht.sound
  elements n hn := (ht.shape n (h.lt hn)).trans (h.elements n hn)
  under e he p hp := h.under e he p (ht.place e.1 (h.lt (mem_pillars he).1) p hp)

lemma within_root (h : Framed xml r f) : f.within r r = true := by
  obtain ⟨tag, htag⟩ := own?_of_shape? (h.elements r List.mem_cons_self)
  obtain ⟨t, ht⟩ := exists_find? htag
  exact within_self ht

lemma within_iff (h : Framed xml r f) {k p : Nat} (he : (k, p) ∈ above xml r) :
    f.within r k = true ↔ f.within r p = true ∧ k ∈ f.childNodes p := by
  refine h.sound.within_iff_under (h.under _ he) ?_
  simp only [above, List.mem_cons, Prod.mk.injEq, List.not_mem_nil, or_false] at he
  omega

lemma within_congr (h : Framed xml r f) (ht : Touched tags kids f g) {k p : Nat} (he : (k, p) ∈ above xml r)
    (hkids : p ∉ kids) (hp : g.within r p = true ↔ f.within r p = true) :
    g.within r k = true ↔ f.within r k = true := by
  rw [h.within_iff he, (h.touched ht).within_iff he, hp, ht.children p (h.lt (mem_pillars he).2) hkids]

lemma within_content (h : Framed xml r f) (ht : Touched tags kids f g) (hroot : r ∉ kids) (hdialog : r + 2 ∉ kids) :
    g.within r (r + 4) = true ↔ f.within r (r + 4) = true := by
  have hr : g.within r r = true ↔ f.within r r = true := iff_of_true (h.touched ht).within_root h.within_root
  have hd := h.within_congr ht (k := r + 2) (by simp [above]) hroot hr
  exact h.within_congr ht (by simp [above]) hdialog hd

lemma within_touched (h : Framed xml r f) (ht : Touched tags kids f g)
    (hkids : r ∉ kids ∧ r + 2 ∉ kids ∧ r + 4 ∉ kids ∧ r + 6 ∉ kids) {k p : Nat} (he : (k, p) ∈ above xml r)
    (hk : r + 4 ≤ p) : g.within r k = true ↔ f.within r k = true := by
  have hcontent := h.within_content ht hkids.1 hkids.2.1
  have hheader := h.within_congr ht (header_mem_above xml r) hkids.2.2.1 hcontent
  have hp := he
  simp only [above, List.mem_cons, Prod.mk.injEq, List.not_mem_nil, or_false] at hp
  rcases hp with ⟨_, rfl⟩ | ⟨_, rfl⟩ | ⟨_, rfl⟩ | ⟨_, rfl⟩ | ⟨_, rfl⟩
  · exact absurd hk (by omega)
  · exact absurd hk (by omega)
  · exact h.within_congr ht he hkids.2.2.1 hcontent
  · exact h.within_congr ht he hkids.2.2.2 hheader
  · exact h.within_congr ht he hkids.2.2.1 hcontent

lemma within_title (h : Framed xml r f) (ht : Touched tags kids f g)
    (hkids : r ∉ kids ∧ r + 2 ∉ kids ∧ r + 4 ∉ kids ∧ r + 6 ∉ kids) : g.within r (r + 8) = f.within r (r + 8) :=
  Bool.eq_iff_iff.mpr (h.within_touched ht hkids (title_mem_above xml r) (by omega))

lemma filled_header (h : Framed xml r f) (htitle : r + 8 ∈ f.childNodes (r + 6)) : f.Filled (r + 6) := by
  refine h.sound.filled_iff_shape?.mpr ⟨r + 8, htitle, fun content hcontent => ?_⟩
  rw [h.elements (r + 8) (by simp [pillars])] at hcontent
  cases hcontent

end Framed

end Frame

section Ending

variable {xml : Bool} {r : Nat} {f g : Forest} {n k p : Nat} {text : Option String}

def leaveOut (f : Forest) (n : Node) : Forest := if (f.tree n).isEmpty then f.detach n else f

lemma touched_leaveOut (hf : f.Sound) (n : Node) : Touched ∅ {p | n ∈ f.childNodes p} f (leaveOut f n) := by
  rw [leaveOut]
  split_ifs
  · exact .detach hf n
  · exact (Touched.refl hf).mono (Set.Subset.refl _) (Set.empty_subset _)

lemma mem_leaveOut_self (hf : f.Sound) : n ∈ (leaveOut f n).childNodes p ↔ n ∈ f.childNodes p ∧ f.Filled n := by
  rw [leaveOut, filled_iff]
  cases (f.tree n).isEmpty with
  | true => simp [hf.childNodes_detach]
  | false => simp

lemma mem_leaveOut_of_ne (hf : f.Sound) (hne : k ≠ n) : k ∈ (leaveOut f n).childNodes p ↔ k ∈ f.childNodes p := by
  rw [leaveOut]
  split_ifs
  · simp [hf.childNodes_detach, hne]
  · rfl

def ended (xml : Bool) (r : Nat) (text : Option String) (f : Forest) : Forest :=
  leaveOut (leaveOut (f.setText? (r + (behind xml + 2)) text) (r + 6)) (r + (behind xml + 4))

namespace Framed

lemma touched_leaveOut (h : Framed xml r f) (he : (n, p) ∈ above xml r) : Touched ∅ {p} f (leaveOut f n) :=
  (Modal.touched_leaveOut h.sound n).mono (Set.Subset.refl _) fun q hq => h.under _ he q hq

lemma touched_setText? (h : Framed xml r f) (hn : n ∈ pillars xml r) (text : Option String) :
    Touched ∅ {n} f (f.setText? n text) :=
  .setText? h.sound (h.elements n hn) text

lemma touched_ended (h : Framed xml r f) (text : Option String) :
    Touched ∅ {r + (behind xml + 2), r + 4} f (ended xml r text f) := by
  have htext := h.touched_setText? (n := r + (behind xml + 2)) (by simp [pillars]) text
  have hheader := (h.touched htext).touched_leaveOut (header_mem_above xml r)
  have hfooter := ((h.touched htext).touched hheader).touched_leaveOut (footer_mem_above xml r)
  refine ((htext.trans hheader).trans hfooter).mono ?_ ?_
  · simp
  · rintro q ((hq | hq) | hq)
    · exact Or.inl hq
    · exact Or.inr hq
    · exact Or.inr hq

lemma within_leaveOut (h : Framed xml r f) (hn : (n, r + 4) ∈ above xml r) :
    (leaveOut f n).within r (r + 4) = true ↔ f.within r (r + 4) = true :=
  h.within_content (h.touched_leaveOut hn) (by simp) (by simp)

lemma leaveOut_self (h : Framed xml r f) (hn : (n, r + 4) ∈ above xml r) :
    (leaveOut f n).within r n = true ↔ f.within r n = true ∧ f.Filled n := by
  rw [(h.touched (h.touched_leaveOut hn)).within_iff hn, h.within_leaveOut hn, mem_leaveOut_self h.sound,
    h.within_iff hn, and_assoc]

lemma leaveOut_other (h : Framed xml r f) (hn : (n, r + 4) ∈ above xml r) (hk : (k, r + 4) ∈ above xml r) (hne : k ≠ n) :
    (leaveOut f n).within r k = true ↔ f.within r k = true := by
  rw [(h.touched (h.touched_leaveOut hn)).within_iff hk, h.within_leaveOut hn, mem_leaveOut_of_ne h.sound hne,
    h.within_iff hk]

lemma body_text (h : Framed xml r f) (hk : (k, r + 4) ∈ above xml r) (text : Option String) :
    ((f.setText? (r + (behind xml + 2)) text).within r k = true ↔ f.within r k = true) ∧
      ((f.setText? (r + (behind xml + 2)) text).Filled k ↔ f.Filled k) := by
  have hlt := lt_behind xml
  have htext := h.touched_setText? (n := r + (behind xml + 2)) (by simp [pillars]) text
  have hbody : ∀ {p : Nat}, p = r ∨ p = r + 2 ∨ p = r + 4 ∨ p = r + 6 ∨ p = r + (behind xml + 4) →
      p ∉ ({r + (behind xml + 2)} : Set Nat) := by
    rintro p hp rfl
    omega
  refine ⟨h.within_touched htext ⟨hbody (by omega), hbody (by omega), hbody (by omega), hbody (by omega)⟩ hk
    (Nat.le_refl _), htext.filled_iff h.sound (h.lt (mem_pillars hk).1) (hbody ?_)⟩
  simp only [above, List.mem_cons, Prod.mk.injEq, List.not_mem_nil, or_false] at hk
  omega

lemma header_ended (h : Framed xml r f) :
    (ended xml r text f).within r (r + 6) = true ↔ f.within r (r + 6) = true ∧ f.Filled (r + 6) := by
  have hlt := lt_behind xml
  have hheader := header_mem_above xml r
  have hfooter := footer_mem_above xml r
  have htext := h.touched (h.touched_setText? (n := r + (behind xml + 2)) (by simp [pillars]) text)
  have hleft := htext.touched (htext.touched_leaveOut hheader)
  obtain ⟨hwithin, hfilled⟩ := h.body_text hheader text
  rw [ended, hleft.leaveOut_other hfooter hheader (by omega), htext.leaveOut_self hheader, hwithin, hfilled]

lemma footer_ended (h : Framed xml r f) : (ended xml r text f).within r (r + (behind xml + 4)) = true ↔
    f.within r (r + (behind xml + 4)) = true ∧ f.Filled (r + (behind xml + 4)) := by
  have hlt := lt_behind xml
  have hheader := header_mem_above xml r
  have hfooter := footer_mem_above xml r
  have htext := h.touched (h.touched_setText? (n := r + (behind xml + 2)) (by simp [pillars]) text)
  have hleave := htext.touched_leaveOut hheader
  obtain ⟨hwithin, hfilled⟩ := h.body_text hfooter text
  have hstill := hleave.filled_iff htext.sound (htext.lt (mem_pillars hfooter).1) (by
    rw [Set.mem_singleton_iff]
    omega)
  rw [ended, (htext.touched hleave).leaveOut_self hfooter, htext.leaveOut_other hheader hfooter (by omega), hwithin,
    hstill, hfilled]

lemma title_ended (h : Framed xml r f) (text : Option String) (hw : f.within r (r + 8) = true) :
    (ended xml r text f).within r (r + 8) = true := by
  have hlt := lt_behind xml
  have htitle := title_mem_above xml r
  have hended := h.touched_ended text
  rw [h.within_iff htitle] at hw
  -- The header holds the title, so it is not left out.
  refine ((h.touched hended).within_iff htitle).mpr ⟨h.header_ended.mpr ⟨hw.1, h.filled_header hw.2⟩, ?_⟩
  rw [hended.children (r + 6) (h.lt (mem_pillars htitle).2) ?_]
  · exact hw.2
  · rintro (heq | heq)
    · omega
    · rw [Set.mem_singleton_iff] at heq
      omega

end Framed

end Ending

section Label

variable {xml : Bool} {r : Nat} {f : Forest} {uid : String} {title : Option String}

namespace Framed

lemma setTag (h : Framed xml r f) (n : Nat) (change : Tag → Tag) : Framed xml r (f.setTag n change) :=
  h.touched (.setTag h.sound n change)

lemma title_setTag (h : Framed xml r f) (n : Nat) (change : Tag → Tag) :
    (f.setTag n change).within r (r + 8) = f.within r (r + 8) := h.within_title (.setTag h.sound n change) (by simp)

lemma touched_labelled (h : Framed xml r f) (uid : String) (title : Option String) :
    Touched {r, r + 8} {r + 8} f (labelled r uid title f) := by
  have hroot := Touched.setTag h.sound r fun t => t.set "aria-labelledby" (.text uid)
  have hid := Touched.setTag hroot.sound (r + 8) fun t => t.set "id" (.text uid)
  have htext := ((h.touched hroot).touched hid).touched_setText? (n := r + 8) (by simp [pillars]) title
  refine ((hroot.trans hid).trans htext).mono ?_ ?_
  · rintro q ((hq | hq) | hq)
    · exact .inl hq
    · exact .inr hq
    · exact absurd hq (Set.notMem_empty q)
  · simp

lemma tag_labelled (h : Framed xml r f) {tag : Tag} (hroot : f.own? r = some (.inr tag)) :
    (labelled r uid title f).own? r = some (.inr (tag.set "aria-labelledby" (.text uid))) := by
  have hnamed := (h.setTag r fun t => t.set "aria-labelledby" (.text uid)).setTag (r + 8) fun t => t.set "id" (.text uid)
  have htext := hnamed.touched_setText? (n := r + 8) (by simp [pillars]) title
  rw [labelled, htext.own r (hnamed.lt List.mem_cons_self) (Set.notMem_empty r),
    (h.setTag r _).sound.own?_setTag (by omega), h.sound.own?_setTag_self, hroot]
  rfl

lemma id_labelled (h : Framed xml r f) (uid : String) (title : Option String) :
    ∃ tag, (labelled r uid title f).own? (r + 8) = some (.inr tag) ∧ tag.get? "id" = some (.text uid) := by
  have hlabelled := h.setTag r fun t => t.set "aria-labelledby" (.text uid)
  have hnamed := hlabelled.setTag (r + 8) fun t => t.set "id" (.text uid)
  have htitle : r + 8 ∈ pillars xml r := by simp [pillars]
  have htext := hnamed.touched_setText? htitle title
  obtain ⟨tag, htag⟩ := own?_of_shape? (hlabelled.elements (r + 8) htitle)
  refine ⟨tag.set "id" (.text uid), ?_, lookup_putAttribute _ _ _⟩
  rw [labelled, htext.own (r + 8) (hnamed.lt htitle) (Set.notMem_empty _), hlabelled.sound.own?_setTag_self, htag]
  rfl

lemma text_labelled (h : Framed xml r f) (uid s : String) :
    ∃ k, (labelled r uid (some s) f).childNodes (r + 8) = [k] ∧
      (labelled r uid (some s) f).own? k = some (.inl (.text s)) := by
  have hnamed := (h.setTag r fun t => t.set "aria-labelledby" (.text uid)).setTag (r + 8) fun t => t.set "id" (.text uid)
  obtain ⟨tag, htag⟩ := own?_of_shape? (hnamed.elements (r + 8) (by simp [pillars]))
  exact ⟨_, hnamed.sound.setText?_self htag⟩

end Framed

end Label

section Stripped

variable {xml : Bool} {r : Nat} {f g : Forest} {tags : Set Nat} {text : Option String} {name : String}

lemma touched_stripMarkers (hf : f.Sound) (name : String) (r : Nat) : Touched Set.univ ∅ f (stripMarkers name f r) :=
  .mapTags hf r _

namespace Framed

lemma within_stripped (h : Framed xml r f) (name : String) {k p : Nat} (he : (k, p) ∈ above xml r) (hp : r + 4 ≤ p) :
    (stripMarkers name f r).within r k = true ↔ f.within r k = true :=
  h.within_touched (touched_stripMarkers h.sound name r) (by simp) he hp

lemma sections (h : Framed xml r f) (ht : Touched tags {r + 8} f g) (text : Option String) (name : String) :
    ((stripMarkers name (ended xml r text g) r).within r (r + 6) = true ↔ f.within r (r + 6) = true ∧ f.Filled (r + 6)) ∧
      ((stripMarkers name (ended xml r text g) r).within r (r + (behind xml + 4)) = true ↔
        f.within r (r + (behind xml + 4)) = true ∧ f.Filled (r + (behind xml + 4))) ∧
      (stripMarkers name (ended xml r text g) r).childNodes (r + (behind xml + 4)) =
        f.childNodes (r + (behind xml + 4)) := by
  have hlt := lt_behind xml
  have hg := h.touched ht
  have hended := hg.touched_ended text
  have hheader := header_mem_above xml r
  have hfooter := footer_mem_above xml r
  have hroot : r ∉ ({r + 8} : Set Nat) ∧ r + 2 ∉ ({r + 8} : Set Nat) ∧ r + 4 ∉ ({r + 8} : Set Nat) ∧
      r + 6 ∉ ({r + 8} : Set Nat) := by simp
  have hfoot : r + (behind xml + 4) ∉ ({r + 8} : Set Nat) := by
    rw [Set.mem_singleton_iff]
    omega
  have hkept : r + (behind xml + 4) ∉ ({r + (behind xml + 2), r + 4} : Set Nat) := by
    rw [Set.mem_insert_iff, Set.mem_singleton_iff]
    omega
  have hlast := h.lt (mem_pillars hfooter).1
  refine ⟨?_, ?_, ?_⟩
  · rw [(hg.touched hended).within_stripped name hheader (Nat.le_refl _), hg.header_ended,
      h.within_touched ht hroot hheader (Nat.le_refl _), ht.filled_iff h.sound (h.lt (mem_pillars hheader).1) hroot.2.2.2]
  · rw [(hg.touched hended).within_stripped name hfooter (Nat.le_refl _), hg.footer_ended,
      h.within_touched ht hroot hfooter (Nat.le_refl _), ht.filled_iff h.sound hlast hfoot]
  · have hstripped := touched_stripMarkers hended.sound name r
    rw [hstripped.children _ (hg.touched hended |>.lt (mem_pillars hfooter).1) (Set.notMem_empty _),
      hended.children _ (hg.lt (mem_pillars hfooter).1) hkept, ht.children _ hlast hfoot]

lemma tag_stripped (h : Framed xml r g) {n : Nat} (hn : n ∈ pillars xml r)
    (hw : (ended xml r text g).within r n = true) {tag : Tag} (htag : g.own? n = some (.inr tag)) :
    (stripMarkers name (ended xml r text g) r).tag? n = some (tag.remove name) := by
  have hended := h.touched_ended text
  rw [← own?_eq_inr_iff, stripMarkers, hended.sound.own?_mapTags hw, hended.own n (h.lt hn) (Set.notMem_empty n), htag]
  rfl

lemma text_stripped (h : Framed xml r g) (hw : (ended xml r text g).within r (r + 8) = true) {k : Nat} {c : Leaf}
    (hk : g.childNodes (r + 8) = [k]) (hc : g.own? k = some (.inl c)) :
    (stripMarkers name (ended xml r text g) r).children (r + 8) = [.leaf k c] := by
  have hlt := lt_behind xml
  have htitle : r + 8 ∈ pillars xml r := by simp [pillars]
  have hended := h.touched_ended text
  have hheld : (ended xml r text g).childNodes (r + 8) = [k] := by
    rw [hended.children _ (h.lt htitle) ?_, hk]
    rw [Set.mem_insert_iff, Set.mem_singleton_iff]
    omega
  have hbelow : (ended xml r text g).within r k = true :=
    hended.sound.within_child hw (hheld ▸ List.mem_singleton_self k)
  refine (touched_stripMarkers hended.sound name r).sound.children_eq_leaf ?_ ?_
  · rwa [stripMarkers, hended.sound.childNodes_mapTags]
  · rw [stripMarkers, hended.sound.own?_mapTags hbelow, hended.own k (h.sound.lt_of_own? hc) (Set.notMem_empty k), hc]
    rfl

end Framed

end Stripped

end PageStencil.Modal
