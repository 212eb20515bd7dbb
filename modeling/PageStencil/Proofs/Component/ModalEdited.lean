import PageStencil.Proofs.Component.Editing
import PageStencil.Proofs.Component.ModalFrame

/-!
A dialog that is rendered after it has been worked on by hand. It is labelled by its title if it still has one, and its
header and footer go if nothing stands in them.
-/

namespace PageStencil.Modal

open Markup Stencil Forest Work

section Runs

variable {xml : Bool} {m : Modal} {b : Bench}

structure Edited (xml : Bool) (m : Modal) (b : Bench) : Prop where
  kind : b.copy.kind = kind
  marker : b.copy.markerName = markerAttribute
  rendered : b.copy.rendered = false
  targets : b.copy.targets = ⟨b.copy.root, places xml b.copy.root⟩
  header : m.header = b.copy.root + 6
  body : m.body = b.copy.root + (behind xml + 2)
  footer : m.footer = b.copy.root + (behind xml + 4)
  framed : Framed xml b.copy.root b.forest
  root : b.forest.own? b.copy.root = some (.inr (tags xml).root)

lemma Unrendered.edited {buttons : List (Markup.Tree Unit)} (h : Unrendered xml m (tags xml).root buttons b) :
    Edited xml m b := by
  obtain ⟨bs, _, hlaid⟩ := h.laid
  exact ⟨h.kind, h.marker, h.rendered, h.targets, h.header, h.body, h.footer, hlaid.framed rfl,
    own?_eq_inr_iff.mpr (tag?_eq_some_iff.mpr ⟨_, hlaid.tree⟩)⟩

namespace Edited

lemma shape_footer (h : Edited xml m b) : b.forest.shape? m.footer = some (.inr ()) := by
  rw [h.footer]
  exact h.framed.elements _ (by simp [pillars])

lemma touched (h : Edited xml m b) {kids : Set Nat} {f : Forest} (ht : Touched ∅ kids b.forest f) :
    Edited xml m { b with forest := f } :=
  ⟨h.kind, h.marker, h.rendered, h.targets, h.header, h.body, h.footer, h.framed.touched ht,
    (ht.own _ (h.framed.lt List.mem_cons_self) (Set.notMem_empty _)).trans h.root⟩

end Edited

section Rendering

variable {r : Nat}

lemma run_leaveOut (n : Node) (b : Bench) :
    (dropIfEmpty n).run b = (.ok (), { b with forest := leaveOut b.forest n }) := by
  rw [run_dropIfEmpty, leaveOut]
  split_ifs <;> rfl

lemma run_ended (hheader : m.header = r + 6) (hbody : m.body = r + (behind xml + 2))
    (hfooter : m.footer = r + (behind xml + 4)) (b : Bench) :
    (Work.edit (fun f => f.setText? m.body m.text) >>= fun _ => dropIfEmpty m.header >>= fun _ =>
      dropIfEmpty m.footer).run b = (.ok (), { b with forest := ended xml r m.text b.forest }) := by
  rw [hheader, hbody, hfooter, run_bind_ok (run_edit _ _), run_bind_ok (run_leaveOut _ _), run_leaveOut]
  rfl

namespace Edited

lemma run_untitled (h : Edited xml m b) (hw : b.forest.within b.copy.root (b.copy.root + 8) = false) :
    m.render.run b = (.ok (), { b with
      forest := ended xml b.copy.root m.text (b.forest.setTag b.copy.root (rootTag m)) }) := by
  rw [run_opened h.targets, h.framed.title_setTag, hw]
  exact run_ended h.header h.body h.footer _

lemma run_titled (h : Edited xml m b) (hw : b.forest.within b.copy.root (b.copy.root + 8) = true)
    (hshort : b.uids.Short 1) : m.render.run b = (.ok (), { b with
      forest := ended xml b.copy.root m.text (labelled b.copy.root (identifier b.uids.value) m.title
        (b.forest.setTag b.copy.root (rootTag m)))
      uids := b.uids.skip 1 }) := by
  have hopened := h.framed.setTag b.copy.root (rootTag m)
  have hlabel := run_labelled (m := m) (b := { b with forest := b.forest.setTag b.copy.root (rootTag m) }) h.targets
    h.kind ((hopened.title_setTag _ _).trans ((h.framed.title_setTag _ _).trans hw)) hshort
  rw [run_opened h.targets, h.framed.title_setTag, hw, if_pos rfl, run_bind_ok hlabel]
  exact run_ended h.header h.body h.footer _

lemma run_titled_long (h : Edited xml m b) (hw : b.forest.within b.copy.root (b.copy.root + 8) = true)
    (hlong : ¬ b.uids.Short 1) : m.render.run b = (.error .identifierTooLong, { b with
      forest := b.forest.setTag b.copy.root (rootTag m)
      uids := b.uids.skip 1 }) := by
  have hid := Navbar.run_nextId_of_long (b := { b with forest := b.forest.setTag b.copy.root (rootTag m) }) hlong
  rw [run_opened h.targets, h.framed.title_setTag, hw, if_pos rfl, setTitle, run_bind_error (run_bind_error hid)]

end Edited

end Rendering

structure Titled (m : Modal) (root title : Node) (uid : String) (f : Forest) : Prop where
  label : ∃ tag, f.tag? root = some tag ∧ tag.get? "aria-labelledby" = some (.text uid)
  within : f.within root title = true
  id : ∃ tag, f.tag? title = some tag ∧ tag.get? "id" = some (.text uid)
  text : ∀ s, m.title = some s → ∃ k, f.children title = [.leaf k (.text s)]

/-- A dialog before and after its rendering: it is labelled by its title if it has one, its header and its footer stay if
something stands in them, and its buttons are still in the footer. -/
structure Finished (m : Modal) (title : Node) (kept : List Node) (b c : Bench) : Prop where
  labelled : ∃ tag, c.forest.tag? b.copy.root = some tag ∧
    (tag.has "aria-labelledby" = true ↔ b.forest.within b.copy.root title = true)
  taken : c.uids = if b.forest.within b.copy.root title then b.uids.skip 1 else b.uids
  titled : b.forest.within b.copy.root title = true →
    Titled m b.copy.root title (identifier b.uids.value) c.forest
  header : b.forest.within b.copy.root m.header = true →
    (c.forest.within b.copy.root m.header = true ↔ b.forest.Filled m.header)
  footer : b.forest.within b.copy.root m.footer = true →
    (c.forest.within b.copy.root m.footer = true ↔ b.forest.Filled m.footer)
  buttons : kept.Sublist (c.forest.childNodes m.footer)

section Closing

variable {r : Nat} {f : Forest} {text : Option String}

lemma Framed.titled (h : Framed xml r f) (hw : f.within r (r + 8) = true) {uid : String} {tag : Tag}
    (hroot : f.own? r = some (.inr tag)) : Titled m r (r + 8) uid
      (stripMarkers markerAttribute (ended xml r text (labelled r uid m.title f)) r) := by
  have htitle := title_mem_above xml r
  have hlabelled := h.touched_labelled uid m.title
  have hg := h.touched hlabelled
  have hended := hg.touched (hg.touched_ended text)
  have hlast := hg.title_ended text ((h.within_title hlabelled (by simp)).trans hw)
  obtain ⟨named, hnamed, hid⟩ := h.id_labelled uid m.title
  refine ⟨⟨_, hg.tag_stripped List.mem_cons_self hended.within_root (h.tag_labelled hroot), ?_⟩,
    (hended.within_stripped markerAttribute htitle (by omega)).mpr hlast,
    ⟨_, hg.tag_stripped (mem_pillars htitle).1 hlast hnamed, ?_⟩, fun s hs => ?_⟩
  · rw [Tag.get?_remove, if_neg (by decide)]
    exact lookup_putAttribute _ _ _
  · rwa [Tag.get?_remove, if_neg (by decide)]
  · obtain ⟨k, hk, htext⟩ := h.text_labelled uid s
    rw [← hs] at hk htext
    exact ⟨k, hg.text_stripped hlast hk htext⟩

lemma get?_rootTag (xml : Bool) (m : Modal) : (rootTag m (Modal.tags xml).root).get? "aria-labelledby" = none := by
  have hid : ((Modal.tags xml).root.setText? "id" m.id).get? "aria-labelledby" = none := by
    rw [Tag.get?_setText?_of_ne (by decide)]
    cases xml <;> rfl
  rw [rootTag, Tag.addClasses, Tag.get?_addTokens (by decide), hid]

end Closing

namespace Edited

variable {kept : List Node} {tags : Set Nat} {g : Forest} {tag : Tag}

lemma finished (h : Edited xml m b) (hkept : kept.Sublist (b.forest.childNodes m.footer))
    (ht : Touched tags {b.copy.root + 8} b.forest g) (hroot : g.own? b.copy.root = some (.inr tag))
    (hlabel : tag.has "aria-labelledby" = true ↔ b.forest.within b.copy.root (b.copy.root + 8) = true)
    (htitled : b.forest.within b.copy.root (b.copy.root + 8) = true →
      Titled m b.copy.root (b.copy.root + 8) (identifier b.uids.value)
        (stripMarkers markerAttribute (ended xml b.copy.root m.text g) b.copy.root))
    {c : Bench} (hforest : c.forest = stripMarkers markerAttribute (ended xml b.copy.root m.text g) b.copy.root)
    (huids : c.uids = if b.forest.within b.copy.root (b.copy.root + 8) then b.uids.skip 1 else b.uids) :
    Finished m (b.copy.root + 8) kept b c := by
  have hframed := h.framed.touched ht
  obtain ⟨hheader, hfooter, hbuttons⟩ := h.framed.sections ht m.text markerAttribute
  rw [← h.header, ← hforest] at hheader
  rw [← h.footer, ← hforest] at hfooter hbuttons
  refine ⟨⟨tag.remove markerAttribute, ?_, ?_⟩, huids, fun hw => hforest ▸ htitled hw, fun hw => ?_, fun hw => ?_, ?_⟩
  · rw [hforest]
    exact hframed.tag_stripped List.mem_cons_self (hframed.touched (hframed.touched_ended m.text)).within_root hroot
  · rw [← hlabel, Tag.has, Tag.get?_remove, if_neg (by decide), Tag.has]
  · rw [hheader, and_iff_right hw]
  · rw [hfooter, and_iff_right hw]
  · rwa [hbuttons]

theorem run_once (h : Edited xml m b) (hkept : kept.Sublist (b.forest.childNodes m.footer))
    (hshort : b.forest.within b.copy.root (b.copy.root + 8) = true → b.uids.Short 1) :
    ∃ c, (Work.once m.render).run b = (.ok b.copy.root, c) ∧ Finished m (b.copy.root + 8) kept b c := by
  have hopened := Touched.setTag h.framed.sound b.copy.root (rootTag m)
  have hframed := h.framed.setTag b.copy.root (rootTag m)
  have hroot : (b.forest.setTag b.copy.root (rootTag m)).own? b.copy.root =
      some (.inr (rootTag m (Modal.tags xml).root)) := by
    rw [h.framed.sound.own?_setTag_self, h.root]
    rfl
  -- The title decides which forest the rendering ends in; what comes after it is the same for both.
  cases hw : b.forest.within b.copy.root (b.copy.root + 8) with
  | false =>
    have honce := run_once_ok h.rendered (h.run_untitled hw)
    refine ⟨_, honce, h.finished hkept (hopened.mono (Set.Subset.refl _) (Set.empty_subset _)) hroot ?_
      (fun htitle => ?_) (congrArg (fun name => stripMarkers name _ _) h.marker) ?_⟩
    · rw [Tag.has, get?_rootTag, hw]
      simp
    · rw [hw] at htitle
      cases htitle
    · rw [hw]
      rfl
  | true =>
    have honce := run_once_ok h.rendered (h.run_titled hw (hshort hw))
    have hlabelled := hframed.touched_labelled (identifier b.uids.value) m.title
    refine ⟨_, honce, h.finished hkept ((hopened.trans hlabelled).mono (Set.Subset.refl _) (by simp))
      (hframed.tag_labelled hroot) ?_ (fun _ => hframed.titled ((h.framed.title_setTag _ _).trans hw) hroot)
      (congrArg (fun name => stripMarkers name _ _) h.marker) ?_⟩
    · rw [Tag.has, Tag.get?, Tag.set, lookup_putAttribute, hw]
      simp
    · rw [hw]
      rfl

theorem run_once_stops (h : Edited xml m b) (hw : b.forest.within b.copy.root (b.copy.root + 8) = true)
    (hlong : ¬ b.uids.Short 1) : ∃ c, (Work.once m.render).run b = (.error .identifierTooLong, c) :=
  ⟨_, (Work.run_once _ h.rendered).trans (run_bind_error (h.run_titled_long hw hlong))⟩

end Edited

end Runs

/-- A dialog is made from the packaged template, worked on by hand and rendered. -/
theorem once_render_edited {s : Source} (hdir : s.directory = Packaged.directory) {template : Markup.Tree Unit}
    (hread : s.readRoot templateName = .ok template) {f : Forest} (hf : f.Sound) (name : String) (uids : Allocator)
    {title text id cssClass : Option String} {m : Modal} {b : Bench}
    (hmake : (make title text id cssClass).run (Bench.withCopy name kind template f uids) = (.ok m, b))
    (edits : List Edit) :
    ∃ heading kept c, b.copy.targets.single b.forest "title" = .ok heading ∧
      (edits.foldlM (Edit.perform m) []).run b = (.ok kept, c) ∧ c.uids = uids ∧ c.copy.root = f.next ∧
      ((c.forest.within f.next heading = true → uids.Short 1) →
        ∃ d, (Work.once m.render).run c = (.ok f.next, d) ∧ Finished m heading kept c d) ∧
      (c.forest.within f.next heading = true → ¬ uids.Short 1 →
        ∃ d, (Work.once m.render).run c = (.error .identifierTooLong, d)) := by
  obtain rfl := eq_packaged hdir hread
  rcases run_make_withCopy s.isXml name hf uids title text id cssClass with
    ⟨e, hrun⟩ | ⟨header, body, footer, hrun, hunrendered⟩
  · rw [hrun] at hmake
    cases hmake
  · rw [hrun] at hmake
    cases hmake
    have hedited := hunrendered.edited
    obtain ⟨kept, g, hedits, htouched, hkept⟩ :=
      run_edits edits hedited.framed.sound hedited.shape_footer (List.nil_sublist _)
    have hworked := hedited.touched htouched
    refine ⟨f.next + 8, kept, _, ?_, hedits, rfl, rfl, hworked.run_once hkept, hworked.run_once_stops⟩
    obtain ⟨_, _, hlaid⟩ := hunrendered.laid
    rw [hunrendered.targets]
    exact Index.single_of_found rfl hlaid.label_mem

def sampleEdits : List Edit :=
  [.insert 18 (Navbar.words "Sure?"), .button { label := some "Yes" }, .button { label := some "No" }, .clear 6, .detach 25]

theorem sample_edited : ∃ template m b heading kept c d,
    Navbar.shelves.readRoot templateName = .ok template ∧
    (make (some "Question") none none none).run (Bench.withCopy markerAttribute kind template {} ⟨1000, 0⟩) = (.ok m, b) ∧
    b.copy.targets.single b.forest "title" = .ok heading ∧
    (sampleEdits.foldlM (Edit.perform m) []).run b = (.ok kept, c) ∧
    (Work.once m.render).run c = (.ok 0, d) ∧ Finished m heading kept c d := by
  obtain ⟨_, hread⟩ := read_packaged (s := Navbar.shelves) rfl (by decide +kernel) (d := .asWritten) rfl
  have hempty : ({} : Forest).Sound := ⟨List.nodup_nil, fun _ hn => absurd hn List.not_mem_nil⟩
  obtain ⟨header, body, footer, hmake, _⟩ := run_make_new false hempty ⟨1000, 0⟩ (some "Question") none none none
  obtain ⟨heading, kept, c, hsingle, hedits, _, _, hdone, _⟩ :=
    once_render_edited (s := Navbar.shelves) rfl hread hempty markerAttribute ⟨1000, 0⟩ hmake sampleEdits
  obtain ⟨d, hrun, hfinished⟩ := hdone fun _ => by decide +kernel
  exact ⟨_, _, _, heading, kept, c, d, hread, hmake, hsingle, hedits, hrun, hfinished⟩

/-- A dialog that is left as it is made is not rendered where the next identifier has too many digits. -/
theorem untouched_stops : ∃ template m b, Navbar.shelves.readRoot templateName = .ok template ∧
    (make none none none none).run (Bench.withCopy markerAttribute kind template {} (Navbar.nearlyTooLong.skip 1)) =
      (.ok m, b) ∧
    (([] : List Edit).foldlM (Edit.perform m) []).run b = (.ok [], b) ∧
    ((Work.once m.render).run b).1 = .error .identifierTooLong := by
  obtain ⟨_, hread⟩ := read_packaged (s := Navbar.shelves) rfl (by decide +kernel) (d := .asWritten) rfl
  have hempty : ({} : Forest).Sound := ⟨List.nodup_nil, fun _ hn => absurd hn List.not_mem_nil⟩
  obtain ⟨header, body, footer, hmake, hunrendered⟩ :=
    run_make_new false hempty (Navbar.nearlyTooLong.skip 1) none none none none
  obtain ⟨c, hstop, _⟩ := hunrendered.run_once_stops (by decide +kernel)
  exact ⟨_, _, _, hread, hmake, rfl, congrArg Prod.fst hstop⟩

end PageStencil.Modal
