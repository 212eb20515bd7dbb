import PageStencil.Proofs.Component.Stages
import PageStencil.Proofs.Markup.Touched

namespace PageStencil.Modal

open Markup Stencil Forest Work

inductive Edit
  | button (b : Button)
  | insert (parent : Node) (t : Markup.Tree Unit)
  | detach (n : Node)
  | clear (n : Node)

/-- `kept` are the buttons that have been added and not taken out again, in the order of their coming. Only elements
hold other nodes. -/
def Edit.perform (m : Modal) (kept : List Node) : Edit → Work (List Node)
  | .button b => return kept ++ [← m.addButton b]
  | .insert parent t => do
    if ((← get).forest.tag? parent).isSome then
      let n ← Work.plant t
      Work.append parent n
    return kept
  | .detach n => do
    Work.edit fun f => f.detach n
    return kept.filter (· ≠ n)
  | .clear n => do
    Work.edit fun f => f.clear n
    return if n = m.footer then [] else kept

section Edits

variable {m : Modal} {b : Bench} {kept : List Node}

lemma run_append_plant {f : Forest} {parent : Node} (hlt : parent < f.next) (t : Markup.Tree Unit) (uids : Allocator)
    (copy : WorkingCopy) :
    (Work.append parent f.next).run ⟨(f.plant t).2, uids, copy⟩ =
      (.ok (), ⟨(f.plant t).2.adopt parent f.next, uids, copy⟩) :=
  run_append (Nat.ne_of_lt hlt)

lemma run_addButton (hfooter : m.footer < b.forest.next) (o : Button) : (m.addButton o).run b =
    (.ok b.forest.next, { b with forest := (b.forest.plant o.tree).2.adopt m.footer b.forest.next }) := by
  rw [Modal.addButton, run_bind_ok (run_plant _ _), run_bind_ok (run_append_plant hfooter o.tree b.uids b.copy)]
  rfl

lemma sublist_adopt_plant {f : Forest} (hf : f.Sound) {parent n : Node} (hparent : f.shape? parent = some (.inr ()))
    (hn : n < f.next) (hkept : kept.Sublist (f.childNodes n)) (t : Markup.Tree Unit) :
    kept.Sublist (((f.plant t).2.adopt parent f.next).childNodes n) := by
  obtain ⟨tag, htag⟩ := own?_of_shape? hparent
  by_cases hpn : n = parent
  · subst hpn
    rw [hf.childNodes_adopt_plant_self htag]
    exact hkept.trans (List.sublist_append_left _ _)
  · rwa [hf.childNodes_adopt_plant (hf.lt_of_own? htag) hn hpn]

lemma Edit.run_perform (e : Edit) (hsound : b.forest.Sound) (hfooter : b.forest.shape? m.footer = some (.inr ()))
    (hkept : kept.Sublist (b.forest.childNodes m.footer)) :
    ∃ kept' f, (e.perform m kept).run b = (.ok kept', { b with forest := f }) ∧ Touched ∅ Set.univ b.forest f ∧
      kept'.Sublist (f.childNodes m.footer) := by
  have hlt := hsound.lt_of_shape? hfooter
  cases e with
  | button o =>
    obtain ⟨tag, htag⟩ := own?_of_shape? hfooter
    refine ⟨kept ++ [b.forest.next], _, ?_,
      (Touched.adopt_plant hsound hfooter o.tree).loose, ?_⟩
    · rw [perform, run_bind_ok (run_addButton hlt o)]
      rfl
    · rw [hsound.childNodes_adopt_plant_self htag]
      exact hkept.append_right _
  | insert parent t =>
    cases htag : b.forest.tag? parent with
    | none =>
      -- a leaf, or no node at all
      refine ⟨kept, b.forest, ?_, (Touched.refl hsound).loose, hkept⟩
      rw [perform, run_bind_ok (run_get b), htag]
      rfl
    | some tag =>
      have hshape := shape?_of_own? (own?_eq_inr_iff.mpr htag)
      refine ⟨kept, _, ?_, (Touched.adopt_plant hsound hshape t).loose,
        sublist_adopt_plant hsound hshape hlt hkept t⟩
      have happend := run_append_plant (hsound.lt_of_shape? hshape) t b.uids b.copy
      rw [perform, run_bind_ok (run_get b), htag]
      exact (run_bind_ok (run_plant t b)).trans (run_bind_ok happend)
  | detach n =>
    refine ⟨kept.filter (· ≠ n), _, rfl, (Touched.detach hsound n).loose, ?_⟩
    rw [hsound.childNodes_detach]
    exact hkept.filter _
  | clear n =>
    refine ⟨if n = m.footer then [] else kept, _, rfl,
      (Touched.clear hsound n).loose, ?_⟩
    split_ifs with hn
    · exact List.nil_sublist _
    · rwa [hsound.childNodes_clear (Ne.symm hn)]

theorem run_edits (edits : List Edit) (hsound : b.forest.Sound) (hfooter : b.forest.shape? m.footer = some (.inr ()))
    (hkept : kept.Sublist (b.forest.childNodes m.footer)) :
    ∃ kept' f, (edits.foldlM (Edit.perform m) kept).run b = (.ok kept', { b with forest := f }) ∧
      Touched ∅ Set.univ b.forest f ∧ kept'.Sublist (f.childNodes m.footer) := by
  induction edits generalizing kept b with
  | nil =>
    exact ⟨kept, b.forest, rfl, (Touched.refl hsound).loose, hkept⟩
  | cons e edits ih =>
    -- The footer is an element after each edit, so the next button can be put into it.
    obtain ⟨kept', f, hrun, htouched, hkept'⟩ := e.run_perform hsound hfooter hkept
    have hshape := (htouched.shape m.footer (hsound.lt_of_shape? hfooter)).trans hfooter
    obtain ⟨kept'', g, hruns, htouched', hkept''⟩ := ih (b := { b with forest := f }) htouched.sound hshape hkept'
    refine ⟨kept'', g, ?_, (htouched.trans htouched').mono (Set.union_subset (Set.Subset.refl _) (Set.Subset.refl _))
      (Set.subset_univ _), hkept''⟩
    rw [List.foldlM_cons, run_bind_ok hrun]
    exact hruns

end Edits

end PageStencil.Modal
