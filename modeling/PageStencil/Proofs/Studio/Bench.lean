import PageStencil.Proofs.Component.Running
import PageStencil.Studio.Components

namespace PageStencil

open Markup Stencil

namespace Studio

variable {s s' : Studio} {id : FragmentId}

lemma fragment_of_le (h : s.fragments.size ≤ id) : s.fragment id = default := by
  rw [fragment, Array.getElem?_eq_none h, Option.getD_none]

lemma fragment_push {f : Fragment} (h : s'.fragments = s.fragments.push f) (i : FragmentId) :
    s'.fragment i = if i = s.fragments.size then f else s.fragment i := by
  rw [fragment, fragment, h, Array.getElem?_push]
  split <;> simp

lemma fragment_setFragment (s : Studio) (hid : id < s.fragments.size) (change : Fragment → Fragment) (i : FragmentId) :
    (s.setFragment id change).fragment i = if i = id then change (s.fragment i) else s.fragment i := by
  rw [fragment, fragment, setFragment, Array.getElem?_modify]
  by_cases h : id = i
  · subst h
    rw [if_pos rfl, if_pos rfl, Array.getElem?_eq_getElem hid]
    rfl
  · rw [if_neg h, if_neg (Ne.symm h)]

def bench (s : Studio) (id : FragmentId) : Bench :=
  ⟨s.forest, s.allocator (s.fragment id).uids, (s.fragment id).copy⟩

def back (s : Studio) (id : FragmentId) (b : Bench) : Studio :=
  { s with
    forest := b.forest
    allocators := s.allocators.setIfInBounds (s.fragment id).uids b.uids
    fragments := s.fragments.setIfInBounds id { s.fragment id with copy := b.copy } }

lemma size_back (s : Studio) (id : FragmentId) (b : Bench) : (s.back id b).fragments.size = s.fragments.size :=
  Array.size_setIfInBounds

lemma fragment_back (hid : id < s.fragments.size) (b : Bench) (i : FragmentId) :
    (s.back id b).fragment i = if i = id then { s.fragment id with copy := b.copy } else s.fragment i := by
  rw [fragment, back, Array.getElem?_setIfInBounds]
  by_cases h : id = i
  · rw [if_pos h, if_pos h.symm, if_pos (h ▸ hid), Option.getD_some]
  · rw [if_neg h, if_neg (Ne.symm h), fragment]

lemma fragment_setContent (hid : id < s.fragments.size) (content : Content) :
    (s.setFragment id fun f => { f with content }).fragment id = { s.fragment id with content } :=
  (s.fragment_setFragment hid _ id).trans (if_pos rfl)

lemma bench_setContent (hid : id < s.fragments.size) (content : Content) :
    (s.setFragment id fun f => { f with content }).bench id = s.bench id := by
  rw [bench, fragment_setContent hid]
  rfl

lemma set_getD {α : Type} [Inhabited α] (as : Array α) (i : Nat) : as.setIfInBounds i (as[i]?.getD default) = as := by
  apply Array.ext_getElem?
  intro j
  rw [Array.getElem?_setIfInBounds]
  split
  next h =>
    subst h
    split
    next hlt => rw [Array.getElem?_eq_getElem hlt, Option.getD_some]
    next hle => rw [Array.getElem?_eq_none (Nat.not_lt.mp hle)]
  next => rfl

lemma back_bench (s : Studio) (id : FragmentId) : s.back id (s.bench id) = s := by
  have hf : s.fragments.setIfInBounds id (s.fragment id) = s.fragments := set_getD s.fragments id
  have ha : s.allocators.setIfInBounds (s.fragment id).uids (s.allocator (s.fragment id).uids) = s.allocators :=
    set_getD s.allocators _
  rw [back, bench, hf, ha]

end Studio

namespace Session

variable {α : Type} {id : FragmentId} {w : Work α} {s s' : Studio}

lemma run_work (id : FragmentId) (w : Work α) (s : Studio) :
    (work id w).run s = ((w.run (s.bench id)).1, s.back id (w.run (s.bench id)).2) := rfl

lemma work_ok {a : α} (h : (work id w).run s = (.ok a, s')) :
    ∃ c, w.run (s.bench id) = (.ok a, c) ∧ s' = s.back id c := by
  rw [run_work] at h
  obtain ⟨ha, hs⟩ := Prod.mk.inj h
  exact ⟨(w.run (s.bench id)).2, Prod.ext ha rfl, hs.symm⟩

lemma run_render_of_le (h : s.fragments.size ≤ id) : (render id).run s = (.error .nothingToRender, s) := by
  have hf := Studio.fragment_of_le h
  have hwork : (Work.once (rendering s.menus (s.fragment id).content)).run (s.bench id) =
      (.error .nothingToRender, s.bench id) := by
    rw [Work.run_once _ (by rw [Studio.bench, hf]; rfl), hf]
    rfl
  rw [render, run_bind_ok (run_get s), run_work, hwork, Studio.back_bench]

end Session

end PageStencil
