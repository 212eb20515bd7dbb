import Mathlib.Tactic.Lemma
import PageStencil.Fault

namespace PageStencil

variable {σ α β : Type} {w : ExceptT Fault (StateM σ) α} {k : α → ExceptT Fault (StateM σ) β} {s s' : σ}

lemma run_pure (a : α) (s : σ) : (pure a : ExceptT Fault (StateM σ) α).run s = (.ok a, s) := rfl

lemma run_throw (e : Fault) (s : σ) : (throw e : ExceptT Fault (StateM σ) α).run s = (.error e, s) := rfl

lemma run_get (s : σ) : (get : ExceptT Fault (StateM σ) σ).run s = (.ok s, s) := rfl

lemma run_bind (w : ExceptT Fault (StateM σ) α) (k : α → ExceptT Fault (StateM σ) β) (s : σ) :
    (w >>= k).run s = match w.run s with
      | (.ok a, s') => (k a).run s'
      | (.error e, s') => (.error e, s') := by
  change (match w.run s with | (r, s') => (ExceptT.bindCont k r) s') = _
  rcases w.run s with ⟨_ | _, s'⟩ <;> rfl

lemma run_bind_ok {a : α} (h : w.run s = (.ok a, s')) : (w >>= k).run s = (k a).run s' := by
  rw [run_bind, h]

lemma run_bind_error {e : Fault} (h : w.run s = (.error e, s')) : (w >>= k).run s = (.error e, s') := by
  rw [run_bind, h]

lemma run_map (f : α → β) (w : ExceptT Fault (StateM σ) α) (s : σ) :
    (f <$> w).run s = ((w.run s).1.map f, (w.run s).2) := by
  rw [ExceptT.run_map]
  rfl

lemma run_discard (w : ExceptT Fault (StateM σ) α) (s : σ) :
    (discard w).run s = ((w.run s).1.map fun _ => (), (w.run s).2) := by
  rw [discard, LawfulFunctor.map_const]
  exact run_map _ w s

section Except

variable {ε : Type} {x : Except ε α} {b : β}

lemma bind_eq_ok {k : α → Except ε β} (h : x >>= k = .ok b) : ∃ a, x = .ok a ∧ k a = .ok b := by
  cases x with
  | error e => cases h
  | ok a => exact ⟨a, rfl, h⟩

lemma map_eq_ok {f : α → β} (h : x.map f = .ok b) : ∃ a, x = .ok a ∧ f a = b := by
  cases x with
  | error e => cases h
  | ok a => exact ⟨a, rfl, Except.ok.inj h⟩

lemma mapError_eq_ok {ε' : Type} {f : ε → ε'} {a : α} {x : Except ε α} (h : x.mapError f = .ok a) : x = .ok a := by
  cases x with
  | error e => cases h
  | ok b => rw [Except.ok.inj h]

end Except

end PageStencil
