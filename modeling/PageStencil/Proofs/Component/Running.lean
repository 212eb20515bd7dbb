import PageStencil.Component.Bench
import PageStencil.Proofs.Running
import PageStencil.Proofs.Stencil.Lookup

namespace PageStencil

open Markup Stencil

def Bench.index (b : Bench) : Option Node → Index
  | some scope => Index.build b.copy.markerName b.forest scope
  | none => b.copy.targets

namespace Work

variable {α : Type} {b : Bench}

lemma run_edit (change : Forest → Forest) (b : Bench) :
    (edit change).run b = (.ok (), { b with forest := change b.forest }) := rfl

lemma run_setTag (n : Node) (change : Tag → Tag) (b : Bench) :
    (setTag n change).run b = (.ok (), { b with forest := b.forest.setTag n change }) := rfl

lemma run_attempt (change : Forest → Except Misuse Forest) (b : Bench) :
    (attempt change).run b = match change b.forest with
      | .ok forest => (.ok (), { b with forest })
      | .error m => (.error (.misuse m), b) := by
  change ((match change b.forest with
    | .ok forest => modify fun b => { b with forest }
    | .error m => throw (.misuse m) : Work Unit).run b) = _
  cases change b.forest <;> rfl

lemma run_root (b : Bench) : root.run b = (.ok b.copy.root, b) := rfl

lemma run_tree (n : Node) (b : Bench) : (tree n).run b = (.ok (b.forest.tree n), b) := rfl

lemma run_ofLookup (r : Except NotFound α) (b : Bench) :
    (ofLookup r).run b = match r with
      | .ok a => (.ok a, b)
      | .error e => (.error (.notFound e), b) := by
  cases r <;> rfl

lemma run_targets (scope : Option Node) (b : Bench) : (targets scope).run b = (.ok (b.index scope), b) := by
  cases scope <;> rfl

lemma run_contains (scope : Option Node) (marker : String) (b : Bench) :
    (contains scope marker).run b = (.ok ((b.index scope).contains b.forest marker), b) := by
  cases scope <;> rfl

lemma run_target (scope : Option Node) (marker : String) (b : Bench) :
    (target scope marker).run b = match (b.index scope).single b.forest marker with
      | .ok n => (.ok n, b)
      | .error e => (.error (.notFound e), b) := by
  rw [target, run_bind_ok (run_targets scope b), run_bind_ok (run_get b), run_ofLookup]
  cases (b.index scope).single b.forest marker <;> rfl

lemma run_target_ok {scope : Option Node} {marker : String} {n : Node}
    (h : (b.index scope).single b.forest marker = .ok n) : (target scope marker).run b = (.ok n, b) := by
  rw [run_target, h]

lemma run_takeTarget (scope : Option Node) (marker : String) (b : Bench) :
    (takeTarget scope marker).run b = match (b.index scope).take b.forest marker with
      | .ok (n, rest, forest) => (.ok n, { b with
          forest, copy := { b.copy with targets := if scope.isNone then rest else b.copy.targets } })
      | .error e => (.error (.notFound e), b) := by
  rw [takeTarget, run_bind_ok (run_targets scope b), run_bind_ok (run_get b), run_bind, run_ofLookup]
  cases (b.index scope).take b.forest marker <;> rfl

lemma run_takeTarget_error {scope : Option Node} {marker : String} {e : NotFound}
    (h : (b.index scope).single b.forest marker = .error e) :
    (takeTarget scope marker).run b = (.error (.notFound e), b) := by
  rw [run_takeTarget, Index.take_of_not_single h]

lemma run_takeTarget_below {scope : Node} {marker : String} {n : Node}
    (h : (Index.build b.copy.markerName b.forest scope).single b.forest marker = .ok n) :
    (takeTarget (some scope) marker).run b = (.ok n, { b with forest := b.forest.detach n }) := by
  have htake : (b.index (some scope)).take b.forest marker = _ := Index.take_of_single h
  rw [run_takeTarget, htake]
  rfl

lemma run_nextId (b : Bench) :
    nextId.run b = match (b.uids.next? b.copy.kind).1 with
      | some id => (.ok id, { b with uids := (b.uids.next? b.copy.kind).2 })
      | none => (.error .identifierTooLong, { b with uids := (b.uids.next? b.copy.kind).2 }) := by
  rw [nextId, run_bind_ok (run_get b)]
  rcases b.uids.next? b.copy.kind with ⟨_ | id, uids⟩ <;> rfl

lemma run_plant {γ : Type} (t : Markup.Tree γ) (b : Bench) :
    (plant t).run b = (.ok b.forest.next, { b with forest := (b.forest.plant t).2 }) := rfl

lemma run_instantiate (n : Node) (b : Bench) :
    (instantiate n).run b = (.ok b.forest.next, { b with forest := (b.forest.plant (b.forest.tree n)).2 }) := rfl

lemma run_append {parent n : Node} (h : parent ≠ n) :
    (append parent n).run b = (.ok (), { b with forest := b.forest.adopt parent n }) := by
  rw [append, run_attempt, Forest.append, if_neg h]

lemma run_finish (b : Bench) : finish.run b = (.ok (), { b with
    forest := stripMarkers b.copy.markerName b.forest b.copy.root
    copy := { b.copy with rendered := true } }) := rfl

lemma run_once_rendered (w : Work Unit) (h : b.copy.rendered = true) : (once w).run b = (.ok b.copy.root, b) := by
  rw [once, run_bind_ok (run_get b), h]
  rfl

lemma run_once (w : Work Unit) (h : b.copy.rendered = false) :
    (once w).run b = (w >>= fun _ => finish >>= fun _ => root).run b := by
  rw [once, run_bind_ok (run_get b), h]
  simp

lemma run_once_ok {w : Work Unit} {c : Bench} (h : b.copy.rendered = false) (hrun : w.run b = (.ok (), c)) :
    (once w).run b = (.ok c.copy.root, { c with
      forest := stripMarkers c.copy.markerName c.forest c.copy.root
      copy := { c.copy with rendered := true } }) := by
  rw [run_once w h, run_bind_ok hrun, run_bind_ok (run_finish c)]
  exact run_root _

lemma run_written (pretty : Bool) (b : Bench) : ∃ s, (written pretty).run b = (.ok s, b) := ⟨_, rfl⟩

end Work

end PageStencil
