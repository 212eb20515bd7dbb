import Mathlib.Tactic.Lemma
import PageStencil.Json.Value

namespace PageStencil.Json

/-- Lists are the same item by item, and objects if the same names are found in them, for values that are the same. -/
inductive Same : Json → Json → Prop
  | null : Same .null .null
  | bool (b : Bool) : Same (.bool b) (.bool b)
  | integer (n : Int) : Same (.integer n) (.integer n)
  | real (x : Double) : Same (.real x) (.real x)
  | text (s : String) : Same (.text s) (.text s)
  | list {vs ws : List Json} : vs.length = ws.length →
      (∀ (i : Nat) v w, vs[i]? = some v → ws[i]? = some w → Same v w) → Same (.list vs) (.list ws)
  | object {fs gs : List (String × Json)} : (∀ name, (fs.lookup name).isSome = (gs.lookup name).isSome) →
      (∀ name v w, fs.lookup name = some v → gs.lookup name = some w → Same v w) → Same (.object fs) (.object gs)

lemma mem_of_lookup {fs : List (String × Json)} {name : String} {v : Json} (h : fs.lookup name = some v) :
    (name, v) ∈ fs := by
  obtain ⟨before, behind, rfl, -⟩ := List.lookup_eq_some_iff.mp h
  exact List.mem_append_right before List.mem_cons_self

theorem Same.refl : (v : Json) → Same v v
  | .null => .null
  | .bool b => .bool b
  | .integer n => .integer n
  | .real x => .real x
  | .text s => .text s
  | .list vs => .list rfl fun i v w hv hw => by
    obtain rfl := Option.some.inj (hv.symm.trans hw)
    have hlt : sizeOf v < sizeOf (Json.list vs) :=
      Nat.lt_of_lt_of_le (List.sizeOf_lt_of_mem (List.mem_of_getElem? hv)) (by simp)
    exact Same.refl v
  | .object fs => .object (fun _ => rfl) fun name v w hv hw => by
    obtain rfl := Option.some.inj (hv.symm.trans hw)
    have hmem : sizeOf (name, v) < sizeOf fs := List.sizeOf_lt_of_mem (mem_of_lookup hv)
    have hlt : sizeOf v < sizeOf (Json.object fs) := by
      rw [Prod.mk.sizeOf_spec] at hmem
      rw [Json.object.sizeOf_spec]
      omega
    exact Same.refl v
termination_by v => sizeOf v
decreasing_by all_goals exact hlt

section Members

variable {v w : Json} {name : String}

lemma Same.text_inj {s t : String} (h : Same (.text s) (.text t)) : s = t := by
  cases h
  rfl

lemma Same.length_eq {vs ws : List Json} (h : Same (.list vs) (.list ws)) : vs.length = ws.length := by
  cases h with
  | list hlength _ => exact hlength

lemma Same.uncons {vs ws : List Json} (h : Same (.list (v :: vs)) (.list (w :: ws))) :
    Same v w ∧ Same (.list vs) (.list ws) := by
  cases h with
  | list hlength hitems =>
    refine ⟨hitems 0 v w rfl rfl, .list (Nat.succ.inj hlength) fun i x y hx hy => ?_⟩
    exact hitems (i + 1) x y hx hy

lemma Same.field? (h : Same v w) (name : String) : Option.Rel Same (v.field? name) (w.field? name) := by
  cases h with
  | @object fs gs hnames hsame =>
    have hname := hnames name
    change Option.Rel Same (fs.lookup name) (gs.lookup name)
    cases hv : fs.lookup name with
    | none =>
      cases hw : gs.lookup name with
      | none => exact .none
      | some w => simp [hv, hw] at hname
    | some v =>
      cases hw : gs.lookup name with
      | none => simp [hv, hw] at hname
      | some w => exact .some (hsame name v w hv hw)
  | _ => exact .none

end Members

end PageStencil.Json
