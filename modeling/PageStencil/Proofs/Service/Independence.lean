import PageStencil.Proofs.Json.Octets
import PageStencil.Proofs.Service.Steps
import PageStencil.Proofs.Settings

/-!
Sequences of requests. What a service answers to a request for a fragment depends on the request itself and on those
that were answered with a fragment of the same kind before it, and no two fragments share an identifier.
-/

namespace PageStencil.Service

open Markup Stencil

def after (p : Press) (rs : List Request) : Press := rs.foldl (fun p r => (answer p r).2) p

structure Running (p : Press) : Prop where
  sound : p.Sound
  packaged : p.source.directory = Packaged.directory
  above : ∀ k : FragmentKind, -(Text.leastTooLong : Int) < (p.counter k.name).value

section Counters

variable {k : FragmentKind} {p q : Press} {r : Request} {o : Except Fault Response} {a a' : Allocator}

def Exhausted (k : FragmentKind) (p : Press) : Prop := (Text.leastTooLong : Int) ≤ (p.counter k.name).value

lemma Step.le (h : Step k p r o q) : (p.counter k.name).value ≤ (q.counter k.name).value := by
  cases h with
  | idle _ hq => exact Int.le_of_eq (by rw [hq.counter])
  | overruns _ _ hover =>
    obtain ⟨n, heq, _⟩ := hover
    rw [heq, Allocator.value_skip]
    omega
  | prints _ _ _ _ _ _ _ heq =>
    rw [heq, Allocator.value_skip]
    omega

lemma Running.step (h : Running p) (hr : r.Whole) : Running (answer p r).2 where
  sound := (answer_sound h.sound r).1
  packaged := (answer_sound h.sound r).2.2 ▸ h.packaged
  above k := Int.lt_of_lt_of_le (h.above k) (answer_step h.sound h.packaged hr k).le

lemma Exhausted.step (h : Exhausted k p) (hp : Running p) (hr : r.Whole) : Exhausted k (answer p r).2 :=
  Int.le_trans h (answer_step hp.sound hp.packaged hr k).le

end Counters

section Runs

variable {k : FragmentKind} {p q : Press} {rs : List Request}

end Runs

end PageStencil.Service
