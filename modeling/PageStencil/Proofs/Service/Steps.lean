import PageStencil.Proofs.Service.Tasks
import PageStencil.Proofs.Studio.Printing

/-!
What one request does to the counter of a kind. It leaves the counter alone, or takes the identifiers of the fragment
that it is answered with, or runs the counter into an identifier that is too long. Only requests for fragments of the
kind do either, and none that is refused.
-/

namespace PageStencil.Service

open Markup Stencil Studio

inductive Step (k : FragmentKind) (p : Press) (r : Request) : Except Fault Response → Press → Prop
  | idle {o : Except Fault Response} {q : Press} : (Route.ofPath? r.path = some k.route → succeeds o = false) →
      p.Alike k.name q → Step k p r o q
  | overruns {f : Fault} {q : Press} : q.settings = p.settings → q.source = p.source →
      (p.counter k.name).Overrun (q.counter k.name) → Step k p r (.error f) q
  | prints {q : Press} {t : Markup.Tree Unit} {pretty : Bool} {n : Nat} : Route.ofPath? r.path = some k.route →
      q.settings = p.settings → q.source = p.source → 0 < n → (p.counter k.name).Short n → k.Shows p.source.isXml t →
      k.identifiers t = Span.names k.name (some ((p.counter k.name).value, n)) →
      q.counter k.name = (p.counter k.name).skip n →
      Step k p r (.ok ⟨200, some (.object [("html", .text (t.written pretty))])⟩) q

section Tasks

variable {k : FragmentKind} {p q : Press} {r : Request} {t : Task}

lemma Task.made (hk : t.kind? = some k) : ∃ pretty w, (∀ xml name a, Settled k xml pretty name a w) ∧
    ∀ p : Press, p.Sound → ∃ r, Studio.Made k w p r ∧ (t.run p).1 = r.1.bind (Response.html t.standIns) ∧
      (t.run p).2 = r.2 := by
  cases t with
  | reply o => cases hk
  | bar s n pretty =>
    cases hk
    exact ⟨pretty, n.printing pretty, fun xml name a => Navbar.settled xml pretty name a n, fun p hp =>
      ⟨_, hp.navbar n pretty, rfl, rfl⟩⟩
  | dialog s o pretty =>
    cases hk
    exact ⟨pretty, o.printing pretty, fun xml name a => o.settled xml pretty name a, fun p hp =>
      ⟨_, hp.modal o pretty, rfl, rfl⟩⟩

lemma Task.run_of_kind?_eq_none (hk : t.kind? = none) : ∃ o, ∀ p, t.run p = (o, p) := by
  cases t with
  | reply o => exact ⟨o, fun _ => rfl⟩
  | bar s n pretty => cases hk
  | dialog s o pretty => cases hk

lemma Task.alike_run_of_ne (hk : t.kind? ≠ some k) (hp : p.Sound) : p.Alike k.name (t.run p).2 := by
  cases hl : t.kind? with
  | none =>
    obtain ⟨o, hrun⟩ := run_of_kind?_eq_none hl
    rw [hrun]
    exact .refl _ _
  | some l =>
    have hne : k.name ≠ l.name := fun hname => hk (hl.trans (congrArg some (FragmentKind.name_injective hname).symm))
    obtain ⟨_, _, _, hmade⟩ := made hl
    obtain ⟨x, hx, _, hafter⟩ := hmade p hp
    rw [hafter]
    exact hx.of_ne hne

lemma Task.sound_run (hp : p.Sound) (t : Task) :
    (t.run p).2.Sound ∧ (t.run p).2.settings = p.settings ∧ (t.run p).2.source = p.source := by
  cases hl : t.kind? with
  | none =>
    obtain ⟨o, hrun⟩ := run_of_kind?_eq_none hl
    rw [hrun]
    exact ⟨hp, rfl, rfl⟩
  | some l =>
    obtain ⟨_, _, _, hmade⟩ := made hl
    obtain ⟨x, hx, _, hafter⟩ := hmade p hp
    rw [hafter]
    exact ⟨hx.sound, hx.settings, hx.source⟩

lemma Task.printed (hp : p.Sound) (hdir : p.source.directory = Packaged.directory) (hk : t.kind? = some k) :
    ∃ pretty o, (t.run p).1 = o.bind (Response.html t.standIns) ∧
      Printed k p.source.isXml pretty (p.counter k.name) o ((t.run p).2.counter k.name) := by
  obtain ⟨pretty, w, hw, hmade⟩ := made hk
  obtain ⟨x, hx, houtcome, hafter⟩ := hmade p hp
  exact ⟨pretty, x.1, houtcome, hafter ▸ hx.printed hdir (hw _ _ _)⟩

end Tasks

section Answers

variable {k : FragmentKind} {p q : Press} {r : Request}

theorem answer_sound (hp : p.Sound) (r : Request) :
    (answer p r).2.Sound ∧ (answer p r).2.settings = p.settings ∧ (answer p r).2.source = p.source := by
  obtain ⟨t, ht⟩ := exists_task p.settings r
  rw [ht.answer p rfl]
  exact t.sound_run hp

theorem answer_step (hp : p.Sound) (hdir : p.source.directory = Packaged.directory) (hr : r.Whole) (k : FragmentKind) :
    Step k p r (answer p r).1 (answer p r).2 := by
  obtain ⟨t, ht⟩ := exists_task p.settings r
  obtain ⟨_, hsettings, hsource⟩ := t.sound_run hp
  rw [ht.answer p rfl]
  by_cases hk : t.kind? = some k
  · obtain ⟨pretty, o, ho, hprinted⟩ := Task.printed hp hdir hk
    rw [ho, ht.whole hr]
    generalize hnew : (t.run p).2.counter k.name = new at hprinted
    cases hprinted with
    | fails => exact .idle (fun _ => rfl) ⟨hsettings, hsource, hnew⟩
    | overruns hover => exact .overruns hsettings hsource (hnew.symm ▸ hover)
    | @shows u n hpos hshort hshows hids =>
      have hhtml : Response.html [] (u.written pretty) =
          .ok ⟨200, some (.object [("html", .text (u.written pretty))])⟩ := by
        rw [Response.html, Text.surrogateRun?_nil]
      change Step k p r (Response.html [] (u.written pretty)) _
      rw [hhtml]
      exact .prints (ht.route k hk) hsettings hsource hpos hshort hshows hids hnew
  · refine .idle (fun hroute => ?_) (Task.alike_run_of_ne hk hp)
    cases t with
    | reply o => exact ht.reply o k rfl hroute
    | bar s n pretty =>
      have hother := ht.route .bar rfl
      rw [hroute] at hother
      cases k with
      | bar => exact absurd rfl hk
      | dialog => cases hother
    | dialog s o pretty =>
      have hother := ht.route .dialog rfl
      rw [hroute] at hother
      cases k with
      | bar => cases hother
      | dialog => exact absurd rfl hk

end Answers

end PageStencil.Service
