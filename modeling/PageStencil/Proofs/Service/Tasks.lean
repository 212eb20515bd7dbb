import PageStencil.Proofs.Component.Printing
import PageStencil.Service.Routes

/-!
What requests come to. A request is read without the studio: it has its answer at once, or it sets the studio to print
one fragment.
-/

namespace PageStencil

open Form Markup Stencil Service

def FragmentKind.route : FragmentKind → Route
  | bar => .navbar
  | dialog => .modal

namespace Service

inductive Task
  | reply (o : Except Fault Response)
  | bar (standIns : Text.StandIns) (n : Navbar Menu) (pretty : Bool)
  | dialog (standIns : Text.StandIns) (o : ModalOrder) (pretty : Bool)

namespace Task

def run (p : Press) : Task → Except Fault Response × Press
  | reply o => (o, p)
  | bar t n pretty => htmlAnswer t (p.navbar n pretty)
  | dialog t o pretty => htmlAnswer t (p.modal o pretty)

def kind? : Task → Option FragmentKind
  | reply _ => none
  | bar _ _ _ => some .bar
  | dialog _ _ _ => some .dialog

def standIns : Task → Text.StandIns
  | reply _ => []
  | bar t _ _ => t
  | dialog t _ _ => t

end Task

/-- The texts of a request are of valid characters. -/
def Request.Whole (r : Request) : Prop := ∀ b, Json.ofOctets r.content.octets = .ok b → b.standIns = []

def succeeds : Except Fault Response → Bool
  | .ok a => a.status == 200
  | .error _ => false

section Forms

variable {α : Type}

lemma not_succeeds_refusal (t : Text.StandIns) (os : List Objection) : succeeds (Response.refusal t os) = false := by
  rw [Response.refusal, Response.encodable]
  split
  · split <;> rfl
  · rfl

lemma standIns_of_readContent {r : Request} (hr : r.Whole) {b : Json.Body}
    (h : readContent r.content = .ok (.accepted b)) : b.standIns = [] := by
  rw [readContent] at h
  split at h
  next => cases h
  next =>
    split at h
    next =>
      split at h
      next => cases h; rfl
      next => cases h
    next =>
      split at h
      next b' hb =>
        cases h
        exact hr b hb
      next => cases h
      next => cases h

lemma not_succeeds_readContent {c : Content} {o : Except Fault Response} (h : readContent c = .error o) :
    succeeds o = false := by
  rw [readContent] at h
  split at h
  next => cases h
  next =>
    split at h
    next =>
      split at h
      next => cases h
      next => cases h; rfl
    next =>
      split at h
      next => cases h
      next => cases h
      next => cases h; rfl

lemma withForm_cases (form : Text.StandIns → List (String × Json) → Checked α) (r : Request) :
    (∃ o, succeeds o = false ∧ ∀ p go, withForm form p r.content go = (o, p)) ∨
      ∃ t a, (r.Whole → t = []) ∧ ∀ p go, withForm form p r.content go = go t a := by
  cases hread : readContent r.content with
  | error o =>
    refine .inl ⟨o, not_succeeds_readContent hread, fun p go => ?_⟩
    rw [withForm, hread]
  | ok read =>
    cases read with
    | refused os =>
      refine .inl ⟨_, not_succeeds_refusal [] (os.map (Objection.under (.field "body"))), fun p go => ?_⟩
      rw [withForm, hread]
    | accepted b =>
      cases hform : (readObject (form b.standIns) b.value).under (.field "body") with
      | refused os =>
        refine .inl ⟨_, not_succeeds_refusal b.standIns os, fun p go => ?_⟩
        rw [withForm, hread]
        simp only [hform]
      | accepted a =>
        refine .inr ⟨b.standIns, a, fun hr => standIns_of_readContent hr hread, fun p go => ?_⟩
        rw [withForm, hread]
        simp only [hform]

end Forms

structure Sets (s : Settings) (r : Request) (t : Task) : Prop where
  answer : ∀ p : Press, p.settings = s → answer p r = t.run p
  whole : r.Whole → t.standIns = []
  route : ∀ k, t.kind? = some k → Route.ofPath? r.path = some k.route
  reply : ∀ o k, t = .reply o → Route.ofPath? r.path = some (FragmentKind.route k) → succeeds o = false

section Routes

variable {s : Settings} {r : Request}

lemma exists_navbar_task (hpath : Route.ofPath? r.path = some .navbar) (hverb : r.verb = "POST") : ∃ t, Sets s r t := by
  have hanswer : ∀ p, Service.answer p r = answerNavbar p r.content := by
    intro p
    rw [Service.answer, hpath]
    simp [hverb, Route.verb]
  rcases withForm_cases (fun t => navbarForm t s.maxOutline) r with ⟨o, ho, hrun⟩ | ⟨t, n, ht, hrun⟩
  · refine ⟨.reply o, fun p hp => ?_, fun _ => rfl, nofun, ?_⟩
    · rw [hanswer, answerNavbar, hp, hrun]
      rfl
    · rintro _ _ ⟨⟩ _
      exact ho
  · cases hparse : Outline.parse (n.source.strict.getD s.strict) n.source.outline with
    | error f =>
      refine ⟨.reply (.ok (.badOutline f)), fun p hp => ?_, fun _ => rfl, nofun, ?_⟩
      · rw [hanswer, answerNavbar, hp, hrun, OutlineForm.withMenu, hp, hparse]
        rfl
      · rintro _ _ ⟨⟩ _
        rfl
    | ok m =>
      refine ⟨.bar t { menu := some m, cssClass := n.cssClass, inContainer := n.inContainer } n.pretty,
        fun p hp => ?_, ht, ?_, nofun⟩
      · rw [hanswer, answerNavbar, hp, hrun, OutlineForm.withMenu, hp, hparse]
        rfl
      · rintro _ ⟨⟩
        exact hpath

lemma exists_modal_task (hpath : Route.ofPath? r.path = some .modal) (hverb : r.verb = "POST") : ∃ t, Sets s r t := by
  have hanswer : ∀ p, Service.answer p r = answerModal p r.content := by
    intro p
    rw [Service.answer, hpath]
    simp [hverb, Route.verb]
  rcases withForm_cases modalForm r with ⟨o, ho, hrun⟩ | ⟨t, m, ht, hrun⟩
  · refine ⟨.reply o, fun p _ => ?_, fun _ => rfl, nofun, ?_⟩
    · rw [hanswer, answerModal, hrun]
      rfl
    · rintro _ _ ⟨⟩ _
      exact ho
  · refine ⟨.dialog t m.order m.pretty, fun p _ => ?_, ht, ?_, nofun⟩
    · rw [hanswer, answerModal, hrun]
      rfl
    · rintro _ ⟨⟩
      exact hpath

lemma exists_menu_reply (s : Settings) (content : Content) :
    ∃ o, ∀ p : Press, p.settings = s → answerMenu p content = (o, p) := by
  rcases withForm_cases (fun t => outlineForm t s.maxOutline) ⟨"", [], content⟩ with ⟨o, _, hrun⟩ | ⟨_, f, _, hrun⟩
  · refine ⟨o, fun p hp => ?_⟩
    rw [answerMenu, hp, hrun]
  · cases hparse : Outline.parse (f.strict.getD s.strict) f.outline with
    | error e =>
      refine ⟨.ok (.badOutline e), fun p hp => ?_⟩
      rw [answerMenu, hp, hrun, OutlineForm.withMenu, hp, hparse]
    | ok m =>
      refine ⟨Response.menu m, fun p hp => ?_⟩
      rw [answerMenu, hp, hrun, OutlineForm.withMenu, hp, hparse]

theorem exists_task (s : Settings) (r : Request) : ∃ t, Sets s r t := by
  have hreply : ∀ {o : Except Fault Response}, (∀ p : Press, p.settings = s → Service.answer p r = (o, p)) →
      (∀ k, Route.ofPath? r.path = some (FragmentKind.route k) → succeeds o = false) → ∃ t, Sets s r t := by
    intro o hanswer ho
    refine ⟨.reply o, hanswer, fun _ => rfl, nofun, ?_⟩
    rintro _ k ⟨⟩ hk
    exact ho k hk
  cases hpath : Route.ofPath? r.path with
  | none =>
    refine hreply (o := .ok (withContent r (answerUnknown r.path))) (fun p _ => ?_) fun k hk => ?_
    · rw [Service.answer, hpath]
    · cases hpath.symm.trans hk
  | some route =>
    by_cases hverb : r.verb = route.verb
    · cases route with
      | navbar => exact exists_navbar_task hpath hverb
      | modal => exact exists_modal_task hpath hverb
      | menu =>
        obtain ⟨o, ho⟩ := exists_menu_reply s r.content
        refine hreply (o := o) (fun p hp => ?_) fun k hk => ?_
        · rw [Service.answer, hpath]
          simp [hverb, ho p hp]
        · rw [hpath] at hk
          cases k <;> cases hk
      | health =>
        refine hreply (o := .ok .healthy) (fun p _ => ?_) fun k hk => ?_
        · rw [Service.answer, hpath]
          simp [hverb]
        · rw [hpath] at hk
          cases k <;> cases hk
      | documentation =>
        refine hreply (o := .ok ⟨200, none⟩) (fun p _ => ?_) fun k hk => ?_
        · rw [Service.answer, hpath]
          simp [hverb]
        · rw [hpath] at hk
          cases k <;> cases hk
    · refine hreply (o := .ok (withContent r .notAllowed)) (fun p _ => ?_) fun _ _ => ?_
      · rw [Service.answer, hpath]
        simp [hverb]
      · rw [withContent]
        split <;> rfl

end Routes

end Service

end PageStencil
