import PageStencil.Proofs.Command.Agreement
import PageStencil.Proofs.Menu.JsonForm
import PageStencil.Proofs.Menu.Paths

/-!
The views of menus tell the menus apart. A label, a class or a list that is not there is told from any that is, also
from an empty one.
-/

namespace PageStencil

structure Command.Invocation.Prints (i : Invocation) (s : Surroundings) (p : Press) (m : Menu) : Prop where
  level : ∃ l, startLogging p.settings.logLevel i.logLevel = .ok l
  read : ∃ file, i.order = .menu file ∧ readMenu s p i.lenient file = .ok m

structure Service.Request.AsksFor (r : Request) (p : Press) (m : Menu) : Prop where
  posts : ∃ fields outline lenient, r.Posts .menu fields ∧ OutlineFields outline lenient fields ∧
    Sendable p.settings.maxOutline outline ∧ Outline.parse (!lenient && p.settings.strict) outline = .ok m

lemma Command.Invocation.Prints.run {i : Invocation} {s : Surroundings} {p : Press} {m : Menu} (h : i.Prints s p m) :
    ∃ o, (i.run s p).1 = .ok o ∧ o.exitCode = 0 ∧ o.output = m.toJson.indented ++ "\n" := by
  obtain ⟨l, hlevel⟩ := h.level
  obtain ⟨file, horder, hread⟩ := h.read
  have hprint : (i.order.print s p i.lenient).1 = .ok m.toJson.indented := by
    rw [horder, Order.print, hread]
    rfl
  obtain ⟨o, hrun, hended⟩ := run_of_ok hlevel hprint
  exact ⟨o, hrun, hended.exitCode, hended.output⟩

lemma Service.Request.AsksFor.answer {r : Request} {p : Press} {m : Menu} (h : r.AsksFor p m) :
    (answer p r).1 = Response.menu m := by
  obtain ⟨fields, outline, lenient, hposts, hfields, hsendable, hparse⟩ := h.posts
  rw [answer_menu hposts hfields hsendable, hparse]

namespace MenuGraph

open Command Service

/-- Whether two nodes agree is told from their views, from what commands have printed, and from what requests have been
answered with, which they are unless a menu is too deep. -/
structure Told (g : MenuGraph) (n : MenuId) (h : MenuGraph) (k : MenuId) : Prop where
  view : Json.Same (g.menu n).toJson (h.menu k).toJson ↔ g.Agree n h k
  printed : ∀ {i j : Invocation} {s t : Surroundings} {p q : Press}, i.Prints s p (g.menu n) → j.Prints t q (h.menu k) →
    ∃ o o', (i.run s p).1 = .ok o ∧ (j.run t q).1 = .ok o' ∧ o.exitCode = 0 ∧ o'.exitCode = 0 ∧
      (o.output = o'.output ↔ g.Agree n h k)
  answered : ∀ {r r' : Request} {p q : Press}, r.AsksFor p (g.menu n) → r'.AsksFor q (h.menu k) →
    (g.menu n).nesting ≤ 126 → (h.menu k).nesting ≤ 126 →
    ∃ content content', (answer p r).1 = .ok ⟨200, some content⟩ ∧ (answer q r').1 = .ok ⟨200, some content'⟩ ∧
      (Json.Same content content' ↔ g.Agree n h k)
  unanswered : ∀ {r : Request} {p : Press}, r.AsksFor p (g.menu n) → 126 < (g.menu n).nesting →
    (answer p r).1 = .error (.unserializable .tooDeep)

theorem view_tells {g h : MenuGraph} {n k : MenuId} (hn : g.Acyclic n) (hk : h.Acyclic k) : g.Told n h k where
  view := by rw [Menu.same_toJson_iff, menu_eq_iff hn hk]
  printed hi hj := by
    obtain ⟨o, hrun, hexit, houtput⟩ := hi.run
    obtain ⟨o', hrun', hexit', houtput'⟩ := hj.run
    refine ⟨o, o', hrun, hrun', hexit, hexit', ?_⟩
    rw [houtput, houtput', String.append_left_inj, Menu.indented_toJson_inj, menu_eq_iff hn hk]
  answered hr hr' hle hle' := by
    rw [hr.answer, hr'.answer, response_menu, response_menu, if_pos hle, if_pos hle']
    refine ⟨_, _, rfl, rfl, ?_⟩
    rw [← menu_eq_iff hn hk]
    constructor
    · intro hsame
      cases hsame.field? "menu" with
      | some hmenu => exact Menu.same_toJson_iff.mp hmenu
    · intro hmenu
      rw [hmenu]
      exact .refl _
  unanswered hr hlt := by
    rw [hr.answer, response_menu, if_neg (Nat.not_le.mpr hlt)]

def nestedEntries : MenuGraph where
  links := #[{ text := some "b" }, { text := some "a" }]
  nodes := #[{ entries := some [1] }, { label := some 1, entries := some [2] }, { label := some 0 }]

lemma acyclic_nestedEntries : nestedEntries.Acyclic 0 := by
  have hlt : ∀ q < 3, ∀ e ∈ nestedEntries.entriesOf q, q < e ∧ e < 3 := by decide
  exact acyclic_of_lt (fun q _ hq => hlt q hq) (by decide)

lemma menu_nestedEntries : nestedEntries.menu 0 = nestedMenu := by
  cbv

def menuInvocation : Invocation := { order := .menu "-" }

lemma prints_nested : menuInvocation.Prints nestedInput (Studio.startingAt 1000) (nestedEntries.menu 0) := by
  have hoffers := offers_nested 1000
  refine ⟨⟨_, startLogging_nested 1000⟩, "-", rfl, ?_⟩
  rw [readMenu_of_holds hoffers.holds hoffers.paired, menu_nestedEntries]
  exact congrArg (Except.mapError _) parse_nested

lemma asksFor_nested : (postTo "/api/menu" nestedBody).AsksFor (Studio.startingAt 1000) (nestedEntries.menu 0) := by
  have hposts : (postTo "/api/menu" nestedBody).Posts .menu nestedFields := ⟨rfl, rfl, rfl, posts_nested.content⟩
  rw [menu_nestedEntries]
  exact ⟨_, nested, false, hposts, ⟨rfl, rfl⟩, (offers_nested 1000).sendable, parse_nested⟩

def nestedPlanted : MenuId × MenuGraph := MenuGraph.plant {} none (nestedEntries.menu 0)

lemma menu_nestedPlanted : nestedPlanted.2.menu nestedPlanted.1 = nestedEntries.menu 0 := menu_plant _ _

theorem nested_told : nestedPlanted.2.Acyclic nestedPlanted.1 ∧ nestedEntries.Acyclic 0 ∧
    menuInvocation.Prints nestedInput (Studio.startingAt 1000) (nestedPlanted.2.menu nestedPlanted.1) ∧
    (postTo "/api/menu" nestedBody).AsksFor (Studio.startingAt 1000) (nestedPlanted.2.menu nestedPlanted.1) ∧
    (nestedPlanted.2.menu nestedPlanted.1).nesting = 2 ∧
    nestedPlanted.2.Told nestedPlanted.1 nestedEntries 0 ∧ nestedPlanted.2.Agree nestedPlanted.1 nestedEntries 0 := by
  have hacyclic : nestedPlanted.2.Acyclic nestedPlanted.1 := acyclic_plant _ _
  have htold := view_tells hacyclic acyclic_nestedEntries
  have hsame : Json.Same (nestedPlanted.2.menu nestedPlanted.1).toJson (nestedEntries.menu 0).toJson :=
    menu_nestedPlanted ▸ .refl _
  have hnesting : (nestedEntries.menu 0).nesting = 2 := by cbv
  exact ⟨hacyclic, acyclic_nestedEntries, menu_nestedPlanted ▸ prints_nested, menu_nestedPlanted ▸ asksFor_nested,
    menu_nestedPlanted ▸ hnesting, htold, htold.view.mp hsame⟩

end MenuGraph

end PageStencil
