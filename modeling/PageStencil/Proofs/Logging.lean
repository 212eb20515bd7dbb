import Mathlib.Tactic.Lemma
import PageStencil.Logging

/-!
The level behind calls that ask for levels. A call that returns has set the level that it asks for, and a call that is
refused has left the level as it was, with one exception: behind a refused first call the second one returns whatever it
asks for, and sets no level.
-/

namespace PageStencil.Logging

def start (level : Level) : Logging := { level }

def after (configured : String) (l : Logging) (asks : List Json) : Logging :=
  asks.foldl (fun l asked => (l.configure (Level.ofJson configured asked)).2) l

/-- The level is the one that was asked for if the call returns, and else it is still the old one. -/
def Heeds (l : Logging) (asked : Except Fault Level) : Prop :=
  match l.configure asked with
  | (.ok (), l') => asked = .ok l'.level
  | (.error _, l') => l'.level = l.level

def Botched (configured : String) (asks : List Json) : Prop :=
  ∃ first f, asks = [first] ∧ Level.ofJson configured first = .error f

def levelsOf (configured : String) (asks : List Json) : List Level :=
  asks.filterMap fun asked => (Level.ofJson configured asked).toOption

/-- The levels that some first calls set. With the first one the second is lost as well. -/
def heard (configured : String) : List Json → List Level
  | [] => []
  | first :: rest =>
    match Level.ofJson configured first with
    | .ok level => level :: levelsOf configured rest
    | .error _ => levelsOf configured (rest.drop 1)

section Steps

variable {l : Logging} {asked : Except Fault Level}

lemma configure_start (level : Level) (asked : Except Fault Level) : (start level).configure asked =
    match asked with
    | .error f => (.error f, ⟨level, true, false⟩)
    | .ok level => (.ok (), ⟨level, true, true⟩) := by
  cases asked <;> rfl

lemma configure_botched (level : Level) (asked : Except Fault Level) :
    (⟨level, true, false⟩ : Logging).configure asked = (.ok (), ⟨level, true, true⟩) := rfl

lemma configure_configured (h : l.configured = true) : l.configure asked =
    match asked with
    | .error f => (.error f, l)
    | .ok level => (.ok (), { l with level }) :=
  if_pos h

lemma configured_configure (h : l.configured = true) : (l.configure asked).2.configured = true := by
  rw [configure_configured h]
  cases asked <;> exact h

lemma heeds_start (level : Level) (asked : Except Fault Level) : (start level).Heeds asked := by
  rw [Heeds, configure_start]
  cases asked <;> rfl

lemma heeds_configured (h : l.configured = true) : l.Heeds asked := by
  rw [Heeds, configure_configured h]
  cases asked <;> rfl

end Steps

section Run

variable {configured : String} {l : Logging} {level : Level} {first asked : Json} {asks : List Json} {f : Fault}

lemma after_cons (configured : String) (l : Logging) (asked : Json) (asks : List Json) :
    l.after configured (asked :: asks) =
      (l.configure (Level.ofJson configured asked)).2.after configured asks := rfl

lemma levelsOf_cons (configured : String) (asked : Json) (asks : List Json) : levelsOf configured (asked :: asks) =
    (Level.ofJson configured asked).toOption.toList ++ levelsOf configured asks := by
  rw [levelsOf, List.filterMap_cons]
  cases Level.ofJson configured asked <;> rfl

lemma configured_after (h : l.configured = true) (asks : List Json) : (l.after configured asks).configured = true := by
  induction asks generalizing l with
  | nil => exact h
  | cons asked asks ih => exact ih (configured_configure h)

lemma level_after (h : l.configured = true) (asks : List Json) :
    (l.after configured asks).level = (levelsOf configured asks).getLast?.getD l.level := by
  induction asks generalizing l with
  | nil => rfl
  | cons asked asks ih =>
    rw [after_cons, ih (configured_configure h), configure_configured h, levelsOf_cons]
    cases Level.ofJson configured asked with
    | error f => rfl
    | ok level =>
      change _ = (level :: levelsOf configured asks).getLast?.getD l.level
      rw [List.getLast?_cons, Option.getD_some]

lemma after_start_cases (configured : String) (level : Level) (asks : List Json) :
    asks = [] ∨ (Botched configured asks ∧ (start level).after configured asks = ⟨level, true, false⟩) ∨
      (¬Botched configured asks ∧ ((start level).after configured asks).configured = true) := by
  -- A refused first call leaves a handler behind; any second one configures.
  cases asks with
  | nil => exact .inl rfl
  | cons first rest =>
    right
    rw [after_cons, configure_start]
    cases hfirst : Level.ofJson configured first with
    | ok level' =>
      refine .inr ⟨?_, configured_after rfl rest⟩
      rintro ⟨_, f, ⟨⟩, herror⟩
      cases hfirst.symm.trans herror
    | error f =>
      cases rest with
      | nil => exact .inl ⟨⟨first, f, rfl, hfirst⟩, rfl⟩
      | cons second rest =>
        refine .inr ⟨?_, ?_⟩
        · rintro ⟨_, _, ⟨⟩, _⟩
        · rw [after_cons, configure_botched]
          exact configured_after rfl rest

lemma level_after_start (configured : String) (level : Level) (asks : List Json) :
    ((start level).after configured asks).level = (heard configured asks).getLast?.getD level := by
  cases asks with
  | nil => rfl
  | cons first rest =>
    rw [after_cons, configure_start, heard]
    cases Level.ofJson configured first with
    | ok level' => rw [level_after rfl, List.getLast?_cons, Option.getD_some]
    | error f =>
      cases rest with
      | nil => rfl
      | cons second rest =>
        rw [after_cons, configure_botched]
        exact level_after rfl rest

end Run

/-- What a call comes to behind some others, of which the first found nothing configured and no handler. -/
structure Follows (configured : String) (level : Level) (before : List Json) (asked : Json) : Prop where
  heeds_iff : ((start level).after configured before).Heeds (Level.ofJson configured asked) ↔
    (Botched configured before → Level.ofJson configured asked = .ok level)
  refused : ∀ f, (((start level).after configured before).configure (Level.ofJson configured asked)).1 = .error f ↔
    ¬Botched configured before ∧ Level.ofJson configured asked = .error f
  lost : Botched configured before →
    ((start level).after configured before).configure (Level.ofJson configured asked) = (.ok (), ⟨level, true, true⟩)
  latest : ((start level).after configured before).level = (heard configured before).getLast?.getD level

theorem after_follows (configured : String) (level : Level) (before : List Json) (asked : Json) :
    Follows configured level before asked := by
  have hlatest := level_after_start configured level before
  obtain rfl | ⟨hbotched, hstate⟩ | ⟨hbotched, hconfigured⟩ := after_start_cases configured level before
  · have hfresh : ¬Botched configured [] := nofun
    refine ⟨iff_of_true (heeds_start level _) (absurd · hfresh), fun f => ?_, (absurd · hfresh), hlatest⟩
    rw [and_iff_right hfresh]
    change ((start level).configure _).1 = _ ↔ _
    rw [configure_start]
    cases Level.ofJson configured asked <;> simp
  · refine ⟨?_, fun f => ?_, fun _ => ?_, hlatest⟩
    · rw [hstate, imp_iff_right hbotched]
      rfl
    · rw [hstate]
      exact iff_of_false nofun fun h => h.1 hbotched
    · rw [hstate, configure_botched]
  · refine ⟨iff_of_true (heeds_configured hconfigured) (absurd · hbotched), fun f => ?_, (absurd · hbotched), hlatest⟩
    rw [and_iff_right hbotched, configure_configured hconfigured]
    cases Level.ofJson configured asked <;> simp

/-- A call that returns behind a refused one may have set no level. -/
theorem not_always_heeded : ¬∀ (configured : String) (level : Level) (before : List Json) (asked : Json),
    ((start level).after configured before).Heeds (Level.ofJson configured asked) := by
  intro h
  have hasked : Level.ofJson "WARNING" (.text "INFO") = .ok (.number 20) := by rfl
  have hbefore : (start (.number 50)).after "WARNING" [.text "BOGUS"] = ⟨.number 50, true, false⟩ := by rfl
  have hheeds := h "WARNING" (.number 50) [.text "BOGUS"] (.text "INFO")
  rw [hbefore, hasked, Heeds, configure_botched] at hheeds
  cases hheeds

end PageStencil.Logging
