import PageStencil.Command.Run
import PageStencil.Proofs.Command.Words
import PageStencil.Proofs.Json.Octets
import PageStencil.Proofs.Menu.JsonForm
import PageStencil.Proofs.Outline.Failing
import PageStencil.Proofs.Outline.RoundTrip
import PageStencil.Proofs.Studio.Printing

/-!
The command line and the service agree: what a command prints is what a request with the same fields is answered with,
and an outline that one of them refuses is refused by the other with the same message. But a menu that is too deep to be
sent can still be printed.
-/

namespace PageStencil.Command

open Form Outline Service Stencil
open Studio (Alike)

/-- The outline is what the file holds, or the input that a dash stands for, in UTF-8. -/
def Surroundings.Holds (s : Surroundings) (file outline : String) : Prop :=
  (if file = "-" then .ok s.input else s.readFile (Storage.Path.ofText file)) = .ok outline.toUTF8

structure Surroundings.Offers (s : Surroundings) (limit : Int) (file outline : String) : Prop where
  holds : s.Holds file outline
  paired : Text.ReturnsPaired outline.toList
  sendable : Sendable limit outline

/-- Fragments are given the same identifiers in both studios, whatever else there is in either. -/
inductive InStep (p : Press) : Press → Prop
  | same : InStep p p
  | alike {q : Press} : p.Sound → q.Sound → p.source.directory = Packaged.directory →
      (∀ k : FragmentKind, Alike k.name p q) → InStep p q

/-- How a command has ended, and that it has told no more if only what is above the level `DEBUG` is logged. -/
structure Ended (l : Logging) (o : Outcome) (exitCode : Nat) (output complaint : String) : Prop where
  exitCode : o.exitCode = exitCode
  output : o.output = output
  complaint : o.complaint = complaint
  records : Level.debug < l.level.value → o.records = []

/-- The html that a command prints is answered with; or nothing has been printed, and both stop. -/
inductive ShowHtml (l : Logging) (printed : Except Fault String) : Except Fault Outcome → Except Fault Response → Prop
  | shown {html : String} {o : Outcome} : printed = .ok html → Ended l o 0 (html ++ "\n") "" →
      ShowHtml l printed (.ok o) (.ok ⟨200, some (.object [("html", .text html)])⟩)
  | told {f : Fault} {o : Outcome} : printed = .error f → isToldOf f = true →
      Ended l o 2 "" ("error: " ++ f.message ++ "\n") → ShowHtml l printed (.ok o) (.error f)
  | passed {f : Fault} : printed = .error f → isToldOf f = false → ShowHtml l printed (.error f) (.error f)

/-- What a command prints is the JSON text of the menu that is answered with, unless the menu is too deep for that. -/
inductive ShowMenu (l : Logging) (m : Menu) : Except Fault Outcome → Except Fault Response → Prop
  | shown {o : Outcome} {line : String} : m.nesting ≤ 126 → Json.parse line.toList = .ok m.toJson →
      Ended l o 0 line "" → ShowMenu l m (.ok o) (.ok ⟨200, some (.object [("menu", m.toJson)])⟩)
  | tooDeep {o : Outcome} {line : String} : 126 < m.nesting → Json.parse line.toList = .ok m.toJson →
      Ended l o 0 line "" → ShowMenu l m (.ok o) (.error (.unserializable .tooDeep))

/-- The menu of an outline is shown alike, or both refuse the outline for its first bad line. -/
inductive AgreeOn (l : Logging) (strict : Bool) (outline : String)
    (shows : Menu → Except Fault Outcome → Except Fault Response → Prop) :
    Except Fault Outcome → Except Fault Response → Prop
  | accepted {m : Menu} {a : Except Fault Outcome} {b : Except Fault Response} :
      Outline.parse strict outline = .ok m → shows m a b → AgreeOn l strict outline shows a b
  | refused {n : Nat} {f : Outline.Fault} {o : Outcome} : FailsAt strict outline n f →
      Ended l o 2 "" ("error: " ++ f.message ++ "\n") → AgreeOn l strict outline shows (.ok o)
        (.ok ⟨400, some (.object [("detail", .object [("error", .text f.message), ("line_number", .integer n)])])⟩)

section Steps

variable {p q : Press}

lemma InStep.settings (h : InStep p q) : q.settings = p.settings := by
  cases h with
  | same => rfl
  | alike _ _ _ h => exact (h .bar).settings

lemma InStep.navbar (h : InStep p q) (n : Navbar Menu) (pretty : Bool) :
    (q.navbar n pretty).1 = (p.navbar n pretty).1 := by
  cases h with
  | same => rfl
  | alike hp hq hdir h =>
    exact ((hp.navbar n pretty).alike (hq.navbar n pretty) (h .bar) hdir
      fun _ _ _ => ⟨pretty, Navbar.settled _ _ _ _ n⟩).1

lemma InStep.modal (h : InStep p q) (o : ModalOrder) (pretty : Bool) : (q.modal o pretty).1 = (p.modal o pretty).1 := by
  cases h with
  | same => rfl
  | alike hp hq hdir h =>
    exact ((hp.modal o pretty).alike (hq.modal o pretty) (h .dialog) hdir
      fun _ _ _ => ⟨pretty, o.settled _ _ _ _⟩).1

end Steps

section Running

variable {s : Surroundings} {p q : Press} {i : Invocation} {l : Logging} {file outline : String}

lemma readOutline_of_holds (h : s.Holds file outline) :
    readOutline s file = .ok (String.ofList (Text.unifyLineEnds outline.toList)) := by
  have htext := Text.decodeText_toUTF8 outline.toList
  rw [String.ofList_toList] at htext
  have hread : readOutline s file = (Storage.decodeText outline.toUTF8).mapError .undecodable := by
    rw [Surroundings.Holds] at h
    unfold readOutline
    simp only [h]
  rw [hread, htext]
  rfl

lemma readMenu_of_holds (h : s.Holds file outline) (hpaired : Text.ReturnsPaired outline.toList) (lenient : Bool) :
    readMenu s p lenient file = (Outline.parse (!lenient && p.settings.strict) outline).mapError .outline := by
  rw [readMenu, readOutline_of_holds h, ← parse_unifyLineEnds hpaired]
  exact pure_bind (String.ofList (Text.unifyLineEnds outline.toList)) _

lemma shown_eq_nil {records : List String} (h : Level.debug < l.level.value) :
    (if l.level.value ≤ Level.debug then records else []) = [] := if_neg (Int.not_le.mpr h)

lemma run_of_ok {output : String} (hlevel : startLogging p.settings.logLevel i.logLevel = .ok l)
    (h : (i.order.print s p i.lenient).1 = .ok output) :
    ∃ o, (i.run s p).1 = .ok o ∧ Ended l o 0 (output ++ "\n") "" := by
  rw [Invocation.run, hlevel]
  generalize i.order.print s p i.lenient = printed at h
  obtain ⟨o, q⟩ := printed
  cases h
  exact ⟨_, rfl, rfl, rfl, rfl, shown_eq_nil⟩

lemma run_of_told {f : Fault} (hlevel : startLogging p.settings.logLevel i.logLevel = .ok l)
    (h : (i.order.print s p i.lenient).1 = .error f) (htold : isToldOf f = true) :
    ∃ o, (i.run s p).1 = .ok o ∧ Ended l o 2 "" ("error: " ++ f.message ++ "\n") := by
  rw [Invocation.run, hlevel]
  generalize i.order.print s p i.lenient = printed at h
  obtain ⟨o, q⟩ := printed
  cases h
  simp only [htold, if_true]
  exact ⟨_, rfl, rfl, rfl, rfl, shown_eq_nil⟩

lemma run_of_passed {f : Fault} (hlevel : startLogging p.settings.logLevel i.logLevel = .ok l)
    (h : (i.order.print s p i.lenient).1 = .error f) (htold : isToldOf f = false) : (i.run s p).1 = .error f := by
  rw [Invocation.run, hlevel]
  generalize i.order.print s p i.lenient = printed at h
  obtain ⟨o, q⟩ := printed
  cases h
  simp only [htold, Bool.false_eq_true, if_false]

lemma show_html {printed : Except Fault String × Press} {answered : Except Fault String × Press}
    (hlevel : startLogging p.settings.logLevel i.logLevel = .ok l) (hprint : i.order.print s p i.lenient = printed)
    (hsame : answered.1 = printed.1) : ShowHtml l printed.1 (i.run s p).1 (htmlAnswer [] answered).1 := by
  cases hprinted : printed.1 with
  | ok html =>
    obtain ⟨o, hrun, hended⟩ := run_of_ok hlevel (hprint ▸ hprinted)
    rw [hrun, htmlAnswer_ok (hsame.trans hprinted)]
    exact .shown rfl hended
  | error f =>
    rw [htmlAnswer_error (hsame.trans hprinted)]
    cases htold : isToldOf f with
    | true =>
      obtain ⟨o, hrun, hended⟩ := run_of_told hlevel (hprint ▸ hprinted) htold
      rw [hrun]
      exact .told rfl htold hended
    | false =>
      rw [run_of_passed hlevel (hprint ▸ hprinted) htold]
      exact .passed rfl htold

lemma agree_refused {f : Outline.Fault} {strict : Bool}
    {shows : Menu → Except Fault Outcome → Except Fault Response → Prop}
    (hlevel : startLogging p.settings.logLevel i.logLevel = .ok l)
    (hprint : (i.order.print s p i.lenient).1 = .error (.outline f)) (hf : Outline.parse strict outline = .error f) :
    AgreeOn l strict outline shows (i.run s p).1 (.ok (.badOutline f)) := by
  obtain ⟨n, hn⟩ := parse_eq_error_iff.mp hf
  obtain ⟨o, hrun, hended⟩ := run_of_told hlevel hprint rfl
  rw [hrun, Response.badOutline, hn.number]
  exact .refused hn hended

lemma response_menu (m : Menu) : Response.menu m =
    if m.nesting ≤ 126 then .ok ⟨200, some (.object [("menu", m.toJson)])⟩ else .error (.unserializable .tooDeep) := by
  have hlevels := m.levels_toJson
  rw [Response.menu, Response.levelLimit]
  by_cases h : m.nesting ≤ 126
  · rw [if_pos h, if_pos (by omega)]
  · rw [if_neg h, if_neg (by omega)]

lemma show_menu {o : Outcome} {m : Menu} (h : Ended l o 0 (m.toJson.indented ++ "\n") "") :
    ShowMenu l m (.ok o) (Response.menu m) := by
  rw [response_menu]
  split
  next hm => exact .shown hm m.parse_indented_line h
  next hm => exact .tooDeep (Nat.lt_of_not_le hm) m.parse_indented_line h

end Running

section Asking

variable {s : Surroundings} {p q : Press} {c : CommandLine} {l : Logging} {file outline : String} {pretty : Bool}
  {r : Request} {fields : List (String × Json)}

lemma menu_agrees (hlevel : startLogging p.settings.logLevel c.logLevel = .ok l) (hpq : InStep p q)
    (hc : c.ask = .menu file) (hs : s.Offers p.settings.maxOutline file outline) (hr : r.Posts .menu fields)
    (hfields : OutlineFields outline c.lenient fields) :
    AgreeOn l (!c.lenient && p.settings.strict) outline (ShowMenu l) (c.invocation.run s p).1 (answer q r).1 := by
  have hprint : (c.invocation.order.print s p c.lenient).1 =
      ((Outline.parse (!c.lenient && p.settings.strict) outline).mapError .outline).map fun m => m.toJson.indented := by
    rw [CommandLine.invocation, hc, Ask.order, Order.print, readMenu_of_holds hs.holds hs.paired]
  rw [answer_menu hr hfields (hpq.settings ▸ hs.sendable), hpq.settings]
  cases hm : Outline.parse (!c.lenient && p.settings.strict) outline with
  | error f =>
    rw [hm] at hprint
    exact agree_refused hlevel hprint hm
  | ok m =>
    rw [hm] at hprint
    obtain ⟨o, hrun, hended⟩ := run_of_ok hlevel hprint
    rw [hrun]
    exact .accepted hm (show_menu hended)

lemma print_navbar (hs : s.Offers p.settings.maxOutline file outline) (lenient : Bool) (cssClass : Option String)
    (inContainer pretty : Bool) : Order.print s p lenient (.navbar file cssClass inContainer pretty) =
      match Outline.parse (!lenient && p.settings.strict) outline with
      | .error f => (.error (.outline f), p)
      | .ok m => p.navbar { menu := some m, cssClass, inContainer } pretty := by
  rw [Order.print, readMenu_of_holds hs.holds hs.paired]
  cases Outline.parse (!lenient && p.settings.strict) outline <;> rfl

lemma navbar_agrees (hlevel : startLogging p.settings.logLevel c.logLevel = .ok l) (hpq : InStep p q)
    {cssClass : Option String} {inContainer : Bool} (hc : c.ask = .navbar file cssClass inContainer pretty)
    (hs : s.Offers p.settings.maxOutline file outline) (hr : r.Posts .navbar fields)
    (hfields : NavbarFields outline c.lenient cssClass inContainer pretty fields) :
    AgreeOn l (!c.lenient && p.settings.strict) outline
      (fun m => ShowHtml l (p.navbar { menu := some m, cssClass, inContainer } pretty).1) (c.invocation.run s p).1
      (answer q r).1 := by
  have horder : c.invocation.order = .navbar file cssClass inContainer pretty := by
    rw [CommandLine.invocation, hc, Ask.order]
  have hprint := print_navbar hs c.lenient cssClass inContainer pretty
  rw [← horder] at hprint
  rw [answer_navbar hr hfields (hpq.settings ▸ hs.sendable), hpq.settings]
  cases hm : Outline.parse (!c.lenient && p.settings.strict) outline with
  | error f =>
    rw [hm] at hprint
    exact agree_refused hlevel (congrArg Prod.fst hprint) hm
  | ok m =>
    rw [hm] at hprint
    exact .accepted hm (show_html hlevel hprint (hpq.navbar _ pretty))

lemma modal_agrees (hlevel : startLogging p.settings.logLevel c.logLevel = .ok l) (hpq : InStep p q)
    {title text id cssClass : Option String} {labels : List String}
    (hc : c.ask = .modal title text id cssClass labels pretty) (hr : r.Posts .modal fields)
    (hfields : ModalFields title text id cssClass labels pretty fields) :
    ShowHtml l (p.modal ⟨title, text, id, cssClass, labels.map closingButton⟩ pretty).1 (c.invocation.run s p).1
      (answer q r).1 := by
  have hprint : c.invocation.order.print s p c.lenient =
      p.modal ⟨title, text, id, cssClass, labels.map closingButton⟩ pretty := by
    rw [CommandLine.invocation, hc, Ask.order, Order.print]
  rw [answer_modal hr hfields]
  exact show_html hlevel hprint (hpq.modal _ pretty)

end Asking

/-- Whatever a command line asks for, a request with the same fields comes to the same. From the packaged templates bars
and dialogs are printed unless an identifier is too long. -/
theorem run_agrees (c : CommandLine) (s : Surroundings) {l : Logging} {p q : Press}
    (hlevel : startLogging p.settings.logLevel c.logLevel = .ok l) (hpq : InStep p q) :
    Invocation.read c.words = .ok c.invocation ∧
      (∀ words i, Invocation.read words = .ok i → ∃ c : CommandLine, c.invocation = i) ∧
      (∀ file outline r fields, c.ask = .menu file → s.Offers p.settings.maxOutline file outline →
        r.Posts .menu fields → OutlineFields outline c.lenient fields →
        AgreeOn l (!c.lenient && p.settings.strict) outline (ShowMenu l) (c.invocation.run s p).1 (answer q r).1) ∧
      (∀ file cssClass inContainer pretty outline r fields, c.ask = .navbar file cssClass inContainer pretty →
        s.Offers p.settings.maxOutline file outline → r.Posts .navbar fields →
        NavbarFields outline c.lenient cssClass inContainer pretty fields →
        AgreeOn l (!c.lenient && p.settings.strict) outline
          (fun m => ShowHtml l (p.navbar { menu := some m, cssClass, inContainer } pretty).1) (c.invocation.run s p).1
          (answer q r).1) ∧
      (∀ title text id cssClass labels pretty r fields, c.ask = .modal title text id cssClass labels pretty →
        r.Posts .modal fields → ModalFields title text id cssClass labels pretty fields →
        ShowHtml l (p.modal ⟨title, text, id, cssClass, labels.map closingButton⟩ pretty).1 (c.invocation.run s p).1
          (answer q r).1) ∧
      (p.Sound → p.Stocked → ∀ pretty f,
        (∀ n parts, n.shown = .ok parts → ((p.navbar n pretty).1 = .error f ↔
          f = .identifierTooLong ∧ ¬(p.counter Navbar.kind).Short (1 + Navbar.dropdownsIn parts))) ∧
        ∀ o, (p.modal o pretty).1 = .error f ↔ f = .identifierTooLong ∧ ¬(p.counter Modal.kind).Short 1) := by
  refine ⟨read_words c, fun words i => exists_commandLine, ?_, ?_, ?_, fun hs hp pretty f => ⟨?_, ?_⟩⟩
  · intro file outline r fields hc hs hr hfields
    exact menu_agrees hlevel hpq hc hs hr hfields
  · intro file cssClass inContainer pretty outline r fields hc hs hr hfields
    exact navbar_agrees hlevel hpq hc hs hr hfields
  · intro title text id cssClass labels pretty r fields hc hr hfields
    exact modal_agrees hlevel hpq hc hr hfields
  · intro n parts hshown
    exact hp.navbar_fails_iff hs hshown pretty f
  · intro o
    exact hp.modal_fails_iff hs o pretty f

def postTo (path body : String) : Request :=
  { path := path.toList, content := ⟨.json, (String.ofList body.toList).toUTF8⟩ }

def nested : String := "- a\n  - b"

def nestedBody : String := "\x7b\"outline\":\"- a\\n  - b\"\x7d"

def nestedFields : List (String × Json) := [("outline", .text nested)]

def nestedInput : Surroundings := ⟨fun _ => .error .missing, nested.toUTF8⟩

lemma offers_nested (seed : Int) : nestedInput.Offers (Studio.startingAt seed).settings.maxOutline "-" nested := by
  have hshort : (nested.length : Int) ≤ 65536 := by decide +kernel
  have hpaired : Text.ReturnsPaired nested.toList := by decide +kernel
  have hwritten : Text.isBlankText nested = false := by decide +kernel
  exact ⟨rfl, hpaired, ⟨hshort, hwritten⟩⟩

lemma parse_nestedBody : Json.parse nestedBody.toList = .ok (.object nestedFields) := by
  cbv

lemma posts_of_parse {path body : String} {route : Route} {fields : List (String × Json)}
    (hpath : Route.ofPath? path.toList = some route) (hzero : '\x00' ∉ body.toList)
    (hmark : body.toList.head? ≠ some '\uFEFF') (hescapes : ∀ u ∈ Json.escapes body.toList, Text.isSurrogate u = false)
    (hparse : Json.parse body.toList = .ok (.object fields)) : (postTo path body).Posts route fields := by
  have hread := Json.ofOctets_toUTF8 hzero hmark hescapes
  rw [hparse] at hread
  exact ⟨rfl, hpath, rfl, hread⟩

lemma posts_nested : (postTo "/api/navbar" nestedBody).Posts .navbar nestedFields := by
  have hzero : '\x00' ∉ nestedBody.toList := by decide +kernel
  have hmark : nestedBody.toList.head? ≠ some '\uFEFF' := by decide +kernel
  have hescapes : ∀ u ∈ Json.escapes nestedBody.toList, Text.isSurrogate u = false := by decide +kernel
  exact posts_of_parse (by rfl) hzero hmark hescapes parse_nestedBody

lemma navbarFields_nested : NavbarFields nested false none false false nestedFields := ⟨⟨rfl, rfl⟩, rfl, rfl, rfl⟩

def nestedLine : CommandLine := { ask := .navbar "-" none false false }

def warnings : Logging := ⟨.number 30, true, true⟩

lemma startLogging_nested (seed : Int) :
    startLogging (Studio.startingAt seed).settings.logLevel nestedLine.logLevel = .ok warnings := by
  have hname : Level.ofName "WARNING" = .ok (.number 30) := by rfl
  change startLogging "WARNING" none = _
  rw [startLogging, hname]
  rfl

theorem nested_agrees : InStep (Studio.startingAt 1000) (Studio.startingAt 1000) ∧
    AgreeOn warnings true nested
      (fun m => ShowHtml warnings ((Studio.startingAt 1000).navbar { menu := some m } false).1)
      (nestedLine.invocation.run nestedInput (Studio.startingAt 1000)).1
      (answer (Studio.startingAt 1000) (postTo "/api/navbar" nestedBody)).1 := by
  have hstep : InStep (Studio.startingAt 1000) (Studio.startingAt 1000) :=
    .alike (Studio.sound_startingAt 1000) (Studio.sound_startingAt 1000) rfl fun k => .refl k.name _
  obtain ⟨-, -, -, hnavbar, -⟩ := run_agrees nestedLine nestedInput (startLogging_nested 1000) hstep
  exact ⟨hstep, hnavbar "-" none false false nested _ nestedFields rfl (offers_nested 1000) posts_nested
    navbarFields_nested⟩

def nestedMenu : Menu :=
  .group none none [.group (some { text := some "a" }) none [.item (some { text := some "b" }) none]]

lemma parse_nested : Outline.parse true nested = .ok nestedMenu := by
  have ha : Writable { text := some "a" } :=
    writable_plain "a" (by decide) (Text.tight_iff.mpr rfl) (by unfold Apart; decide)
  have hb : Writable { text := some "b" } :=
    writable_plain "b" (by decide) (Text.tight_iff.mpr rfl) (by unfold Apart; decide)
  have hlineA : Writes ⟨0, .item, "a", none⟩ "- a".toList :=
    .intro (w := []) (by simp [Indent]) .item (.plain (by decide))
  have hlineB : Writes ⟨2, .item, "b", none⟩ "  - b".toList :=
    .intro (w := [' ', ' ']) (by simp [Indent]) .item (.plain (by decide))
  have hwritten : Written 0 2 none
      [.group (some { text := some "a" }) none [.item (some { text := some "b" }) none]] nested :=
    ⟨["- a".toList, "  - b".toList], .lf (by decide) (.last (by decide)), .cons hlineA (.cons hlineB .nil)⟩
  have houtlined : Outlined [.group (some { text := some "a" }) none [.item (some { text := some "b" }) none]] :=
    .group ha (List.cons_ne_nil _ _) (.item hb .nil) .nil
  exact hwritten.parse (fun _ h => absurd h (Option.not_mem_none _)) houtlined Nat.two_pos true

-- The studio is any, so that no template is read to see this.
lemma nested_stops_of_long {p : Press} (hsound : p.Sound) (hp : p.Stocked) {l : Logging}
    (hlevel : startLogging p.settings.logLevel nestedLine.logLevel = .ok l)
    (hs : nestedInput.Offers p.settings.maxOutline "-" nested) (hstrict : p.settings.strict = true)
    (hlong : ¬(p.counter Navbar.kind).Short 2) :
    (nestedLine.invocation.run nestedInput p).1 = .error .identifierTooLong ∧
      (answer p (postTo "/api/navbar" nestedBody)).1 = .error .identifierTooLong := by
  have hm : Outline.parse (!false && p.settings.strict) nested = .ok nestedMenu := by rw [hstrict, ← parse_nested]; rfl
  have hdropdowns : Navbar.dropdownsIn [nestedMenu] = 1 := by decide
  have hstop : (p.navbar { menu := some nestedMenu } false).1 = .error .identifierTooLong :=
    (hp.navbar_fails_iff hsound rfl false _).mpr ⟨rfl, hdropdowns.symm ▸ hlong⟩
  have hprint : (Order.print nestedInput p false (.navbar "-" none false false)).1 = .error .identifierTooLong := by
    rw [print_navbar hs, hm]
    exact hstop
  constructor
  · exact run_of_passed hlevel hprint rfl
  · rw [answer_navbar posts_nested navbarFields_nested hs.sendable, hm]
    exact htmlAnswer_error hstop

def stair (depth : Nat) : List Char := List.replicate depth ' ' ++ ['-', ' ', 'a']

def stairs (depth : Nat) : Nat → List (List Char)
  | 0 => [stair depth]
  | n + 1 => stair depth :: stairs (depth + 1) n

def stairText (depth : Nat) : Nat → List Char
  | 0 => stair depth
  | n + 1 => stair depth ++ '\n' :: stairText (depth + 1) n

def stairMenus : Nat → List Menu
  | 0 => [.item (some { text := some "a" }) none]
  | n + 1 => [.group (some { text := some "a" }) none (stairMenus n)]

lemma nestingOf_stairMenus (n : Nat) : Menu.nestingOf (stairMenus n) = n + 1 := by
  induction n with
  | zero => rfl
  | succ n ih => rw [stairMenus, Menu.nestingOf, Menu.nesting, ih, Menu.nestingOf, Nat.max_zero]

lemma outlined_stairMenus (n : Nat) : Outlined (stairMenus n) := by
  have ha : Writable { text := some "a" } :=
    writable_plain "a" (by decide) (Text.tight_iff.mpr rfl) (by unfold Apart; decide)
  induction n with
  | zero => exact .item ha .nil
  | succ n ih => exact .group ha (by cases n <;> exact List.cons_ne_nil _ _) ih .nil

lemma mem_stair {depth : Nat} {c : Char} (h : c ∈ stair depth) : c ∈ [' ', '-', 'a'] := by
  rcases List.mem_append.mp h with h | h
  · rw [List.eq_of_mem_replicate h]
    decide
  · revert h
    simp only [List.mem_cons]
    tauto

lemma mem_stairText {n depth : Nat} {c : Char} (h : c ∈ stairText depth n) : c ∈ [' ', '-', 'a', '\n'] := by
  induction n generalizing depth with
  | zero => exact List.mem_append_left ['\n'] (mem_stair h)
  | succ n ih =>
    rcases List.mem_append.mp h with h | h
    · exact List.mem_append_left ['\n'] (mem_stair h)
    · rcases List.mem_cons.mp h with rfl | h
      · decide
      · exact ih h

lemma joinsTo_stairText (n depth : Nat) : Text.JoinsTo (stairs depth n) (stairText depth n) := by
  have hline : ∀ depth, '\n' ∉ stair depth := fun depth h => absurd (mem_stair h) (by decide)
  induction n generalizing depth with
  | zero => exact .last (hline depth)
  | succ n ih => exact .lf (hline depth) (ih (depth + 1))

lemma writes_stair (depth : Nat) (opened : Bool) :
    Writes (lineOf 0 1 ⟨depth, { text := some "a" }, opened⟩) (stair depth) := by
  have hindent : Indent (List.replicate depth ' ') := fun c hc => .inl (List.eq_of_mem_replicate hc)
  have hwrites : Writes ⟨(List.replicate depth ' ').length, .item, "a", none⟩ (stair depth) :=
    .intro hindent .item (.plain (by decide))
  rw [List.length_replicate] at hwrites
  rw [lineOf, Nat.zero_add, Nat.one_mul]
  exact hwrites

lemma writes_stairs (n depth : Nat) :
    List.Forall₂ Writes ((flatAll depth (stairMenus n)).map (lineOf 0 1)) (stairs depth n) := by
  induction n generalizing depth with
  | zero => exact .cons (writes_stair depth false) .nil
  | succ n ih =>
    rw [stairMenus, flatAll_group, flatAll, List.append_nil]
    exact .cons (writes_stair depth true) (ih (depth + 1))

lemma written_stairs (n : Nat) : Written 0 1 none (stairMenus n) (String.ofList (stairText 0 n)) := by
  refine ⟨stairs 0 n, ?_, ?_⟩
  · rw [String.toList_ofList]
    exact joinsTo_stairText n 0
  · rw [List.filter_eq_self.mpr (forall_right (writes_stairs n 0) fun _ _ h => h.isWritten)]
    exact writes_stairs n 0

lemma length_stairText (n depth : Nat) : (stairText depth n).length ≤ (n + 1) * (depth + n + 4) := by
  induction n generalizing depth with
  | zero => simp [stairText, stair]
  | succ n ih =>
    have hrest := ih (depth + 1)
    rw [show depth + 1 + n + 4 = depth + (n + 1) + 4 by omega] at hrest
    rw [stairText, List.length_append, List.length_cons, Nat.succ_mul]
    simp only [stair, List.length_append, List.length_replicate, List.length_cons, List.length_nil]
    omega

def stairOutline (n : Nat) : String := String.ofList (stairText 0 n)

def stairFields (n : Nat) : List (String × Json) := [("outline", .text (stairOutline n))]

def stairBody (n : Nat) : String := (Json.object (stairFields n)).indented

def stairInput (n : Nat) : Surroundings := ⟨fun _ => .error .missing, (stairOutline n).toUTF8⟩

def stairLine : CommandLine := { ask := .menu "-" }

lemma parse_stairs (strict : Bool) (n : Nat) :
    Outline.parse strict (stairOutline n) = .ok (.group none none (stairMenus n)) :=
  (written_stairs n).parse (fun _ h => absurd h (Option.not_mem_none _)) (outlined_stairMenus n) Nat.one_pos strict

lemma dash_mem_stairText (n depth : Nat) : '-' ∈ stairText depth n := by
  have hdash : '-' ∈ stair depth := List.mem_append_right _ List.mem_cons_self
  cases n with
  | zero => exact hdash
  | succ n => exact List.mem_append_left _ hdash

lemma offers_stairs {n : Nat} (hn : n ≤ 126) (seed : Int) :
    (stairInput n).Offers (Studio.startingAt seed).settings.maxOutline "-" (stairOutline n) := by
  have hreturn : '\r' ∉ stairText 0 n := fun h => absurd (mem_stairText h) (by decide)
  refine ⟨if_pos rfl, fun i _ hr => ?_, ?_, ?_⟩
  · rw [stairOutline, String.toList_ofList] at hr
    exact absurd (List.mem_of_getElem? hr) hreturn
  · have hlength := length_stairText n 0
    have hbound : (n + 1) * (0 + n + 4) ≤ 127 * 130 := Nat.mul_le_mul (by omega) (by omega)
    change ((stairOutline n).length : Int) ≤ 65536
    rw [stairOutline, String.length_ofList]
    omega
  · rw [Text.isBlankText, stairOutline, String.toList_ofList, Text.allBlank, List.all_eq_false]
    exact ⟨'-', dash_mem_stairText n 0, by decide⟩

lemma mem_escaped {n depth : Nat} {c : Char} (h : c ∈ (stairText depth n).flatMap Json.escapedChar) :
    c ∈ [' ', '-', 'a', '\\', 'n'] := by
  obtain ⟨d, hd, hc⟩ := List.mem_flatMap.mp h
  have hd := mem_stairText hd
  simp only [List.mem_cons, List.not_mem_nil, or_false] at hd
  rcases hd with rfl | rfl | rfl | rfl <;> simp_all [Json.escapedChar, Text.doubleQuote]

lemma escapes_eq_nil {s : List Char} (h : 'u' ∉ s) : Json.escapes s = [] := by
  fun_induction Json.escapes s with
  | case1 => simp at h
  | case2 c s _ ih => exact ih fun hs => h (List.mem_cons_of_mem c hs)
  | case3 => rfl

def bodyHead : List Char :=
  ['\x7b', '\n', ' ', ' ', '\x22', 'o', 'u', 't', 'l', 'i', 'n', 'e', '\x22', ':', ' ', '\x22']

def bodyEnd : List Char := ['\x22', '\n', '\x7d']

lemma toList_stairBody (n : Nat) :
    (stairBody n).toList = bodyHead ++ ((stairText 0 n).flatMap Json.escapedChar ++ bodyEnd) := by
  have hname : Json.escapedText "outline" = "\"outline\"".toList := by rfl
  rw [stairBody, Json.indented, String.toList_ofList, stairFields, Json.write, Json.writeField, Json.writeFields,
    Json.write, hname, stairOutline]
  simp [bodyHead, bodyEnd, Json.newLine, Json.escapedText, Json.inQuotes, Text.doubleQuote]

lemma escapes_bodyHead (s : List Char) : Json.escapes (bodyHead ++ s) = Json.escapes s := by
  simp [bodyHead, Json.escapes]

lemma not_mem_stairBody {n : Nat} {c : Char} (hhead : c ∉ bodyHead) (hc : c ∉ [' ', '-', 'a', '\\', 'n'])
    (hend : c ∉ bodyEnd) : c ∉ (stairBody n).toList := by
  rw [toList_stairBody]
  simp only [List.mem_append, not_or]
  exact ⟨hhead, fun h => hc (mem_escaped h), hend⟩

lemma escapes_stairBody (n : Nat) : Json.escapes (stairBody n).toList = [] := by
  rw [toList_stairBody, escapes_bodyHead]
  refine escapes_eq_nil ?_
  simp only [List.mem_append, not_or]
  exact ⟨fun h => absurd (mem_escaped h) (by decide), by decide⟩

lemma parse_stairBody (n : Nat) : Json.parse (stairBody n).toList = .ok (.object (stairFields n)) := by
  have hworded : (Json.object (stairFields n)).Worded :=
    .object (List.nodup_singleton _) (List.forall_mem_singleton.mpr .text)
  rw [← List.append_nil (stairBody n).toList]
  exact Json.parse_indented hworded _ rfl

lemma posts_stairs (n : Nat) : (postTo "/api/menu" (stairBody n)).Posts .menu (stairFields n) := by
  have hzero : '\x00' ∉ (stairBody n).toList := not_mem_stairBody (by decide) (by decide) (by decide)
  have hmark : (stairBody n).toList.head? ≠ some '\uFEFF' := fun h =>
    absurd (List.mem_of_head? h) (not_mem_stairBody (by decide) (by decide) (by decide))
  have hescapes : ∀ u ∈ Json.escapes (stairBody n).toList, Text.isSurrogate u = false := by
    rw [escapes_stairBody]
    exact List.forall_mem_nil _
  exact posts_of_parse (by rfl) hzero hmark hescapes (parse_stairBody n)

lemma outlineFields_stairs (n : Nat) : OutlineFields (stairOutline n) false (stairFields n) := ⟨rfl, rfl⟩

lemma stairs_unanswered {n : Nat} (hn : 126 ≤ n) {p : Press} {l : Logging}
    (hlevel : startLogging p.settings.logLevel none = .ok l)
    (hs : (stairInput n).Offers p.settings.maxOutline "-" (stairOutline n)) :
    (∃ o, (stairLine.invocation.run (stairInput n) p).1 = .ok o ∧ o.exitCode = 0) ∧
      (answer p (postTo "/api/menu" (stairBody n))).1 = .error (.unserializable .tooDeep) := by
  have hagree := menu_agrees (c := stairLine) hlevel .same rfl hs (posts_stairs n) (outlineFields_stairs n)
  generalize (stairLine.invocation.run (stairInput n) p).1 = a at hagree ⊢
  generalize (answer p (postTo "/api/menu" (stairBody n))).1 = b at hagree ⊢
  have hnesting : 126 < (Menu.group none none (stairMenus n)).nesting := by
    rw [Menu.nesting, nestingOf_stairMenus]
    omega
  cases hagree with
  | accepted hm hshow =>
    rw [parse_stairs] at hm
    cases hm
    cases hshow with
    | shown hle => exact absurd hle (Nat.not_le.mpr hnesting)
    | tooDeep _ _ hended => exact ⟨⟨_, rfl, hended.exitCode⟩, rfl⟩
  | refused hf =>
    have hparse := parse_eq_error_iff.mpr ⟨_, hf⟩
    rw [parse_stairs] at hparse
    cases hparse

/-- Where the second of the two identifiers has too many digits, an outline in order is neither printed nor answered,
and no message is given; and the menu of one with 127 levels is printed, but not answered with. -/
theorem nested_and_stairs_unanswered :
    (nestedInput.Offers (Studio.startingAt Navbar.nearlyTooLong.first).settings.maxOutline "-" nested ∧
      (postTo "/api/navbar" nestedBody).Posts .navbar nestedFields ∧
      NavbarFields nested false none false false nestedFields ∧
      (nestedLine.invocation.run nestedInput (Studio.startingAt Navbar.nearlyTooLong.first)).1 =
        .error .identifierTooLong ∧
      (answer (Studio.startingAt Navbar.nearlyTooLong.first) (postTo "/api/navbar" nestedBody)).1 =
        .error .identifierTooLong) ∧
    (stairInput 126).Offers (Studio.startingAt 1000).settings.maxOutline "-" (stairOutline 126) ∧
      (postTo "/api/menu" (stairBody 126)).Posts .menu (stairFields 126) ∧
      OutlineFields (stairOutline 126) false (stairFields 126) ∧
      (∃ o, (stairLine.invocation.run (stairInput 126) (Studio.startingAt 1000)).1 = .ok o ∧ o.exitCode = 0) ∧
      (answer (Studio.startingAt 1000) (postTo "/api/menu" (stairBody 126))).1 =
        .error (.unserializable .tooDeep) := by
  have hlong : ¬((Studio.startingAt Navbar.nearlyTooLong.first).counter Navbar.kind).Short 2 := by decide +kernel
  have hstops := nested_stops_of_long (Studio.sound_startingAt _) (Studio.stocked_startingAt _) (startLogging_nested _)
    (offers_nested _) rfl hlong
  have hoffers := offers_stairs (Nat.le_refl 126) 1000
  have hdeep := stairs_unanswered (Nat.le_refl 126) (startLogging_nested 1000) hoffers
  exact ⟨⟨offers_nested _, posts_nested, navbarFields_nested, hstops⟩, hoffers, posts_stairs 126,
    outlineFields_stairs 126, hdeep⟩

end PageStencil.Command
