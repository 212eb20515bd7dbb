import Mathlib.Data.List.TakeWhile
import PageStencil.Command.Line
import PageStencil.Proofs.Running
import PageStencil.Proofs.Service.Posts

/-!
Command lines for all that can be asked for. An option is joined with its value and a file stands behind a double dash,
so that it does not matter what they look like; and whatever is read from a command line can be asked for so.
-/

namespace PageStencil.Command

open Service (closingButton)

inductive Ask
  | menu (file : String)
  | navbar (file : String) (cssClass : Option String) (inContainer pretty : Bool)
  | modal (title text id cssClass : Option String) (labels : List String) (pretty : Bool)

structure CommandLine where
  logLevel : Option String := none
  lenient : Bool := false
  ask : Ask

/-- Options with their values, in the order in which they are given. A flag has an empty value for each time that it is
set. -/
abbrev Given := List (OptionForm × List String)

namespace Given

def word (f : OptionForm) (value : String) : String := if f.role = .flag then f.spelling else f.spelling ++ "=" ++ value

def words (g : Given) : List String := g.flatMap fun o => o.2.map (word o.1)

def read (g : Given) : List (String × String) := g.flatMap fun o => o.2.map (o.1.spelling, ·)

def flag (set : Bool) : List String := if set then [""] else []

end Given

namespace Ask

def verb : Ask → String
  | menu _ => "menu"
  | navbar _ _ _ _ => "navbar"
  | modal _ _ _ _ _ _ => "modal"

def given : Ask → Given
  | menu _ => []
  | navbar _ cssClass inContainer pretty =>
    [(⟨"--class", .value⟩, cssClass.toList), (⟨"--container", .flag⟩, Given.flag inContainer),
      (⟨"--pretty", .flag⟩, Given.flag pretty)]
  | modal title text id cssClass labels pretty =>
    [(⟨"--title", .value⟩, title.toList), (⟨"--text", .value⟩, text.toList), (⟨"--id", .value⟩, id.toList),
      (⟨"--class", .value⟩, cssClass.toList), (⟨"--button", .value⟩, labels), (⟨"--pretty", .flag⟩, Given.flag pretty)]

def file? : Ask → Option String
  | menu file => some file
  | navbar file _ _ _ => some file
  | modal _ _ _ _ _ _ => none

def words (a : Ask) : List String := a.given.words ++ (a.file?.map fun file => ["--", file]).getD []

def order : Ask → Order
  | menu file => .menu file
  | navbar file cssClass inContainer pretty => .navbar file cssClass inContainer pretty
  | modal title text id cssClass labels pretty =>
    .modal ⟨title, text, id, cssClass, labels.map closingButton⟩ pretty

end Ask

namespace CommandLine

def given (c : CommandLine) : Given :=
  [(⟨"--log-level", .value⟩, c.logLevel.toList), (⟨"--lenient-indentation", .flag⟩, Given.flag c.lenient)]

def words (c : CommandLine) : List String := c.given.words ++ c.ask.verb :: c.ask.words

def invocation (c : CommandLine) : Invocation := ⟨c.logLevel, c.lenient, c.ask.order⟩

end CommandLine

structure Distinct (forms : List OptionForm) : Prop where
  dashes : ∀ f ∈ forms, f.spelling.toList.take 2 = ['-', '-']
  named : ∀ f ∈ forms, f.spelling ≠ "--"
  role : ∀ f ∈ forms, f.role ≠ .help
  unequal : ∀ f ∈ helpForms ++ forms, '=' ∉ f.spelling.toList
  once : ∀ f ∈ forms, (helpForms ++ forms).find? (fun g => g.spelling.toList = f.spelling.toList) = some f

lemma distinct_mainForms : Distinct mainForms := by constructor <;> decide

lemma distinct_navbarForms : Distinct navbarForms := by constructor <;> decide

lemma distinct_modalForms : Distinct modalForms := by constructor <;> decide

section Classifying

variable {forms : List OptionForm} {f : OptionForm} {name value : List Char}

lemma splitAtEquals_of_not_mem (h : '=' ∉ name) : splitAtEquals name = (name, none) := by
  have hall : ∀ c ∈ name, (c != '=') = true := fun c hc => bne_iff_ne.mpr fun heq => h (heq ▸ hc)
  rw [splitAtEquals, List.takeWhile_eq_self_iff.mpr hall, List.dropWhile_eq_nil_iff.mpr hall]
  rfl

lemma splitAtEquals_joined (h : '=' ∉ name) : splitAtEquals (name ++ '=' :: value) = (name, some value) := by
  have hall : ∀ c ∈ name, (c != '=') = true := fun c hc => bne_iff_ne.mpr fun heq => h (heq ▸ hc)
  rw [splitAtEquals, List.takeWhile_append_of_pos hall, List.dropWhile_append_of_pos hall]
  simp

lemma toList_word (f : OptionForm) (v : String) : (Given.word f v).toList =
    if f.role = .flag then f.spelling.toList else f.spelling.toList ++ '=' :: v.toList := by
  rw [Given.word]
  split
  · rfl
  · simp

def joinedTo (f : OptionForm) (v : String) : Option JoinsTo := if f.role = .flag then none else some v.toList

lemma splitAtEquals_word (h : '=' ∉ f.spelling.toList) (v : String) :
    splitAtEquals (Given.word f v).toList = (f.spelling.toList, joinedTo f v) := by
  rw [toList_word, joinedTo]
  split
  · exact splitAtEquals_of_not_mem h
  · exact splitAtEquals_joined h

lemma word_cases (hf : f.spelling.toList.take 2 = ['-', '-']) (v : String) :
    ∃ s, (Given.word f v).toList = '-' :: '-' :: s := by
  obtain ⟨s, hs⟩ : ∃ s, f.spelling.toList = '-' :: '-' :: s := by
    refine ⟨f.spelling.toList.drop 2, ?_⟩
    have happend := List.take_append_drop 2 f.spelling.toList
    rwa [hf, eq_comm] at happend
  rw [toList_word, hs]
  split
  · exact ⟨s, rfl⟩
  · exact ⟨s ++ '=' :: v.toList, rfl⟩

lemma find?_joined (h : ∀ g ∈ forms, '=' ∉ g.spelling.toList) :
    forms.find? (fun g => g.spelling.toList = name ++ '=' :: value) = none := by
  refine List.find?_eq_none.mpr fun g hg heq => h g hg ?_
  rw [of_decide_eq_true heq]
  exact List.mem_append_right _ List.mem_cons_self

lemma classify_word (hforms : Distinct forms) (hf : f ∈ forms) (v : String) :
    classify (helpForms ++ forms) (Given.word f v).toList = .ok (.option f (joinedTo f v)) := by
  obtain ⟨s, hs⟩ := word_cases (hforms.dashes f hf) v
  have hsplit := splitAtEquals_word (hforms.unequal f (List.mem_append_right _ hf)) v
  have hword := toList_word f v
  rw [hs] at hsplit hword ⊢
  by_cases hrole : f.role = .flag
  · rw [if_pos hrole] at hword
    rw [classify]
    simp only [hword, hforms.once f hf, joinedTo, if_pos hrole]
  · rw [if_neg hrole] at hword
    rw [classify]
    simp only [joinedTo, if_neg hrole] at hsplit ⊢
    have hnone : (helpForms ++ forms).find? (fun g => g.spelling.toList = f.spelling.toList ++ '=' :: v.toList) = none :=
      find?_joined hforms.unequal
    simp only [hword] at hsplit ⊢
    simp only [hnone, spelledBeforeEquals?, hsplit, hforms.once f hf, Option.map_some]

lemma word_ne_divider (hforms : Distinct forms) (hf : f ∈ forms) (v : String) : Given.word f v ≠ "--" := by
  intro hword
  rw [Given.word] at hword
  split at hword
  · exact hforms.named f hf hword
  · have hmem : '=' ∈ (f.spelling ++ "=" ++ v).toList := by simp
    rw [hword] at hmem
    exact absurd hmem (by decide)

def Foreign (others : List OptionForm) (f : OptionForm) : Prop :=
  others.filter (fun g => f.spelling.toList.isPrefixOf g.spelling.toList) = []

instance (others : List OptionForm) (f : OptionForm) : Decidable (Foreign others f) := inferInstanceAs (Decidable (_ = _))

lemma exists_classify {others : List OptionForm} (hforms : Distinct forms) (hf : f ∈ forms) (hother : Foreign others f)
    (v : String) : ∃ sort, classify others (Given.word f v).toList = .ok sort := by
  obtain ⟨s, hs⟩ := word_cases (hforms.dashes f hf) v
  have hsplit := splitAtEquals_word (hforms.unequal f (List.mem_append_right _ hf)) v
  rw [Foreign] at hother
  have hnone : candidates others ('-' :: '-' :: s) = [] := by
    rw [candidates, ← hs, hsplit]
    simp only [hother, List.map_nil]
  rw [hs, classify, hnone]
  split
  next => exact ⟨_, rfl⟩
  next =>
    split
    next => exact ⟨_, rfl⟩
    next => exact ⟨_, rfl⟩

end Classifying

section Reading

variable {forms others : List OptionForm} {g : Given} {ws : List String} {cs : List Word}

structure Given.Among (g : Given) (forms : List OptionForm) : Prop where
  own : ∀ o ∈ g, o.1 ∈ forms
  flags : ∀ o ∈ g, o.1.role = .flag → ∀ v ∈ o.2, v = ""

lemma Given.Among.forall_words {P : String → Prop} (hg : g.Among forms) (h : ∀ f ∈ forms, ∀ v, P (word f v)) :
    ∀ w ∈ g.words, P w := by
  intro w hw
  obtain ⟨o, ho, hw⟩ := List.mem_flatMap.mp hw
  obtain ⟨v, _, rfl⟩ := List.mem_map.mp hw
  exact h o.1 (hg.own o ho) v

lemma classifyAll_cons {w : String} {sort : WordSort} (hw : w ≠ "--") (hsort : classify others w.toList = .ok sort)
    (hws : classifyAll others ws = .ok cs) : classifyAll others (w :: ws) = .ok (⟨w, sort⟩ :: cs) := by
  rw [classifyAll, if_neg hw, hsort, hws]
  rfl

lemma exists_classifyAll (h : ∀ w ∈ ws, w ≠ "--" ∧ ∃ sort, classify others w.toList = .ok sort) {tail : List String}
    (htail : ∃ cs, classifyAll others tail = .ok cs) : ∃ cs, classifyAll others (ws ++ tail) = .ok cs := by
  induction ws with
  | nil => exact htail
  | cons w ws ih =>
    obtain ⟨⟨hw, sort, hsort⟩, hws⟩ := List.forall_mem_cons.mp h
    obtain ⟨cs, hcs⟩ := ih hws
    exact ⟨_, classifyAll_cons hw hsort hcs⟩

lemma written_of_classifyAll (h : classifyAll others ws = .ok cs) : cs.map Word.written = ws := by
  induction ws generalizing cs with
  | nil =>
    cases h
    rfl
  | cons w ws ih =>
    rw [classifyAll] at h
    split at h
    next hw =>
      cases h
      rw [hw, List.map_cons, List.map_map]
      exact congrArg (List.cons "--") (List.map_id ws)
    next =>
      obtain ⟨sort, _, h⟩ := bind_eq_ok h
      obtain ⟨rest, hrest, h⟩ := bind_eq_ok h
      cases h
      rw [List.map_cons, ih hrest]

def Given.sorted (g : Given) : List Word :=
  g.flatMap fun o => o.2.map fun v => ⟨word o.1 v, .option o.1 (joinedTo o.1 v)⟩

lemma classifyAll_given (hforms : Distinct forms) (hown : ∀ o ∈ g, o.1 ∈ forms)
    (hws : classifyAll (helpForms ++ forms) ws = .ok cs) :
    classifyAll (helpForms ++ forms) (g.words ++ ws) = .ok (g.sorted ++ cs) := by
  induction g with
  | nil => exact hws
  | cons o g ih =>
    obtain ⟨hf, hown⟩ := List.forall_mem_cons.mp hown
    rw [Given.words, Given.sorted, List.flatMap_cons, List.flatMap_cons, List.append_assoc, List.append_assoc]
    have hrest := ih hown
    rw [Given.words, Given.sorted] at hrest
    generalize o.2 = vs
    induction vs with
    | nil => exact hrest
    | cons v vs ih => exact classifyAll_cons (word_ne_divider hforms hf v) (classify_word hforms hf v) ih

def Arguments.putAll (a : Arguments) (options : List (String × String)) : Arguments :=
  { a with options := a.options ++ options }

lemma Arguments.putAll_nil (a : Arguments) : a.putAll [] = a := by rw [putAll, List.append_nil]

lemma Arguments.putAll_cons (a : Arguments) (name value : String) (options : List (String × String)) :
    a.putAll ((name, value) :: options) = (a.put name value).putAll options := by
  rw [putAll, putAll, put, List.append_assoc, List.singleton_append]

lemma Arguments.putAll_append (a : Arguments) (options more : List (String × String)) :
    a.putAll (options ++ more) = (a.putAll options).putAll more := by
  rw [putAll, putAll, putAll, List.append_assoc]

lemma readWords_option {f : OptionForm} (hrole : f.role ≠ .help) (operand : Operand) (a : Arguments)
    {v : String} (hv : f.role = .flag → v = "") :
    readWords operand false a (⟨Given.word f v, .option f (joinedTo f v)⟩ :: cs) =
      readWords operand false (a.put f.spelling v) cs := by
  obtain ⟨spelling, role⟩ := f
  cases role with
  | help => exact absurd rfl hrole
  | flag =>
    rw [hv rfl]
    rfl
  | value =>
    change readWords operand false (a.put spelling (String.ofList v.toList)) cs = _
    rw [String.ofList_toList]

lemma readWords_values {f : OptionForm} (hrole : f.role ≠ .help) (operand : Operand) (a : Arguments) {vs : List String}
    (hvs : f.role = .flag → ∀ v ∈ vs, v = "") :
    readWords operand false a ((vs.map fun v => ⟨Given.word f v, .option f (joinedTo f v)⟩) ++ cs) =
      readWords operand false (a.putAll (vs.map (f.spelling, ·))) cs := by
  induction vs generalizing a with
  | nil => rw [List.map_nil, List.map_nil, List.nil_append, Arguments.putAll_nil]
  | cons v vs ih =>
    rw [List.map_cons, List.map_cons, List.cons_append, Arguments.putAll_cons,
      readWords_option hrole operand a fun hf => hvs hf v List.mem_cons_self]
    exact ih _ fun hf w hw => hvs hf w (List.mem_cons_of_mem v hw)

lemma readWords_given (hforms : Distinct forms) (hown : ∀ o ∈ g, o.1 ∈ forms)
    (hflags : ∀ o ∈ g, o.1.role = .flag → ∀ v ∈ o.2, v = "") (operand : Operand) (a : Arguments) :
    readWords operand false a (g.sorted ++ cs) = readWords operand false (a.putAll g.read) cs := by
  induction g generalizing a with
  | nil => rw [Given.read, List.flatMap_nil, Arguments.putAll_nil]; rfl
  | cons o g ih =>
    obtain ⟨hf, hown⟩ := List.forall_mem_cons.mp hown
    obtain ⟨ho, hflags⟩ := List.forall_mem_cons.mp hflags
    rw [Given.sorted, Given.read, List.flatMap_cons, List.flatMap_cons, List.append_assoc,
      readWords_values (hforms.role o.1 hf) operand a ho, Arguments.putAll_append]
    exact ih hown hflags _

lemma readArguments_given (hforms : Distinct forms) (hg : g.Among forms) {operand : Operand}
    (hws : classifyAll (helpForms ++ forms) ws = .ok cs) :
    readArguments forms operand (g.words ++ ws) = readWords operand false { options := g.read } cs := by
  rw [readArguments, classifyAll_given hforms hg.own hws]
  exact readWords_given hforms hg.own hg.flags operand {}

lemma readArguments_nothing (hforms : Distinct forms) (hg : g.Among forms) :
    readArguments forms .nothing g.words = .ok { options := g.read } := by
  have hread : readArguments forms .nothing (g.words ++ []) = .ok { options := g.read } :=
    (readArguments_given hforms hg rfl).trans rfl
  rwa [List.append_nil] at hread

lemma readArguments_file (hforms : Distinct forms) (hg : g.Among forms) (file : String) :
    readArguments forms .word (g.words ++ ["--", file]) = .ok { options := g.read, operand := some (file, []) } :=
  (readArguments_given hforms hg rfl).trans rfl

lemma readArguments_command (hforms : Distinct forms) (hg : g.Among forms) {verb : String} (hverb : verb ≠ "--")
    (hplain : classify (helpForms ++ forms) verb.toList = .ok .plain)
    (hws : ∃ cs, classifyAll (helpForms ++ forms) ws = .ok cs) :
    readArguments forms .command (g.words ++ verb :: ws) = .ok { options := g.read, operand := some (verb, ws) } := by
  obtain ⟨cs, hcs⟩ := hws
  rw [readArguments_given hforms hg (classifyAll_cons hverb hplain hcs), ← written_of_classifyAll hcs]
  rfl

end Reading

section Values

lemma values_read (g : Given) (operand : Option (String × List String)) (name : String) :
    Arguments.values { options := g.read, operand } name =
      g.flatMap fun o => if o.1.spelling = name then o.2 else [] := by
  rw [Arguments.values, Given.read, List.filter_flatMap, List.map_flatMap]
  refine congrArg (List.flatMap · g) (funext fun o => ?_)
  split
  next h => simp [List.filter_map, Function.comp_def, h]
  next h => simp [List.filter_map, Function.comp_def, h]

@[simp] lemma getLast?_toList {α : Type} (v : Option α) : v.toList.getLast? = v := by
  cases v <;> rfl

@[simp] lemma isSome_flag (set : Bool) : (Given.flag set).getLast?.isSome = set := by
  cases set <;> rfl

lemma eq_empty_of_flag {set : Bool} {v : String} (h : v ∈ Given.flag set) : v = "" := by
  cases set with
  | false => cases h
  | true => exact List.mem_singleton.mp h

end Values

lemma CommandLine.among (c : CommandLine) : c.given.Among mainForms where
  own := by simp [given, mainForms]
  flags := by
    simp only [given, List.forall_mem_cons]
    exact ⟨nofun, fun _ _ => eq_empty_of_flag, List.forall_mem_nil _⟩

lemma verb_ne_divider (a : Ask) : a.verb ≠ "--" := by
  cases a <;> simp [Ask.verb]

lemma classify_verb (a : Ask) : classify (helpForms ++ mainForms) a.verb.toList = .ok .plain := by
  have hplain : ∀ name ∈ verbs.map Verb.name, classify (helpForms ++ mainForms) name.toList = .ok .plain := by
    decide +kernel
  exact hplain a.verb (by cases a <;> simp [Ask.verb, verbs])

/-- What a command makes of the words behind its name. -/
structure Verb.Reads (v : Verb) (a : Ask) : Prop where
  found : verbs.find? (fun w => w.name = a.verb) = some v
  sorts : ∃ cs, classifyAll (helpForms ++ mainForms) a.words = .ok cs
  read : ∃ inner, readArguments v.forms v.operand a.words = .ok inner ∧ inner.excess = false ∧ v.order inner = a.order

lemma exists_classifyAll_given {forms : List OptionForm} {g : Given} {tail : List String} (hforms : Distinct forms)
    (hg : g.Among forms) (hforeign : ∀ f ∈ forms, Foreign (helpForms ++ mainForms) f)
    (htail : ∃ cs, classifyAll (helpForms ++ mainForms) tail = .ok cs) :
    ∃ cs, classifyAll (helpForms ++ mainForms) (g.words ++ tail) = .ok cs :=
  exists_classifyAll (hg.forall_words fun f hf v =>
    ⟨word_ne_divider hforms hf v, exists_classify hforms hf (hforeign f hf) v⟩) htail

lemma reads_menu (file : String) : Verb.Reads ⟨"menu", [], .word, Arguments.menuOrder⟩ (.menu file) :=
  ⟨rfl, ⟨_, rfl⟩, _, rfl, rfl, rfl⟩

lemma reads_navbar (file : String) (cssClass : Option String) (inContainer pretty : Bool) :
    Verb.Reads ⟨"navbar", navbarForms, .word, Arguments.navbarOrder⟩ (.navbar file cssClass inContainer pretty) := by
  have hamong : (Ask.navbar file cssClass inContainer pretty).given.Among navbarForms := by
    refine ⟨by simp [Ask.given, navbarForms], ?_⟩
    simp only [Ask.given, List.forall_mem_cons]
    exact ⟨nofun, fun _ _ => eq_empty_of_flag, fun _ _ => eq_empty_of_flag, List.forall_mem_nil _⟩
  have hforeign : ∀ f ∈ navbarForms, Foreign (helpForms ++ mainForms) f := by decide
  refine ⟨rfl, ?_, _, readArguments_file distinct_navbarForms hamong file, rfl, ?_⟩
  · exact exists_classifyAll_given distinct_navbarForms hamong hforeign ⟨_, rfl⟩
  · simp [Arguments.navbarOrder, Arguments.file, Arguments.value?, Arguments.has, values_read, Ask.given, Ask.order]

lemma reads_modal (title text id cssClass : Option String) (labels : List String) (pretty : Bool) :
    Verb.Reads ⟨"modal", modalForms, .nothing, Arguments.modalOrder⟩
      (.modal title text id cssClass labels pretty) := by
  have hamong : (Ask.modal title text id cssClass labels pretty).given.Among modalForms := by
    refine ⟨by simp [Ask.given, modalForms], ?_⟩
    simp only [Ask.given, List.forall_mem_cons]
    exact ⟨nofun, nofun, nofun, nofun, nofun, fun _ _ => eq_empty_of_flag, List.forall_mem_nil _⟩
  have hforeign : ∀ f ∈ modalForms, Foreign (helpForms ++ mainForms) f := by decide
  have hread := readArguments_nothing distinct_modalForms hamong
  rw [← List.append_nil (Ask.modal title text id cssClass labels pretty).given.words] at hread
  refine ⟨rfl, ?_, _, hread, rfl, ?_⟩
  · exact exists_classifyAll_given distinct_modalForms hamong hforeign ⟨_, rfl⟩
  · simp [Arguments.modalOrder, Arguments.value?, Arguments.has, values_read, Ask.given, Ask.order]
    exact fun _ _ => rfl

lemma exists_verb : (a : Ask) → ∃ v : Verb, v.Reads a
  | .menu file => ⟨_, reads_menu file⟩
  | .navbar file cssClass inContainer pretty => ⟨_, reads_navbar file cssClass inContainer pretty⟩
  | .modal title text id cssClass labels pretty => ⟨_, reads_modal title text id cssClass labels pretty⟩

theorem read_words (c : CommandLine) : Invocation.read c.words = .ok c.invocation := by
  obtain ⟨v, hfound, hsorts, inner, hinner, hexcess, horder⟩ := exists_verb c.ask
  have hlevel : Arguments.value? { options := c.given.read, operand := some (c.ask.verb, c.ask.words) } "--log-level" =
      c.logLevel := by
    simp [Arguments.value?, values_read, CommandLine.given]
  have hlenient : Arguments.has { options := c.given.read, operand := some (c.ask.verb, c.ask.words) }
      "--lenient-indentation" = c.lenient := by
    simp [Arguments.has, Arguments.value?, values_read, CommandLine.given]
  rw [Invocation.read, CommandLine.words,
    readArguments_command distinct_mainForms c.among (verb_ne_divider _) (classify_verb _) hsorts]
  simp only [bind, Except.bind, Option.getD_some, hfound, hinner, hexcess, hlevel, hlenient, horder]
  rfl

section

variable {words : List String} {i : Invocation}

lemma exists_verb_of_read (h : Invocation.read words = .ok i) : ∃ v ∈ verbs, ∃ a, i.order = v.order a := by
  obtain ⟨outer, _, h⟩ := bind_eq_ok h
  cases hverb : verbs.find? fun v => v.name = (outer.operand.getD ("", [])).1 with
  | none =>
    simp only [hverb] at h
    cases h
  | some v =>
    simp only [hverb] at h
    obtain ⟨inner, _, h⟩ := bind_eq_ok h
    split at h
    next => cases h
    next =>
      cases h
      exact ⟨v, List.mem_of_find?_eq_some hverb, inner, rfl⟩

theorem exists_commandLine (h : Invocation.read words = .ok i) : ∃ c : CommandLine, c.invocation = i := by
  obtain ⟨v, hv, a, ha⟩ := exists_verb_of_read h
  suffices hask : ∃ ask : Ask, ask.order = i.order by
    obtain ⟨ask, hask⟩ := hask
    exact ⟨⟨i.logLevel, i.lenient, ask⟩, by rw [CommandLine.invocation, hask]⟩
  rw [ha]
  simp only [verbs, List.mem_cons, List.not_mem_nil, or_false] at hv
  rcases hv with rfl | rfl | rfl
  · exact ⟨.menu a.file, rfl⟩
  · exact ⟨.navbar a.file (a.value? "--class") (a.has "--container") (a.has "--pretty"), rfl⟩
  · exact ⟨.modal (a.value? "--title") (a.value? "--text") (a.value? "--id") (a.value? "--class") (a.values "--button")
      (a.has "--pretty"), rfl⟩

end

end PageStencil.Command
