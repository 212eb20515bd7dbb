import PageStencil.Proofs.Studio.Making

/-!
Templates are shared and never touched. Whatever is done in a studio, a template that has been read is kept as it was
read, and the fragments made from it have no node in common, with it or with each other.
-/

namespace PageStencil.Studio

open Markup Stencil Forest

inductive Act
  | load (name : String)
  | write (path : Storage.Path) (content : ByteArray)
  | newModal (title text id cssClass : Option String) (uids : Option AllocatorId)
  | newNavbar (n : Navbar MenuId) (uids : Option AllocatorId)
  | render (id : FragmentId)
  | renderHtml (id : FragmentId) (pretty : Bool)
  | addButton (id : FragmentId) (b : Button)

namespace Act

def run : Act → Session Unit
  | load name => discard (Session.load name)
  | write path content => Session.writeTemplate path content
  | newModal title text id cssClass uids => discard (Session.newModal title text id cssClass uids)
  | newNavbar n uids => discard (Session.newNavbar n uids)
  | render id => discard (Session.render id)
  | renderHtml id pretty => discard (Session.renderHtml id pretty)
  | addButton id b => discard (Session.addButton id b)

def template? : Act → Option String
  | load name => some name
  | newModal _ _ _ _ _ => some Modal.templateName
  | newNavbar _ _ => some Navbar.templateName
  | _ => none

def write? : Act → Source → Source
  | write path content, source => { source with directory := source.directory.write path content }
  | _, source => source

end Act

/-- One act after the other; one that fails leaves what it has done so far. -/
def after (acts : List Act) (s : Studio) : Studio := acts.foldl (fun s a => (a.run.run s).2) s

def written (acts : List Act) (source : Source) : Source := acts.foldl (fun source a => a.write? source) source

/-- What a template holds when it can be loaded for the first time. -/
def firstRead (name : String) : List Act → Source → Option (Markup.Tree Unit)
  | [], _ => none
  | a :: acts, source =>
    (if a.template? = some name then (source.readRoot name).toOption else none) <|>
      firstRead name acts (a.write? source)

structure Unused (s : Studio) : Prop where
  sound : s.forest.Sound
  shelf : s.shelf.loaded = []
  fragments : s.fragments = #[]

lemma Unused.separate {s : Studio} (hs : s.Unused) : Separate (fun _ => .nobody) (fun _ => none) s := by
  refine ⟨hs.sound, fun _ _ _ _ => rfl, ?_, (fun _ _ ht => nomatch ht), fun name _ => ?_⟩
  · rw [hs.fragments]
    exact fun i hi => absurd hi (Nat.not_lt_zero i)
  · rw [Shelf.get?, hs.shelf]
    rfl

def nodesOf (s : Studio) (id : FragmentId) : List Node := (s.forest.tree (s.fragment id).copy.root).labels

/-- Loading a template does nothing but yield a root, below which stands what has been read. -/
structure Loads (s : Studio) (name : String) (t : Markup.Tree Unit) (root : Node) : Prop where
  run : (Session.load name).run s = (.ok root, s)
  tree : (s.forest.tree root).erase = t

structure Shares (s : Studio) (acts : List Act) : Prop where
  kept : ∀ name t, firstRead name acts s.source = some t → ∃ root, ∀ more, Loads (after (acts ++ more) s) name t root
  /-- As long as it could not be read, its file is read again. -/
  refused : ∀ name e, firstRead name acts s.source = none → (written acts s.source).readRoot name = .error e →
    (Session.load name).run (after acts s) = (.error e, after acts s)
  loaded : ∀ name t, firstRead name acts s.source = none → (written acts s.source).readRoot name = .ok t →
    ∃ root, (Session.load name).run (after acts s) = (.ok root, after (acts ++ [.load name]) s) ∧
      ∀ more, Loads (after (acts ++ .load name :: more) s) name t root
  fragments : ∀ i < (after acts s).fragments.size, ∀ j < (after acts s).fragments.size, i ≠ j →
    ((after acts s).nodesOf i).Disjoint ((after acts s).nodesOf j)
  templates : ∀ i < (after acts s).fragments.size, ∀ name root, (after acts s).shelf.get? name = some root →
    ((after acts s).nodesOf i).Disjoint ((after acts s).forest.tree root).labels
  shelf : ∀ name name' root root', name ≠ name' → (after acts s).shelf.get? name = some root →
    (after acts s).shelf.get? name' = some root' →
      ((after acts s).forest.tree root).labels.Disjoint ((after acts s).forest.tree root').labels
  menus : (after acts s).menus = s.menus

section Steps

variable {owner : Nat → Owner} {read : String → Option (Markup.Tree Unit)} {s : Studio}

def readBy (a : Act) (source : Source) (read : String → Option (Markup.Tree Unit)) (name : String) :
    Option (Markup.Tree Unit) :=
  read name <|> if a.template? = some name then (source.readRoot name).toOption else none

lemma readBy_of_template {a : Act} {name : String} (h : a.template? = some name) (source : Source) :
    readBy a source read = reread name source read := by
  funext other
  rw [readBy, reread, h]
  by_cases ho : other = name
  · subst ho
    rw [if_pos rfl, if_pos rfl]
  · have hne : ¬ some name = some other := fun heq => ho (Option.some.inj heq).symm
    rw [if_neg hne, if_neg ho]
    cases read other <;> rfl

lemma readBy_of_none {a : Act} (h : a.template? = none) (source : Source) : readBy a source read = read := by
  funext other
  rw [readBy, h, if_neg (by rintro ⟨⟩)]
  cases read other <;> rfl

theorem step (h : Separate owner read s) (a : Act) :
    ∃ owner', Separate owner' (readBy a s.source read) (a.run.run s).2 ∧
      (a.run.run s).2.source = a.write? s.source ∧ (a.run.run s).2.menus = s.menus ∧
      ∀ name root, s.shelf.get? name = some root → (a.run.run s).2.shelf.get? name = some root := by
  cases a with
  | load name =>
    obtain ⟨owner', h', hlater, _⟩ := h.load name
    rw [readBy_of_template rfl, Act.run, run_discard]
    exact ⟨owner', h', hlater.source, hlater.menus, hlater.shelf⟩
  | write path content =>
    rw [readBy_of_none rfl]
    exact ⟨owner, h.congr rfl rfl h.fragments, rfl, rfl, fun _ _ hr => hr⟩
  | newModal title text id cssClass uids =>
    obtain ⟨owner', h', hlater⟩ := h.newModal title text id cssClass uids
    rw [readBy_of_template rfl, Act.run, run_discard]
    exact ⟨owner', h', hlater.source, hlater.menus, hlater.shelf⟩
  | newNavbar n uids =>
    obtain ⟨owner', h', hlater⟩ := h.newNavbar n uids
    rw [readBy_of_template rfl, Act.run, run_discard]
    exact ⟨owner', h', hlater.source, hlater.menus, hlater.shelf⟩
  | render id =>
    obtain ⟨owner', h', hlater⟩ := h.render id
    rw [readBy_of_none rfl, Act.run, run_discard]
    exact ⟨owner', h', hlater.source, hlater.menus, hlater.shelf⟩
  | renderHtml id pretty =>
    obtain ⟨owner', h', hlater⟩ := h.renderHtml id pretty
    rw [readBy_of_none rfl, Act.run, run_discard]
    exact ⟨owner', h', hlater.source, hlater.menus, hlater.shelf⟩
  | addButton id b =>
    obtain ⟨owner', h', hlater⟩ := h.addButton id b
    rw [readBy_of_none rfl, Act.run, run_discard]
    exact ⟨owner', h', hlater.source, hlater.menus, hlater.shelf⟩

lemma after_append (acts more : List Act) (s : Studio) : after (acts ++ more) s = after more (after acts s) :=
  List.foldl_append

theorem run (h : Separate owner read s) (acts : List Act) :
    ∃ owner', Separate owner' (fun name => read name <|> firstRead name acts s.source) (after acts s) ∧
      (after acts s).source = written acts s.source ∧ (after acts s).menus = s.menus ∧
      ∀ name root, s.shelf.get? name = some root → (after acts s).shelf.get? name = some root := by
  induction acts generalizing owner read s with
  | nil =>
    refine ⟨owner, ?_, rfl, rfl, fun _ _ hr => hr⟩
    have hread : (fun name => read name <|> firstRead name [] s.source) = read := by
      funext name
      cases read name <;> simp [firstRead]
    rw [hread]
    exact h
  | cons a acts ih =>
    obtain ⟨owner₁, h₁, hsource, hmenus, hshelf⟩ := step h a
    obtain ⟨owner₂, h₂, hsource₂, hmenus₂, hshelf₂⟩ := ih h₁
    refine ⟨owner₂, ?_, ?_, hmenus₂.trans hmenus, fun name root hr => hshelf₂ name root (hshelf name root hr)⟩
    · have hread : (fun name => readBy a s.source read name <|> firstRead name acts (a.run.run s).2.source) =
          fun name => read name <|> firstRead name (a :: acts) s.source := by
        funext name
        rw [hsource, readBy, firstRead]
        cases read name <;> rfl
      exact hread ▸ h₂
    · rw [hsource] at hsource₂
      exact hsource₂

end Steps

section Apart

variable {owner : Nat → Owner} {read : String → Option (Markup.Tree Unit)} {s : Studio} {n m : Nat} {o o' : Owner}

lemma owner_of_tree {f : Forest} (hu : Uniform owner f) (hn : owner n = o) {k : Nat} (hk : k ∈ (f.tree n).labels) :
    owner k = o := by
  rw [Forest.tree] at hk
  cases hs : f.find? n with
  | none =>
    rw [hs, Option.getD_none, Tree.labels, List.mem_singleton] at hk
    rw [hk, hn]
  | some u =>
    rw [hs, Option.getD_some] at hk
    rw [find?_eq] at hs
    obtain ⟨t, ht, hu'⟩ := List.exists_of_findSome?_eq_some hs
    have hsub := (Tree.sublist_of_find? hu').subset
    rw [hu t ht k (hsub hk), ← hu t ht n (Tree.label_of_find? hu' ▸ hsub u.label_mem), hn]

lemma disjoint_of_owner {f : Forest} (hu : Uniform owner f) (hn : owner n = o) (hm : owner m = o') (hne : o ≠ o') :
    (f.tree n).labels.Disjoint (f.tree m).labels :=
  fun _ hk hk' => hne ((owner_of_tree hu hn hk).symm.trans (owner_of_tree hu hm hk'))

lemma owner_root (h : Separate owner read s) {i : FragmentId} (hi : i < s.fragments.size) :
    owner (s.fragment i).copy.root = .fragment i :=
  (h.fragments i hi _ (List.mem_append_left _ List.mem_cons_self)).1

lemma owner_shelf (h : Separate owner read s) {name : String} {root : Node} (hr : s.shelf.get? name = some root) :
    owner root = .template name := by
  cases hread : read name with
  | none => cases (h.unread name hread).symm.trans hr
  | some t =>
    obtain ⟨root', hget, hown, _⟩ := h.shelved name t hread
    cases hget.symm.trans hr
    exact hown

lemma fragments_disjoint (h : Separate owner read s) {i j : FragmentId} (hi : i < s.fragments.size)
    (hj : j < s.fragments.size) (hne : i ≠ j) : (s.nodesOf i).Disjoint (s.nodesOf j) :=
  disjoint_of_owner h.uniform (owner_root h hi) (owner_root h hj) fun ho => hne (Owner.fragment.inj ho)

lemma templates_disjoint (h : Separate owner read s) {i : FragmentId} (hi : i < s.fragments.size) {name : String}
    {root : Node} (hr : s.shelf.get? name = some root) : (s.nodesOf i).Disjoint (s.forest.tree root).labels :=
  disjoint_of_owner h.uniform (owner_root h hi) (owner_shelf h hr) Owner.noConfusion

lemma shelf_disjoint (h : Separate owner read s) {name name' : String} {root root' : Node} (hne : name ≠ name')
    (hr : s.shelf.get? name = some root) (hr' : s.shelf.get? name' = some root') :
    (s.forest.tree root).labels.Disjoint (s.forest.tree root').labels :=
  disjoint_of_owner h.uniform (owner_shelf h hr) (owner_shelf h hr') fun ho => hne (Owner.template.inj ho)

end Apart

section Loading

variable {owner : Nat → Owner} {read : String → Option (Markup.Tree Unit)} {s : Studio} {name : String}
  {t : Markup.Tree Unit}

lemma loads_of_read (h : Separate owner read s) (ht : read name = some t) {root : Node}
    (hr : s.shelf.get? name = some root) : Loads s name t root := by
  obtain ⟨root', hget, _, u, hu, he⟩ := h.shelved name t ht
  cases hget.symm.trans hr
  refine ⟨Session.run_load_of_get hr, ?_⟩
  rw [Forest.tree, hu, Option.getD_some, he]

lemma loads_after (h : Separate owner read s) (ht : read name = some t) {root : Node}
    (hr : s.shelf.get? name = some root) (more : List Act) : Loads (after more s) name t root := by
  obtain ⟨owner', h', _, _, hshelf⟩ := run h more
  exact loads_of_read h' (by rw [ht]; rfl) (hshelf name root hr)

lemma load_of_refused (h : Separate owner read s) (hread : read name = none) {e : Fault}
    (he : s.source.readRoot name = .error e) : (Session.load name).run s = (.error e, s) := by
  refine Session.run_load_of_error (h.unread name hread) ?_
  cases hdoc : s.source.readDocument name with
  | error e' =>
    rw [Source.readRoot, hdoc] at he
    exact he
  | ok document => cases (Separate.readRoot_of_ok hdoc).symm.trans he

lemma load_of_unread (h : Separate owner read s) (hread : read name = none) (ht : s.source.readRoot name = .ok t) :
    ∃ root, (Session.load name).run s = (.ok root, after [.load name] s) ∧
      ∀ more, Loads (after (.load name :: more) s) name t root := by
  cases hdoc : s.source.readDocument name with
  | error e =>
    rw [Source.readRoot, hdoc] at ht
    cases ht
  | ok document =>
    have hload := Session.run_load_of_ok (h.unread name hread) hdoc
    have hafter : after [.load name] s = ((Session.load name).run s).2 := by
      rw [after, List.foldl_cons, List.foldl_nil, Act.run, run_discard]
    refine ⟨_, hload.trans (Prod.ext rfl (by rw [hafter, hload])), fun more => ?_⟩
    obtain ⟨owner', h', _⟩ := h.load name
    rw [← hafter] at h'
    refine loads_after h' ?_ ?_ more
    · rw [reread, if_pos rfl, hread, ht]
      rfl
    · rw [hafter, hload]
      exact Shelf.get?_cons_self _ _ _

end Loading

theorem templates_shared {s : Studio} (hs : s.Unused) (acts : List Act) : Shares s acts := by
  obtain ⟨owner, h, hsource, hmenus, _⟩ := run hs.separate acts
  have hread : ∀ name, (none <|> firstRead name acts s.source) = firstRead name acts s.source := fun _ => rfl
  simp only [hread] at h
  refine ⟨fun name t ht => ?_, fun name e hnone he => load_of_refused h hnone (hsource ▸ he), fun name t hnone ht => ?_,
    fun i hi j hj hne => fragments_disjoint h hi hj hne, fun i hi name root hr => templates_disjoint h hi hr,
    fun name name' root root' hne hr hr' => shelf_disjoint h hne hr hr', hmenus⟩
  · obtain ⟨root, hroot⟩ := h.get?_of_read ht
    exact ⟨root, fun more => after_append acts more s ▸ loads_after h ht hroot more⟩
  · obtain ⟨root, hload, hmore⟩ := load_of_unread h hnone (hsource ▸ ht)
    rw [← after_append] at hload
    exact ⟨root, hload, fun more => after_append acts (.load name :: more) s ▸ hmore more⟩

def workshop : Studio where
  source := ⟨.ofText "templates", Packaged.directory, "html.parser"⟩

def workshopActs : List Act :=
  [.newNavbar {} none, .write (.ofText "bootstrap4/navbar.html") ByteArray.empty, .render 0, .render 0,
    .newModal none none none none none, .addButton 1 {}, .newNavbar {} (some 0), .renderHtml 2 true]

theorem workshop_shares : workshop.Unused ∧ Shares workshop workshopActs := by
  have hunused : workshop.Unused := ⟨⟨List.nodup_nil, fun _ hn => absurd hn List.not_mem_nil⟩, rfl, rfl⟩
  exact ⟨hunused, templates_shared hunused workshopActs⟩

end PageStencil.Studio
