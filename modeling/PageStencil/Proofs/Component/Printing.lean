import PageStencil.Proofs.Component.Stages
import PageStencil.Proofs.Markup.Written
import PageStencil.Proofs.Stencil.Carriers
import PageStencil.Studio.Press

/-!
What is printed of a fragment. It is printed with the next identifiers of its kind, or it comes to a fault: then either
no identifier has been taken, or the counter has run into one that is too long. What else lies on the bench has no part
in it.
-/

namespace PageStencil

open Markup Stencil

inductive FragmentKind
  | bar
  | dialog
  deriving DecidableEq

namespace FragmentKind

def name : FragmentKind → String
  | bar => Navbar.kind
  | dialog => Modal.kind

def templateName : FragmentKind → String
  | bar => Navbar.templateName
  | dialog => Modal.templateName

def identifiers (t : Markup.Tree Unit) : FragmentKind → List String
  | bar => Navbar.identifiers t
  | dialog => Modal.identifiers t

def Shows (xml : Bool) (t : Markup.Tree Unit) : FragmentKind → Prop
  | bar => ∃ n parts value, Navbar.ShowsBar xml n parts value t
  | dialog => ∃ uid, Modal.ShowsDialog uid t

def packaged (xml : Bool) : FragmentKind → Markup.Tree Unit
  | bar => (Navbar.packaged xml).template
  | dialog => Modal.packaged xml

lemma name_injective {k l : FragmentKind} (h : k.name = l.name) : k = l := by
  cases k <;> cases l <;> first | rfl | exact absurd h (by decide)

lemma eq_packaged {k : FragmentKind} {s : Source} (hdir : s.directory = Packaged.directory) {t : Markup.Tree Unit}
    (h : s.readRoot k.templateName = .ok t) : t = k.packaged s.isXml := by
  cases k with
  | bar => exact Navbar.eq_packaged hdir h
  | dialog => exact Modal.eq_packaged hdir h

end FragmentKind

def Navbar.printing (n : Navbar Menu) (pretty : Bool) : Work String := do
  discard (Work.once n.render)
  Work.written pretty

def Modal.printing (m : Modal) (buttons : List Button) (pretty : Bool) : Work String := do
  buttons.forM fun b => discard (m.addButton b)
  discard (Work.once m.render)
  Work.written pretty

def ModalOrder.printing (o : ModalOrder) (pretty : Bool) : Work String := do
  let m ← Modal.make o.title o.text o.id o.cssClass
  m.printing o.buttons pretty

def Work.onCopy (w : Work String) (name kind : String) (t : Markup.Tree Unit) (f : Forest) (uids : Allocator) :
    Except Fault String × Allocator :=
  ((w.run (Bench.withCopy name kind t f uids)).1, (w.run (Bench.withCopy name kind t f uids)).2.uids)

def Stencil.Source.made (s : Source) (name : String) (k : FragmentKind) (f : Forest) (uids : Allocator)
    (w : Work String) : Except Fault String × Allocator :=
  match s.readRoot k.templateName with
  | .error e => (.error e, uids)
  | .ok t => w.onCopy name k.name t f uids

inductive Printed (k : FragmentKind) (xml pretty : Bool) (a : Allocator) : Except Fault String → Allocator → Prop
  | fails {f : Fault} : Printed k xml pretty a (.error f) a
  | overruns {f : Fault} {a' : Allocator} : a.Overrun a' → Printed k xml pretty a (.error f) a'
  | shows {t : Markup.Tree Unit} {n : Nat} : 0 < n → a.Short n → k.Shows xml t →
      k.identifiers t = Span.names k.name (some (a.value, n)) →
      Printed k xml pretty a (.ok (t.written pretty)) (a.skip n)

/-- Work on a copy that comes to the same wherever the copy stands. -/
structure Settled (k : FragmentKind) (xml pretty : Bool) (name : String) (a : Allocator) (w : Work String) : Prop where
  printed : Printed k xml pretty a (w.onCopy name k.name (k.packaged xml) {} a).1
    (w.onCopy name k.name (k.packaged xml) {} a).2
  same : ∀ f : Forest, f.Sound →
    w.onCopy name k.name (k.packaged xml) f a = w.onCopy name k.name (k.packaged xml) {} a

lemma sound_nil : ({} : Forest).Sound := ⟨List.nodup_nil, fun _ hn => absurd hn List.not_mem_nil⟩

section Copies

variable {k : FragmentKind} {xml pretty : Bool} {name kind : String} {a : Allocator} {b c : Bench} {w : Work String}

lemma Settled.of_forall {o : Except Fault String × Allocator} (ho : Printed k xml pretty a o.1 o.2)
    (h : ∀ f : Forest, f.Sound → w.onCopy name k.name (k.packaged xml) f a = o) : Settled k xml pretty name a w where
  printed := (h {} sound_nil).symm ▸ ho
  same f hf := (h f hf).trans (h {} sound_nil).symm

section Made

variable {s : Source} {e : Fault} {t : Markup.Tree Unit} {f : Forest}

lemma made_of_error (h : s.readRoot k.templateName = .error e) : s.made name k f a w = (.error e, a) := by
  unfold Source.made
  rw [h]

lemma made_of_ok (h : s.readRoot k.templateName = .ok t) : s.made name k f a w = w.onCopy name k.name t f a := by
  unfold Source.made
  rw [h]

lemma Settled.printed_made (hw : Settled k s.isXml pretty name a w) (hdir : s.directory = Packaged.directory) :
    Printed k s.isXml pretty a (s.made name k {} a w).1 (s.made name k {} a w).2 := by
  cases hread : s.readRoot k.templateName with
  | error e =>
    rw [made_of_error hread]
    exact .fails
  | ok t =>
    rw [made_of_ok hread, FragmentKind.eq_packaged hdir hread]
    exact hw.printed

lemma Settled.made_same (hw : Settled k s.isXml pretty name a w) (hdir : s.directory = Packaged.directory)
    (hf : f.Sound) : s.made name k f a w = s.made name k {} a w := by
  cases hread : s.readRoot k.templateName with
  | error e => rw [made_of_error hread, made_of_error hread]
  | ok t =>
    rw [made_of_ok hread, made_of_ok hread, FragmentKind.eq_packaged hdir hread]
    exact hw.same f hf

end Made

lemma run_printing {v : Work Node} {o : Except Fault Node} (h : v.run b = (o, c)) :
    (discard v >>= fun _ => Work.written pretty).run b =
      (o.map fun _ => (c.forest.tree c.copy.root).written pretty, c) := by
  rw [run_bind, run_discard, h]
  cases o <;> rfl

lemma onCopy_of_run {t : Markup.Tree Unit} {f : Forest} {o : Except Fault String}
    (h : w.run (Bench.withCopy name kind t f a) = (o, c)) : w.onCopy name kind t f a = (o, c.uids) := by
  rw [Work.onCopy, h]

lemma lacking_eq (b : Bench) {ns : List Node} (h : b.copy.targets.live b.forest "container" = ns) :
    Navbar.lacking b = if ns.length = 1 then ⟨"item", 0⟩ else ⟨"container", ns.length⟩ := by
  rw [Navbar.lacking, single_eq_answerOf, h]
  cases hanswer : answerOf "container" ns with
  | ok n => rw [answerOf_eq_ok_iff.mp hanswer, List.length_singleton, if_pos rfl]
  | error e =>
    obtain ⟨hone, rfl⟩ := answerOf_eq_error_iff.mp hanswer
    rw [if_neg hone]

lemma lacking_withCopy (t : Markup.Tree Unit) (f : Forest) :
    Navbar.lacking (Bench.withCopy name kind t f a) = Navbar.lacking (Bench.withCopy name kind t {} a) := by
  have hlength : ∀ f : Forest, ((Bench.withCopy name kind t f a).copy.targets.live
      (Bench.withCopy name kind t f a).forest "container").length =
        (t.tags.flatMap (markers name)).count "container" := by
    intro f
    have htags : (t.number f.next).tags = t.tags := by
      rw [← Markup.Tree.tags_erase, Markup.Tree.erase_number, Markup.Tree.erase_unit]
    have hmarkers : (markersOf name (t.number f.next)).map Prod.fst = t.tags.flatMap (markers name) := by
      rw [← htags, markersOf, List.map_flatMap, Markup.Tree.tags, List.flatMap_map]
      refine List.flatMap_congr fun e _ => ?_
      rw [List.map_map]
      exact List.map_id _
    rw [← hmarkers]
    have hfind : (Bench.withCopy name kind t f a).forest.find? f.next = some (t.number f.next) := find?_withCopy t
    exact length_live hfind name "container"
  rw [lacking_eq _ rfl, lacking_eq _ rfl, hlength, hlength]

end Copies

section Bars

variable {xml : Bool} {name : String} {a : Allocator}

lemma Navbar.onCopy_error {n : Navbar Menu} {pretty : Bool} {f : Forest} {e : Fault} {c : Bench}
    (h : (Work.once n.render).run (Bench.withCopy name kind (packaged xml).template f a) = (.error e, c)) :
    (n.printing pretty).onCopy name kind (packaged xml).template f a = (.error e, c.uids) :=
  onCopy_of_run (run_printing h)

theorem Navbar.settled (xml pretty : Bool) (name : String) (a : Allocator) (n : Navbar Menu) :
    Settled .bar xml pretty name a (n.printing pretty) := by
  cases hshown : n.shown with
  | error e =>
    exact .of_forall (o := (.error e, a)) .fails fun f _ => onCopy_error (run_once_refused rfl hshown)
  | ok parts =>
    by_cases hname : name = markerAttribute
    · subst hname
      by_cases hshort : a.Short (1 + dropdownsIn parts)
      · have hnames := (identifiers_stripped ((packaged xml).markup n.cssClass n.inContainer a.value parts)).trans
          (identifiers_markup xml n.cssClass n.inContainer a.value parts)
        have hshows : FragmentKind.bar.Shows xml
            (stripped ((packaged xml).markup n.cssClass n.inContainer a.value parts)) := by
          obtain rfl := shown_eq hshown
          exact ⟨n, n.menus, a.value, showsBar xml n n.menus a.value⟩
        refine .of_forall (o := (.ok _, _)) (.shows (Nat.add_pos_left Nat.one_pos _) hshort hshows hnames) fun f hf => ?_
        obtain ⟨c, t, hrun, huids, hcopy, ht, herase⟩ := run_once_render (new_withCopy xml hf a) hshown hshort
        have htree : c.forest.tree c.copy.root = t := by
          rw [hcopy]
          exact tree_of_find? ht
        refine (onCopy_of_run (run_printing hrun)).trans ?_
        rw [htree, huids, ← Markup.Tree.written_erase, herase]
        rfl
      · have hstops : ∀ f : Forest, f.Sound → ∃ a',
            (n.printing pretty).onCopy markerAttribute kind (packaged xml).template f a =
              (.error .identifierTooLong, a') ∧ a.StopsAt a' := by
          intro f hf
          obtain ⟨c, hrun, _, _, hstop⟩ := run_once_stops (new_withCopy xml hf a) hshown hshort
          exact ⟨c.uids, onCopy_error hrun, hstop⟩
        obtain ⟨a', _, hstop⟩ := hstops {} sound_nil
        refine .of_forall (o := (.error .identifierTooLong, a')) (.overruns hstop.overrun) fun f hf => ?_
        obtain ⟨a'', heq, hstop'⟩ := hstops f hf
        exact heq.trans (hstop.unique hstop' ▸ rfl)
    · refine .of_forall (o := (.error (.notFound (lacking (Bench.withCopy name kind (packaged xml).template {} a))), a))
        .fails fun f hf => ?_
      obtain ⟨c, hrun, _, huids, _⟩ := run_once_lacking rfl (lacks_item xml hname hf a)
      refine (onCopy_error (hrun n hshown)).trans ?_
      rw [huids, lacking_withCopy]
      rfl

end Bars

lemma Button.name_tag (b : Button) : b.tag.name = "button" := by
  have hset : ∀ (t : Tag) (name : String) (s : Option String), (t.setText? name s).name = t.name := by
    intro t name s
    cases s <;> rfl
  rw [tag, hset, hset, hset, Tag.name_addClasses]
  rfl

lemma Modal.identifiers_button (b : Button) : Modal.identifiers b.tree = [] := by
  have htag : Modal.identifierOf b.tag = none := by
    rw [identifierOf, b.name_tag]
    rfl
  rw [Button.tree, identifiers_element, htag]
  cases b.label <;> rfl

namespace ModalOrder

variable {xml pretty : Bool} {name : String} {a : Allocator} {o : ModalOrder} {f : Forest}

def markup (o : ModalOrder) (xml : Bool) (value : Int) : Markup.Tree Unit :=
  Navbar.stripped (Modal.markup xml (Modal.rootTag ⟨o.title, o.text, o.id, o.cssClass, 0, 0, 0⟩ (Modal.tags xml).root)
    (Modal.identifier value) o.title o.text (o.buttons.map Button.tree))

lemma showsDialog (o : ModalOrder) (xml : Bool) (value : Int) :
    Modal.ShowsDialog (Modal.identifier value) (o.markup xml value) :=
  Modal.showsDialog_markup (Modal.name_rootTag _ _) _ _ _ (List.forall_mem_map.mpr fun b _ => Modal.identifiers_button b)

lemma run_printing_new (o : ModalOrder) (xml pretty : Bool) (hf : f.Sound) (a : Allocator) :
    ∃ header body footer g,
      let b := Bench.withCopy markerAttribute Modal.kind (Modal.packaged xml) f a
      let m : Modal := ⟨o.title, o.text, o.id, o.cssClass, header, body, footer⟩
      (o.printing pretty).run b =
          (discard (Work.once m.render) >>= fun _ => Work.written pretty).run { b with forest := g } ∧
        Modal.Unrendered xml m (Modal.tags xml).root (o.buttons.map Button.tree) { b with forest := g } := by
  obtain ⟨header, body, footer, hmake, hnew⟩ := Modal.run_make_new xml hf a o.title o.text o.id o.cssClass
  obtain ⟨g, hadd, hfull⟩ := hnew.addButtons o.buttons
  refine ⟨header, body, footer, g, ?_, hfull⟩
  rw [printing, run_bind_ok hmake, Modal.printing, run_bind_ok hadd]

theorem settled (xml pretty : Bool) (name : String) (a : Allocator) (o : ModalOrder) :
    Settled .dialog xml pretty name a (o.printing pretty) := by
  by_cases hname : name = markerAttribute
  · subst hname
    by_cases hshort : a.Short 1
    · have hnames : Modal.identifiers (o.markup xml a.value) = Span.names Modal.kind (some (a.value, 1)) := by
        refine (o.showsDialog xml a.value).title.trans ?_
        simp [Span.names, Modal.identifier]
      refine .of_forall (o := (.ok _, _)) (.shows Nat.one_pos hshort ⟨_, o.showsDialog xml a.value⟩ hnames)
        fun f hf => ?_
      obtain ⟨_, _, _, g, hrun, hfull⟩ := o.run_printing_new xml pretty hf a
      obtain ⟨c, t, hok, huids, hcopy, ht, herase⟩ := hfull.run_once hshort
      have htree : c.forest.tree c.copy.root = t := by
        rw [hcopy]
        exact Navbar.tree_of_find? ht
      refine (onCopy_of_run (hrun.trans (run_printing hok))).trans ?_
      rw [htree, huids, ← Markup.Tree.written_erase, herase]
      rfl
    · refine .of_forall (o := (.error .identifierTooLong, a.skip 1)) (.overruns ⟨0, rfl, ?_⟩) fun f hf => ?_
      · rwa [Allocator.skip_zero]
      · obtain ⟨_, _, _, g, hrun, hfull⟩ := o.run_printing_new xml pretty hf a
        obtain ⟨c, hstop, huids, _⟩ := hfull.run_once_stops hshort
        exact (onCopy_of_run (hrun.trans (run_printing hstop))).trans (congrArg _ huids)
  · refine .of_forall (o := (.error (.notFound ⟨"header", 0⟩), a)) .fails fun f _ => ?_
    refine onCopy_of_run (c := Bench.withCopy name Modal.kind (Modal.packaged xml) f a) ?_
    exact run_bind_error (Modal.run_make_lacking xml hname f a o.title o.text o.id o.cssClass)

end ModalOrder

end PageStencil
