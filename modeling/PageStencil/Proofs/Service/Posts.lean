import Mathlib.Tactic.Lemma
import PageStencil.Service.Routes

namespace PageStencil

namespace Form

lemma Checked.under_eq_accepted_iff {α : Type} {c : Checked α} {step : Step} {a : α} :
    c.under step = accepted a ↔ c = accepted a := by
  cases c <;> simp [under]

def given (fields : List (String × Json)) (name : String) (absent : Json) : Json := (fields.lookup name).getD absent

section Fields

variable {α : Type} {fields : List (String × Json)} {name : String} {absent : Json} {read : Json → Checked α} {a d : α}

lemma withDefault_given (hd : read absent = .accepted d) (h : read (given fields name absent) = .accepted a) :
    withDefault d fields name read = .accepted a := by
  rw [given] at h
  rw [withDefault]
  cases hv : fields.lookup name with
  | none =>
    rw [hv, Option.getD_none, hd] at h
    exact h
  | some v =>
    rw [hv, Option.getD_some] at h
    exact Checked.under_eq_accepted_iff.mpr h

lemma required_of_lookup {v : Json} (hv : fields.lookup name = some v) (h : read v = .accepted a) :
    required fields name read = .accepted a := by
  rw [required, hv]
  exact Checked.under_eq_accepted_iff.mpr h

lemma readOptionalText_ofOption (s : Option String) : readOptionalText (Json.ofOption .text s) = .accepted s := by
  cases s <;> rfl

lemma withDefault_text {s : Option String} (h : given fields name .null = Json.ofOption .text s) :
    withDefault none fields name readOptionalText = .accepted s :=
  withDefault_given rfl (h ▸ readOptionalText_ofOption s)

lemma withDefault_bool {b : Bool} (h : given fields name (.bool false) = .bool b) :
    withDefault false fields name (readBool []) = .accepted b :=
  withDefault_given rfl (by rw [h, readBool])

lemma readCharacters_nil (s : String) (read : String → Checked α) : readCharacters [] s read = read s := by
  rw [readCharacters, Text.surrogateRun?_nil]
  rfl

lemma readList_map {β : Type} {encode : β → Json} {decode : β → α} (h : ∀ b, read (encode b) = .accepted (decode b))
    (bs : List β) : readList read (.list (bs.map encode)) = .accepted (bs.map decode) := by
  rw [readList]
  generalize 0 = i
  induction bs generalizing i with
  | nil => rfl
  | cons b bs ih =>
    rw [List.map_cons, List.map_cons, enumerate, Checked.all, h, ih]
    rfl

end Fields

end Form

namespace Service

open Form

structure Request.Posts (r : Request) (route : Route) (fields : List (String × Json)) : Prop where
  verb : r.verb = "POST"
  path : Route.ofPath? r.path = some route
  form : r.content.form = .json
  content : Json.ofOctets r.content.octets = .ok ⟨.object fields, []⟩

structure Sendable (limit : Int) (outline : String) : Prop where
  short : (outline.length : Int) ≤ limit
  written : Text.isBlankText outline = false

structure OutlineFields (outline : String) (lenient : Bool) (fields : List (String × Json)) : Prop where
  outline : fields.lookup "outline" = some (.text outline)
  strict : given fields "strict_indentation" .null = if lenient then .bool false else .null

structure NavbarFields (outline : String) (lenient : Bool) (cssClass : Option String) (inContainer pretty : Bool)
    (fields : List (String × Json)) : Prop extends OutlineFields outline lenient fields where
  cssClass : given fields "css_class" .null = Json.ofOption .text cssClass
  inContainer : given fields "in_container" (.bool false) = .bool inContainer
  pretty : given fields "pretty" (.bool false) = .bool pretty

structure ModalFields (title text id cssClass : Option String) (labels : List String) (pretty : Bool)
    (fields : List (String × Json)) : Prop where
  title : given fields "title" .null = Json.ofOption .text title
  text : given fields "text" .null = Json.ofOption .text text
  id : given fields "id" .null = Json.ofOption .text id
  cssClass : given fields "css_class" .null = Json.ofOption .text cssClass
  buttons : given fields "buttons" (.list []) = .list (labels.map fun l => .object [("label", .text l)])
  pretty : given fields "pretty" (.bool false) = .bool pretty

def closingButton (label : String) : Button := Modal.footerButton (some label) (some Modal.defaultButtonClass) none true

variable {fields : List (String × Json)} {outline : String} {lenient pretty : Bool} {limit : Int} {r : Request}

lemma outlineForm_of_fields (h : OutlineFields outline lenient fields) (hs : Sendable limit outline) :
    outlineForm [] limit fields = .accepted ⟨outline, if lenient then some false else none⟩ := by
  have htext : required fields "outline" (readOutlineText [] limit) = .accepted outline := by
    refine required_of_lookup h.outline ?_
    simp only [readOutlineText, readText, readCharacters_nil, checkOutline, if_neg (Int.not_lt.mpr hs.short), hs.written,
      Bool.false_eq_true, if_false]
  have hstrict : withDefault none fields "strict_indentation" (readOptionalBool []) =
      .accepted (if lenient then some false else none) := by
    have hnone : readOptionalBool [] .null = .accepted none := rfl
    refine withDefault_given hnone ?_
    rw [h.strict]
    cases lenient <;> rfl
  rw [outlineForm, htext, hstrict]
  rfl

lemma navbarForm_of_fields {cssClass : Option String} {inContainer : Bool}
    (h : NavbarFields outline lenient cssClass inContainer pretty fields) (hs : Sendable limit outline) :
    navbarForm [] limit fields =
      .accepted ⟨⟨outline, if lenient then some false else none⟩, cssClass, inContainer, pretty⟩ := by
  rw [navbarForm, outlineForm_of_fields h.toOutlineFields hs, withDefault_text h.cssClass,
    withDefault_bool h.inContainer, withDefault_bool h.pretty]
  rfl

lemma modalForm_of_fields {title text id cssClass : Option String} {labels : List String}
    (h : ModalFields title text id cssClass labels pretty fields) : modalForm [] fields =
      .accepted ⟨⟨title, text, id, cssClass, labels.map closingButton⟩, pretty⟩ := by
  have hbuttons : withDefault [] fields "buttons" (readList (readObject (buttonForm []))) =
      .accepted (labels.map closingButton) := by
    have hnone : readList (readObject (buttonForm [])) (.list []) = .accepted [] := rfl
    refine withDefault_given hnone ?_
    have hbutton : ∀ l, readObject (buttonForm []) (.object [("label", .text l)]) = .accepted (closingButton l) :=
      fun _ => rfl
    rw [h.buttons]
    exact readList_map hbutton labels
  rw [modalForm, withDefault_text h.title, withDefault_text h.text, withDefault_text h.id, withDefault_text h.cssClass,
    hbuttons, withDefault_bool h.pretty]
  rfl

lemma readContent_of_posts {route : Route} (hr : r.Posts route fields) :
    readContent r.content = .ok (.accepted ⟨.object fields, []⟩) := by
  have hcontent : r.content.octets.isEmpty = false := by
    refine Bool.eq_false_iff.mpr fun hempty => ?_
    have hnone : r.content.octets = .empty := by
      rwa [ByteArray.isEmpty, beq_iff_eq, ByteArray.size_eq_zero_iff] at hempty
    have hread : (Json.ofOctets .empty).isOk = true := by rw [← hnone, hr.content]; rfl
    exact absurd hread (by decide +kernel)
  rw [readContent, hcontent, hr.form, hr.content]
  rfl

lemma withForm_of_fields {α : Type} {route : Route} {form : Text.StandIns → List (String × Json) → Checked α} {a : α}
    (hr : r.Posts route fields) (h : form [] fields = .accepted a) (p : Press)
    (go : Text.StandIns → α → Except Fault Response × Press) : withForm form p r.content go = go [] a := by
  rw [withForm, readContent_of_posts hr]
  simp only [readObject, h]
  rfl

section Answers

variable {p : Press}

lemma withMenu_eq (go : Menu → Except Fault Response × Press) :
    OutlineForm.withMenu ⟨outline, if lenient then some false else none⟩ p go =
      match Outline.parse (!lenient && p.settings.strict) outline with
      | .error f => (.ok (.badOutline f), p)
      | .ok m => go m := by
  cases lenient <;> rfl

lemma answer_menu (hr : r.Posts .menu fields) (h : OutlineFields outline lenient fields)
    (hs : Sendable p.settings.maxOutline outline) : answer p r =
      match Outline.parse (!lenient && p.settings.strict) outline with
      | .error f => (.ok (.badOutline f), p)
      | .ok m => (Response.menu m, p) := by
  rw [answer, hr.path]
  simp only [hr.verb, Route.verb, ne_eq, not_true_eq_false, if_false, answerMenu]
  rw [withForm_of_fields hr (outlineForm_of_fields h hs), withMenu_eq]

lemma answer_navbar {cssClass : Option String} {inContainer : Bool} (hr : r.Posts .navbar fields)
    (h : NavbarFields outline lenient cssClass inContainer pretty fields)
    (hs : Sendable p.settings.maxOutline outline) :
    answer p r =
      match Outline.parse (!lenient && p.settings.strict) outline with
      | .error f => (.ok (.badOutline f), p)
      | .ok m => htmlAnswer [] (p.navbar { menu := some m, cssClass, inContainer } pretty) := by
  rw [answer, hr.path]
  simp only [hr.verb, Route.verb, ne_eq, not_true_eq_false, if_false, answerNavbar]
  rw [withForm_of_fields hr (navbarForm_of_fields h hs), withMenu_eq]

lemma answer_modal {title text id cssClass : Option String} {labels : List String} (hr : r.Posts .modal fields)
    (h : ModalFields title text id cssClass labels pretty fields) :
    answer p r = htmlAnswer [] (p.modal ⟨title, text, id, cssClass, labels.map closingButton⟩ pretty) := by
  rw [answer, hr.path]
  simp only [hr.verb, Route.verb, ne_eq, not_true_eq_false, if_false, answerModal]
  rw [withForm_of_fields hr (modalForm_of_fields h)]

lemma htmlAnswer_ok {html : String} {o : Except Fault String × Press} (ho : o.1 = .ok html) :
    (htmlAnswer [] o).1 = .ok ⟨200, some (.object [("html", .text html)])⟩ := by
  rw [htmlAnswer, ho]
  change Response.html [] html = _
  rw [Response.html, Text.surrogateRun?_nil]

lemma htmlAnswer_error {f : Fault} {o : Except Fault String × Press} (ho : o.1 = .error f) :
    (htmlAnswer [] o).1 = .error f := by
  rw [htmlAnswer, ho]
  rfl

end Answers

end Service

end PageStencil
