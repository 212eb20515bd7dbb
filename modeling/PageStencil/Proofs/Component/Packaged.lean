import PageStencil.Component.Modal
import PageStencil.Proofs.Component.NavbarMarkup
import PageStencil.Proofs.Stencil.Packaged

/-!
The packaged templates as trees. Where they are read as XML, their classes are texts and not lists.
-/

namespace PageStencil

open Markup Stencil

def packagedTag (xml : Bool) (name : String) (front : List (String × String)) (classes : List String)
    (back : List (String × String)) : Tag where
  name := name
  attributes := front.map (fun a => (a.1, .text a.2)) ++
    ("class", if xml then .text (" ".intercalate classes) else .tokens classes) :: back.map fun a => (a.1, .text a.2)
  isXml := xml

namespace Navbar

def packaged (xml : Bool) : Tags where
  nav := packagedTag xml "nav" [] ["navbar", "navbar-expand-lg"] []
  positioning := packagedTag xml "div" [] ["container"] [("data-stencil", "positioning")]
  brand := packagedTag xml "a" [] ["navbar-brand"] [("href", "#"), ("data-stencil", "brand-link")]
  toggler := packagedTag xml "button" [] ["navbar-toggler"] [("type", "button"), ("data-toggle", "collapse"),
    ("aria-expanded", "false"), ("aria-label", "Toggle navigation"), ("data-stencil", "toggler")]
  icon := packagedTag xml "span" [] ["navbar-toggler-icon"] []
  content := packagedTag xml "div" [] ["collapse", "navbar-collapse"] [("data-stencil", "content")]
  container := packagedTag xml "ul" [] ["navbar-nav", "mr-auto"] [("data-stencil", "container")]
  item := packagedTag xml "li" [] ["nav-item"] [("data-stencil", "item")]
  itemLink := packagedTag xml "a" [] ["nav-link"] [("href", "#"), ("data-stencil", "item-link")]
  dropdown := packagedTag xml "li" [] ["nav-item", "dropdown"] [("data-stencil", "dropdown")]
  dropdownText := packagedTag xml "a" [] ["nav-link", "dropdown-toggle"] [("href", "#"), ("role", "button"),
    ("data-toggle", "dropdown"), ("aria-haspopup", "true"), ("aria-expanded", "false"),
    ("data-stencil", "dropdown-text")]
  dropdownMenu := packagedTag xml "div" [] ["dropdown-menu"] [("data-stencil", "dropdown-container")]
  dropdownItem := packagedTag xml "a" [] ["dropdown-item"] [("href", "#"),
    ("data-stencil", "dropdown-item dropdown-link")]

lemma marked_packaged (xml : Bool) : (packaged xml).Marked markerAttribute := by
  cases xml <;> constructor <;> decide +kernel

lemma read_navbar_text (d : Dialect) : (Document.read d (['\n'].intercalate Packaged.navbarLines.1)).toOption =
    some (Document.around (packaged (d == .xml)).template d) := by
  cases d <;> decide +kernel

theorem read_packaged {s : Source} (hdir : s.directory = Packaged.directory)
    (hpath : (s.pathOf templateName).utf8ByteSize < Storage.Path.textLimit) {d : Dialect}
    (hparser : Dialect.ofName? s.parser = some d) :
    s.readDocument templateName = .ok (Document.around (packaged (d == .xml)).template d) ∧
      s.readRoot templateName = .ok (packaged (d == .xml)).template := by
  refine Packaged.readDocument_of_lines hdir (hdir ▸ Packaged.read_navbar hpath) Packaged.navbarLines.2 (by decide +kernel)
    hparser (read_navbar_text d) (show "nav" ≠ "body" by decide) ?_
  simp [Markup.Tree.descendantIn?, packaged, packagedTag, Tags.togglerTree, Tags.containerMould, Tags.itemMould,
    Tags.itemWith, Tags.dropdownMould, Tags.dropdownItemMould, gap, words]

end Navbar

namespace Modal

structure Tags where
  root : Tag
  dialog : Tag
  content : Tag
  header : Tag
  title : Tag
  close : Tag
  sign : Tag
  body : Tag
  footer : Tag

structure Tags.Marked (T : Tags) (name : String) : Prop where
  root : markers name T.root = []
  dialog : markers name T.dialog = []
  content : markers name T.content = []
  header : markers name T.header = ["header"]
  title : markers name T.title = ["title"]
  close : markers name T.close = []
  sign : markers name T.sign = []
  body : markers name T.body = ["body"]
  footer : markers name T.footer = ["footer"]

def tags (xml : Bool) : Tags where
  root := packagedTag xml "div" [] ["modal", "fade"] [("tabindex", "-1"), ("role", "dialog"), ("aria-hidden", "true")]
  dialog := packagedTag xml "div" [] ["modal-dialog"] [("role", "document")]
  content := packagedTag xml "div" [] ["modal-content"] []
  header := packagedTag xml "div" [] ["modal-header"] [("data-stencil", "header")]
  title := packagedTag xml "h5" [] ["modal-title"] [("data-stencil", "title")]
  close := packagedTag xml "button" [("type", "button")] ["close"] [("data-dismiss", "modal"), ("aria-label", "Close")]
  sign := ⟨"span", [("aria-hidden", .text "true")], "", xml⟩
  body := packagedTag xml "div" [] ["modal-body"] [("data-stencil", "body")]
  footer := packagedTag xml "div" [] ["modal-footer"] [("data-stencil", "footer")]

lemma marked_tags (xml : Bool) : (tags xml).Marked markerAttribute := by
  cases xml <;> constructor <;> decide +kernel

/-- The root of the packaged dialog. The sign on its button is left out where it is no entity of the dialect. -/
def packaged (xml : Bool) : Markup.Tree Unit :=
  .element () (tags xml).root [Navbar.gap,
    .element () (tags xml).dialog [Navbar.gap,
      .element () (tags xml).content [Navbar.gap,
        .element () (tags xml).header [Navbar.gap,
          .element () (tags xml).title [Navbar.words "Modal title"], Navbar.gap,
          .element () (tags xml).close [Navbar.gap,
            .element () (tags xml).sign (if xml then [] else [Navbar.words "×"]), Navbar.gap], Navbar.gap], Navbar.gap,
        .element () (tags xml).body [], Navbar.gap,
        .element () (tags xml).footer [], Navbar.gap],
      Navbar.gap], Navbar.gap]

lemma read_modal_text (d : Dialect) : (Document.read d (['\n'].intercalate Packaged.modalLines.1)).toOption =
    some (Document.around (packaged (d == .xml)) d) := by
  cases d <;> decide +kernel

theorem read_packaged {s : Source} (hdir : s.directory = Packaged.directory)
    (hpath : (s.pathOf templateName).utf8ByteSize < Storage.Path.textLimit) {d : Dialect}
    (hparser : Dialect.ofName? s.parser = some d) :
    s.readDocument templateName = .ok (Document.around (packaged (d == .xml)) d) ∧
      s.readRoot templateName = .ok (packaged (d == .xml)) := by
  refine Packaged.readDocument_of_lines hdir (hdir ▸ Packaged.read_modal hpath) Packaged.modalLines.2
    (by decide +kernel) hparser (read_modal_text d) (show "div" ≠ "body" by decide) ?_
  cases d <;> simp [Markup.Tree.descendantIn?, tags, packagedTag, Navbar.gap, Navbar.words]

end Modal

section Loaded

variable {s : Source} {t : Markup.Tree Unit}

lemma isXml_eq {d : Dialect} (h : Dialect.ofName? s.parser = some d) : s.isXml = (d == .xml) := by
  rw [Source.isXml, h]
  cases d <;> rfl

lemma Navbar.eq_packaged (hdir : s.directory = Packaged.directory) (h : s.readRoot templateName = .ok t) :
    t = (packaged s.isXml).template := by
  obtain ⟨hpath, d, hd⟩ := Source.known_of_readRoot h
  rw [(read_packaged hdir hpath hd).2] at h
  rw [isXml_eq hd]
  exact (Except.ok.inj h).symm

lemma Modal.eq_packaged (hdir : s.directory = Packaged.directory) (h : s.readRoot templateName = .ok t) :
    t = packaged s.isXml := by
  obtain ⟨hpath, d, hd⟩ := Source.known_of_readRoot h
  rw [(read_packaged hdir hpath hd).2] at h
  rw [isXml_eq hd]
  exact (Except.ok.inj h).symm

end Loaded

end PageStencil
