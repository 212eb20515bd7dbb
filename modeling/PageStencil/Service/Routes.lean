import PageStencil.Json.Octets
import PageStencil.Outline.Reading
import PageStencil.Service.Forms
import PageStencil.Service.Request
import PageStencil.Service.Response

/-!
The service: menus, navigation bars and dialogs on request, each request and each answer in JSON. What cannot be read
is answered with all objections to it, an outline that is not one with the line where it fails.
-/

namespace PageStencil.Service

open Form

inductive Route
  | health
  | documentation
  | menu
  | navbar
  | modal
  deriving DecidableEq, Repr

namespace Route

def places : List (String × Route) :=
  [("/openapi.json", documentation), ("/docs", documentation), ("/docs/oauth2-redirect", documentation),
    ("/redoc", documentation), ("/api/menu", menu), ("/api/navbar", navbar), ("/api/modal", modal), ("/health", health)]

def ofPath? (path : List Char) : Option Route :=
  let line := match path.reverse with
    | '\n' :: s => s.reverse
    | _ => path
  places.lookup (String.ofList line)

def verb : Route → String
  | health | documentation => "GET"
  | menu | navbar | modal => "POST"

end Route

def withoutSlashes (path : List Char) : List Char := (path.reverse.dropWhile (· == '/')).reverse

/-- The answer where no route has the path: one that would have it without the slashes at its end is pointed to. -/
def answerUnknown (path : List Char) : Response :=
  if path.getLast? = some '/' && path != ['/'] && (Route.ofPath? (withoutSlashes path)).isSome then .redirection
  else .notFound

/-- What a request has for content, which may have objections to it; or what the request comes to at once. Content that
is not sent as JSON counts as a text. -/
def readContent (c : Content) : Except (Except Fault Response) (Checked Json.Body) :=
  if c.octets.isEmpty then .ok (Checked.object .missing .null)
  else match c.form with
    | .octets =>
      match Text.Utf8.decode c.octets with
      | .ok s => .ok (.accepted ⟨.text s, []⟩)
      | .error f => .error (.error (.undecodable f))
    | .json =>
      match Json.ofOctets c.octets with
      | .ok b => .ok (.accepted b)
      | .error (.unexpected place) => .ok ((Checked.object .notJson (.object [])).under (.index place))
      | .error _ => .error (.ok .unreadable)

def withForm {α : Type} (form : Text.StandIns → List (String × Json) → Checked α) (p : Press) (c : Content)
    (go : Text.StandIns → α → Except Fault Response × Press) : Except Fault Response × Press :=
  match readContent c with
  | .error o => (o, p)
  | .ok (.refused os) => (Response.refusal [] (os.map (Objection.under (.field "body"))), p)
  | .ok (.accepted b) =>
    match (readObject (form b.standIns) b.value).under (.field "body") with
    | .refused os => (Response.refusal b.standIns os, p)
    | .accepted a => go b.standIns a

def htmlAnswer (standIns : Text.StandIns) : Except Fault String × Press → Except Fault Response × Press
  | (outcome, p) => (outcome.bind (Response.html standIns), p)

def OutlineForm.withMenu (o : OutlineForm) (p : Press) (go : Menu → Except Fault Response × Press) :
    Except Fault Response × Press :=
  match Outline.parse (o.strict.getD p.settings.strict) o.outline with
  | .error f => (.ok (.badOutline f), p)
  | .ok m => go m

def answerMenu (p : Press) (c : Content) : Except Fault Response × Press :=
  withForm (fun t => outlineForm t p.settings.maxOutline) p c fun _ o => o.withMenu p fun m => (Response.menu m, p)

def answerNavbar (p : Press) (c : Content) : Except Fault Response × Press :=
  withForm (fun t => navbarForm t p.settings.maxOutline) p c fun t n => n.source.withMenu p fun m =>
    htmlAnswer t (p.navbar { menu := some m, cssClass := n.cssClass, inContainer := n.inContainer } n.pretty)

def answerModal (p : Press) (c : Content) : Except Fault Response × Press :=
  withForm modalForm p c fun t m => htmlAnswer t (p.modal m.order m.pretty)

def withContent (r : Request) (a : Response) : Response := if r.verb = "HEAD" then ⟨a.status, none⟩ else a

def answer (p : Press) (r : Request) : Except Fault Response × Press :=
  match Route.ofPath? r.path with
  | none => (.ok (withContent r (answerUnknown r.path)), p)
  | some route =>
    if r.verb ≠ route.verb then (.ok (withContent r .notAllowed), p)
    else match route with
      | .health => (.ok .healthy, p)
      | .documentation => (.ok ⟨200, none⟩, p)
      | .menu => answerMenu p r.content
      | .navbar => answerNavbar p r.content
      | .modal => answerModal p r.content

end PageStencil.Service
