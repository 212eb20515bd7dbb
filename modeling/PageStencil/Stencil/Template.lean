import PageStencil.Fault
import PageStencil.Markup.Document
import PageStencil.Storage.Directory

/-!
Templates by name, from a directory. A template that has been read once is kept, and its file is not read again; a
template that could not be read is tried again the next time.
-/

namespace PageStencil.Stencil

open Markup

structure Source where
  location : Storage.Path
  directory : Storage.Directory
  parser : String
  deriving Inhabited

namespace Source

def pathOf (s : Source) (name : String) : String := (s.location.join (Storage.Path.ofText name)).text

def readDocument (s : Source) (name : String) : Except Fault (Markup.Tree Unit) := do
  let path := s.pathOf name
  match s.directory.read path (Storage.Path.ofText name) with
  | .error .missing => throw (.template path .missing)
  | .error .tooLong => throw (.nameTooLong path)
  | .ok content =>
    match Storage.decodeText content with
    | .error e => throw (.template path (.unreadable (.decoding e)))
    | .ok text =>
      match Dialect.ofName? s.parser with
      | none => throw (.template path (.unreadable (.parser s.parser)))
      | some d =>
        let document ← (Document.read d text.toList).mapError .rejected
        if document.fragmentRoot?.isNone then throw (.template path .rootless)
        return document

def readRoot (s : Source) (name : String) : Except Fault (Markup.Tree Unit) :=
  (s.readDocument name).map fun document => document.fragmentRoot?.getD document

end Source

structure Shelf where
  loaded : List (String × Node) := []
  deriving Inhabited

namespace Shelf

def get? (s : Shelf) (name : String) : Option Node := s.loaded.lookup name

/-- The root of a template, whose document is added to the forest the first time. -/
def load (shelf : Shelf) (source : Source) (f : Forest) (name : String) : Except Fault (Node × Shelf × Forest) :=
  match shelf.get? name with
  | some root => .ok (root, shelf, f)
  | none => do
    let document ← source.readDocument name
    let (top, f) := f.plant document
    let root := (((f.find? top).bind Markup.Tree.fragmentRoot?).map Markup.Tree.label).getD top
    return (root, ⟨(name, root) :: shelf.loaded⟩, f)

end Shelf

end PageStencil.Stencil
