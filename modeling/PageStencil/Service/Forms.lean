import PageStencil.Form.Field
import PageStencil.Studio.Press

/-!
The forms of the service's requests. An outline must not be blank nor longer than the settings allow; fields that a
form does not know are passed over.
-/

namespace PageStencil.Service

open Form

structure OutlineForm where
  outline : String
  strict : Option Bool
  deriving DecidableEq, Repr

structure NavbarForm where
  source : OutlineForm
  cssClass : Option String
  inContainer : Bool
  pretty : Bool
  deriving DecidableEq, Repr

structure ModalForm where
  order : ModalOrder
  pretty : Bool
  deriving DecidableEq, Repr

def checkOutline (limit : Int) (s : String) : Checked String :=
  if limit < s.length then Checked.object (.tooLong limit) (.text s)
  else if Text.isBlankText s then Checked.object (.refused "outline cannot be empty") (.text s)
  else .accepted s

section Forms

variable (standIns : Text.StandIns)

def readOutlineText (limit : Int) (v : Json) : Checked String :=
  match readText v with
  | .refused os => .refused os
  | .accepted s => readCharacters standIns s (checkOutline limit)

def outlineForm (limit : Int) (fields : List (String × Json)) : Checked OutlineForm :=
  OutlineForm.mk <$> required fields "outline" (readOutlineText standIns limit) <*>
    withDefault none fields "strict_indentation" (readOptionalBool standIns)

def navbarForm (limit : Int) (fields : List (String × Json)) : Checked NavbarForm :=
  NavbarForm.mk <$> outlineForm standIns limit fields <*> withDefault none fields "css_class" readOptionalText <*>
    withDefault false fields "in_container" (readBool standIns) <*>
    withDefault false fields "pretty" (readBool standIns)

def buttonForm (fields : List (String × Json)) : Checked Button :=
  (fun label cssClass dismiss => Modal.footerButton (some label) cssClass none dismiss) <$>
    required fields "label" readText <*>
    withDefault (some Modal.defaultButtonClass) fields "css_class" readOptionalText <*>
    withDefault true fields "dismiss" (readBool standIns)

def modalForm (fields : List (String × Json)) : Checked ModalForm :=
  (fun title text id cssClass buttons pretty => ⟨⟨title, text, id, cssClass, buttons⟩, pretty⟩) <$>
    withDefault none fields "title" readOptionalText <*> withDefault none fields "text" readOptionalText <*>
    withDefault none fields "id" readOptionalText <*> withDefault none fields "css_class" readOptionalText <*>
    withDefault [] fields "buttons" (readList (readObject (buttonForm standIns))) <*>
    withDefault false fields "pretty" (readBool standIns)

end Forms

end PageStencil.Service
