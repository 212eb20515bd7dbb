import PageStencil.Form.Field
import PageStencil.Menu.Link

/-! Links from JSON objects: texts or nulls under the known names, and no other names. -/

namespace PageStencil.Link

def fieldNames : List String := ({} : Link).fields.map (·.1)

def ofFields (fields : List (String × Json)) : Form.Checked Link :=
  let text := fun name => Form.withDefault none fields name Form.readOptionalText
  let link := Link.mk <$> text "text" <*> text "href" <*> text "icon" <*> text "css_class" <*> text "id" <*>
    text "rel" <*> text "target"
  (fun l _ => l) <$> link <*> Form.onlyKnown fieldNames fields

end PageStencil.Link
