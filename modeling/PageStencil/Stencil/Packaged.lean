import PageStencil.Storage.Directory

/-! The templates that come with the program: a navigation bar and a dialog. -/

namespace PageStencil.Stencil.Packaged

def modal : List String :=
  ["<div class=\"modal fade\" tabindex=\"-1\" role=\"dialog\" aria-hidden=\"true\">",
    "  <div class=\"modal-dialog\" role=\"document\">",
    "    <div class=\"modal-content\">",
    "      <div class=\"modal-header\" data-stencil=\"header\">",
    "        <h5 class=\"modal-title\" data-stencil=\"title\">Modal title</h5>",
    "        <button type=\"button\" class=\"close\" data-dismiss=\"modal\" aria-label=\"Close\">",
    "          <span aria-hidden=\"true\">&times;</span>",
    "        </button>",
    "      </div>",
    "      <div class=\"modal-body\" data-stencil=\"body\"></div>",
    "      <div class=\"modal-footer\" data-stencil=\"footer\"></div>",
    "    </div>",
    "  </div>",
    "</div>",
    ""]

def navbar : List String :=
  ["<nav class=\"navbar navbar-expand-lg\">",
    "  <div class=\"container\" data-stencil=\"positioning\">",
    "    <a class=\"navbar-brand\" href=\"#\" data-stencil=\"brand-link\">Brand</a>",
    "    <button class=\"navbar-toggler\" type=\"button\" data-toggle=\"collapse\" aria-expanded=\"false\" aria-label=\"Toggle navigation\" data-stencil=\"toggler\">",
    "      <span class=\"navbar-toggler-icon\"></span>",
    "    </button>",
    "    <div class=\"collapse navbar-collapse\" data-stencil=\"content\">",
    "      <ul class=\"navbar-nav mr-auto\" data-stencil=\"container\">",
    "        <li class=\"nav-item\" data-stencil=\"item\">",
    "          <a class=\"nav-link\" href=\"#\" data-stencil=\"item-link\">Link</a>",
    "        </li>",
    "        <li class=\"nav-item dropdown\" data-stencil=\"dropdown\">",
    "          <a class=\"nav-link dropdown-toggle\" href=\"#\" role=\"button\" data-toggle=\"dropdown\" aria-haspopup=\"true\" aria-expanded=\"false\" data-stencil=\"dropdown-text\">Dropdown</a>",
    "          <div class=\"dropdown-menu\" data-stencil=\"dropdown-container\">",
    "            <a class=\"dropdown-item\" href=\"#\" data-stencil=\"dropdown-item dropdown-link\">Action</a>",
    "          </div>",
    "        </li>",
    "      </ul>",
    "    </div>",
    "  </div>",
    "</nav>",
    ""]

def modalName : String := "bootstrap4/modal.html"
def navbarName : String := "bootstrap4/navbar.html"

def directory : Storage.Directory where
  files :=
    [((Storage.Path.ofText modalName).parts, ("\n".intercalate modal).toUTF8),
      ((Storage.Path.ofText navbarName).parts, ("\n".intercalate navbar).toUTF8)]

end PageStencil.Stencil.Packaged
