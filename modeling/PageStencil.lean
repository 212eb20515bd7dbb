import PageStencil.Command.Arguments
import PageStencil.Command.Line
import PageStencil.Command.Run
import PageStencil.Command.Survey
import PageStencil.Component.Bench
import PageStencil.Component.Button
import PageStencil.Component.Modal
import PageStencil.Component.Navbar
import PageStencil.Fault
import PageStencil.Form.Field
import PageStencil.Form.Objection
import PageStencil.Identifier
import PageStencil.Json.Octets
import PageStencil.Json.Print
import PageStencil.Json.Read
import PageStencil.Json.Shown
import PageStencil.Json.Value
import PageStencil.Logging
import PageStencil.Main
import PageStencil.Markup.Classes
import PageStencil.Markup.Document
import PageStencil.Markup.Encoding
import PageStencil.Markup.EntityNames
import PageStencil.Markup.Event
import PageStencil.Markup.Forest
import PageStencil.Markup.Fragment.Pieces
import PageStencil.Markup.Fragment.Report
import PageStencil.Markup.Fragment.StartTag
import PageStencil.Markup.Indented
import PageStencil.Markup.Page.Nesting
import PageStencil.Markup.Page.Pieces
import PageStencil.Markup.Page.Token
import PageStencil.Markup.Piece
import PageStencil.Markup.Reference
import PageStencil.Markup.Refusal
import PageStencil.Markup.Tag
import PageStencil.Markup.Tree
import PageStencil.Markup.Vocabulary
import PageStencil.Markup.Xml.Namespace
import PageStencil.Markup.Xml.Pieces
import PageStencil.Markup.Xml.Scanner
import PageStencil.Menu.Basic
import PageStencil.Menu.Graph
import PageStencil.Menu.Link
import PageStencil.Menu.LinkForm
import PageStencil.Menu.LinkMarkup
import PageStencil.Number.Double
import PageStencil.Number.Shortest
import PageStencil.Outline.Fault
import PageStencil.Outline.Growth
import PageStencil.Outline.Lexeme
import PageStencil.Outline.Margin
import PageStencil.Outline.Nesting
import PageStencil.Outline.Reading
import PageStencil.Outline.Records
import PageStencil.Proofs.Command.Agreement
import PageStencil.Proofs.Command.Survey
import PageStencil.Proofs.Command.Tally
import PageStencil.Proofs.Command.Words
import PageStencil.Proofs.Component.Boxing
import PageStencil.Proofs.Component.Confinement
import PageStencil.Proofs.Component.Editing
import PageStencil.Proofs.Component.Identifiers
import PageStencil.Proofs.Component.Made
import PageStencil.Proofs.Component.ModalEdited
import PageStencil.Proofs.Component.ModalFrame
import PageStencil.Proofs.Component.ModalRendering
import PageStencil.Proofs.Component.NavbarEntries
import PageStencil.Proofs.Component.NavbarMarkup
import PageStencil.Proofs.Component.NavbarRendering
import PageStencil.Proofs.Component.NavbarShown
import PageStencil.Proofs.Component.Packaged
import PageStencil.Proofs.Component.Printing
import PageStencil.Proofs.Component.Running
import PageStencil.Proofs.Component.Spans
import PageStencil.Proofs.Component.Stages
import PageStencil.Proofs.Component.Stopping
import PageStencil.Proofs.Component.TagStructure
import PageStencil.Proofs.Identifier
import PageStencil.Proofs.Json.Octets
import PageStencil.Proofs.Json.ReadBack
import PageStencil.Proofs.Json.Sameness
import PageStencil.Proofs.Logging
import PageStencil.Proofs.Markup.ClassEdits
import PageStencil.Proofs.Markup.Classes
import PageStencil.Proofs.Markup.Confined
import PageStencil.Proofs.Markup.Effect
import PageStencil.Proofs.Markup.ElementNames
import PageStencil.Proofs.Markup.Forest
import PageStencil.Proofs.Markup.Local
import PageStencil.Proofs.Markup.Merging
import PageStencil.Proofs.Markup.Openings
import PageStencil.Proofs.Markup.Place
import PageStencil.Proofs.Markup.Root
import PageStencil.Proofs.Markup.TagSequence
import PageStencil.Proofs.Markup.Touched
import PageStencil.Proofs.Markup.Written
import PageStencil.Proofs.Menu.Entries
import PageStencil.Proofs.Menu.Family
import PageStencil.Proofs.Menu.JsonForm
import PageStencil.Proofs.Menu.LinkMarkup
import PageStencil.Proofs.Menu.Paths
import PageStencil.Proofs.Menu.Planting
import PageStencil.Proofs.Menu.ReadBack
import PageStencil.Proofs.Menu.View
import PageStencil.Proofs.Outline.Conservation
import PageStencil.Proofs.Outline.Depths
import PageStencil.Proofs.Outline.Enclosure
import PageStencil.Proofs.Outline.Failing
import PageStencil.Proofs.Outline.Grammar
import PageStencil.Proofs.Outline.Grown
import PageStencil.Proofs.Outline.Growth
import PageStencil.Proofs.Outline.Indentation
import PageStencil.Proofs.Outline.Leniency
import PageStencil.Proofs.Outline.Nesting
import PageStencil.Proofs.Outline.Numbering
import PageStencil.Proofs.Outline.Placing
import PageStencil.Proofs.Outline.Regular
import PageStencil.Proofs.Outline.Rescaling
import PageStencil.Proofs.Outline.RoundTrip
import PageStencil.Proofs.Outline.Rows
import PageStencil.Proofs.Outline.Sheet
import PageStencil.Proofs.Outline.Siblings
import PageStencil.Proofs.Outline.Titles
import PageStencil.Proofs.Outline.Writing
import PageStencil.Proofs.Running
import PageStencil.Proofs.Service.Independence
import PageStencil.Proofs.Service.Posts
import PageStencil.Proofs.Service.Steps
import PageStencil.Proofs.Service.Tasks
import PageStencil.Proofs.Settings
import PageStencil.Proofs.Stencil.Carriers
import PageStencil.Proofs.Stencil.Lookup
import PageStencil.Proofs.Stencil.Packaged
import PageStencil.Proofs.Stencil.Removal
import PageStencil.Proofs.Studio.Bench
import PageStencil.Proofs.Studio.Counting
import PageStencil.Proofs.Studio.Making
import PageStencil.Proofs.Studio.Numbering
import PageStencil.Proofs.Studio.Outcomes
import PageStencil.Proofs.Studio.Printing
import PageStencil.Proofs.Studio.Separation
import PageStencil.Proofs.Studio.Sharing
import PageStencil.Proofs.Studio.Turns
import PageStencil.Proofs.Text.Encoding
import PageStencil.Proofs.Text.Joining
import PageStencil.Proofs.Text.LineEnds
import PageStencil.Proofs.Text.Trimming
import PageStencil.Proofs.Text.Words
import PageStencil.Service.Forms
import PageStencil.Service.Request
import PageStencil.Service.Response
import PageStencil.Service.Routes
import PageStencil.Service.Target
import PageStencil.Settings
import PageStencil.Stencil.Index
import PageStencil.Stencil.Marker
import PageStencil.Stencil.Packaged
import PageStencil.Stencil.Template
import PageStencil.Storage.Directory
import PageStencil.Storage.Path
import PageStencil.Studio.Basic
import PageStencil.Studio.Components
import PageStencil.Studio.Menus
import PageStencil.Studio.Press
import PageStencil.Text.Ascii
import PageStencil.Text.Blank
import PageStencil.Text.DecimalDigit
import PageStencil.Text.Integer
import PageStencil.Text.Line
import PageStencil.Text.LowerCase
import PageStencil.Text.Printable
import PageStencil.Text.Quoted
import PageStencil.Text.Surrogate
import PageStencil.Text.Units
import PageStencil.Text.UpperCase
import PageStencil.Text.Utf8
