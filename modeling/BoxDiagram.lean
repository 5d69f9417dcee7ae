import BoxDiagram.Box
import BoxDiagram.Command.Action
import BoxDiagram.Command.Arguments
import BoxDiagram.Command.Markup
import BoxDiagram.Command.Request
import BoxDiagram.Command.Run
import BoxDiagram.Command.SimpleConsole
import BoxDiagram.Command.Toolkit
import BoxDiagram.Connector
import BoxDiagram.Decimal.FloatValue
import BoxDiagram.Decimal.Reading
import BoxDiagram.Decimal.Rounding
import BoxDiagram.Decimal.Shortest
import BoxDiagram.Decimal.Style
import BoxDiagram.Document.Bracket
import BoxDiagram.Document.Relation
import BoxDiagram.Document.Row
import BoxDiagram.Document.Scope
import BoxDiagram.Document.Section
import BoxDiagram.Document.Written
import BoxDiagram.Drawing.Call
import BoxDiagram.Drawing.Render
import BoxDiagram.Excalidraw.Document
import BoxDiagram.Excalidraw.Element
import BoxDiagram.Excalidraw.Save
import BoxDiagram.Excalidraw.Scene
import BoxDiagram.Excalidraw.Share
import BoxDiagram.Files.Diagrams
import BoxDiagram.Files.Error
import BoxDiagram.Files.Path
import BoxDiagram.Files.Stream
import BoxDiagram.Files.Tree
import BoxDiagram.Font.Load
import BoxDiagram.Font.Locate
import BoxDiagram.Geometry
import BoxDiagram.Identifier.Sha1
import BoxDiagram.Identifier.Uuid
import BoxDiagram.Json.Basic
import BoxDiagram.Json.Printer
import BoxDiagram.Json.Reader
import BoxDiagram.Layout
import BoxDiagram.Lookup
import BoxDiagram.Lz.Compress
import BoxDiagram.Lz.Expand
import BoxDiagram.Lz.Token
import BoxDiagram.Main
import BoxDiagram.Measurer
import BoxDiagram.Proofs.Command.Actions
import BoxDiagram.Proofs.Command.Batch
import BoxDiagram.Proofs.Command.Consoles
import BoxDiagram.Proofs.Command.Render
import BoxDiagram.Proofs.Command.RenderAll
import BoxDiagram.Proofs.Command.Reports
import BoxDiagram.Proofs.Command.SimpleConsole
import BoxDiagram.Proofs.Command.Skipping
import BoxDiagram.Proofs.Command.Tags
import BoxDiagram.Proofs.Decimal.Arithmetic
import BoxDiagram.Proofs.Decimal.Bounds
import BoxDiagram.Proofs.Decimal.Characters
import BoxDiagram.Proofs.Decimal.Coordinates
import BoxDiagram.Proofs.Decimal.Doubles
import BoxDiagram.Proofs.Decimal.General
import BoxDiagram.Proofs.Decimal.Halves
import BoxDiagram.Proofs.Decimal.Literals
import BoxDiagram.Proofs.Decimal.Magnitudes
import BoxDiagram.Proofs.Decimal.Nearest
import BoxDiagram.Proofs.Decimal.Numerals
import BoxDiagram.Proofs.Decimal.Rounded
import BoxDiagram.Proofs.Decimal.SixDigits
import BoxDiagram.Proofs.Document.Brackets
import BoxDiagram.Proofs.Document.Declaring
import BoxDiagram.Proofs.Document.Described
import BoxDiagram.Proofs.Document.Edits
import BoxDiagram.Proofs.Document.Faults
import BoxDiagram.Proofs.Document.Labelled
import BoxDiagram.Proofs.Document.Labels
import BoxDiagram.Proofs.Document.Paths
import BoxDiagram.Proofs.Document.RelationLines
import BoxDiagram.Proofs.Document.Reordering
import BoxDiagram.Proofs.Document.RoundTrip
import BoxDiagram.Proofs.Document.RowLines
import BoxDiagram.Proofs.Document.Sections
import BoxDiagram.Proofs.Document.Splitting
import BoxDiagram.Proofs.Document.Trimming
import BoxDiagram.Proofs.Drawing.Attachment
import BoxDiagram.Proofs.Drawing.Calls
import BoxDiagram.Proofs.Drawing.Failures
import BoxDiagram.Proofs.Drawing.Finite
import BoxDiagram.Proofs.Drawing.Font
import BoxDiagram.Proofs.Drawing.Painting
import BoxDiagram.Proofs.Drawing.Renderable
import BoxDiagram.Proofs.Drawing.Rendering
import BoxDiagram.Proofs.Drawing.Texts
import BoxDiagram.Proofs.Excalidraw.Drawn
import BoxDiagram.Proofs.Excalidraw.Identifiers
import BoxDiagram.Proofs.Excalidraw.Lines
import BoxDiagram.Proofs.Excalidraw.Record
import BoxDiagram.Proofs.Excalidraw.Share
import BoxDiagram.Proofs.Files.Folders
import BoxDiagram.Proofs.Files.Saving
import BoxDiagram.Proofs.Json.Characters
import BoxDiagram.Proofs.Layout.Alignment
import BoxDiagram.Proofs.Layout.Boxes
import BoxDiagram.Proofs.Layout.Containment
import BoxDiagram.Proofs.Layout.Copies
import BoxDiagram.Proofs.Layout.Extents
import BoxDiagram.Proofs.Layout.Naming
import BoxDiagram.Proofs.Layout.Placing
import BoxDiagram.Proofs.Layout.Reordering
import BoxDiagram.Proofs.Layout.Rows
import BoxDiagram.Proofs.Layout.Scopes
import BoxDiagram.Proofs.Layout.Separation
import BoxDiagram.Proofs.Layout.Sketches
import BoxDiagram.Proofs.Layout.Sliding
import BoxDiagram.Proofs.Layout.Tidy
import BoxDiagram.Proofs.Lookup.Drawn
import BoxDiagram.Proofs.Lookup.Joints
import BoxDiagram.Proofs.Lookup.Priority
import BoxDiagram.Proofs.Lookup.Scoped
import BoxDiagram.Proofs.Lookup.Spelling
import BoxDiagram.Proofs.Lz.Bits
import BoxDiagram.Proofs.Lz.Phrases
import BoxDiagram.Proofs.Random
import BoxDiagram.Proofs.Results
import BoxDiagram.Proofs.Settings.Accepted
import BoxDiagram.Proofs.Settings.Reread
import BoxDiagram.Proofs.Svg.Elements
import BoxDiagram.Proofs.Svg.Readable
import BoxDiagram.Proofs.Svg.Writing
import BoxDiagram.Proofs.Text.Ends
import BoxDiagram.Proofs.Text.Pieces
import BoxDiagram.Proofs.Xml.Characters
import BoxDiagram.Proofs.Xml.Reading
import BoxDiagram.Proofs.Xml.References
import BoxDiagram.Proofs.Xml.Writing
import BoxDiagram.Random
import BoxDiagram.Scene
import BoxDiagram.Settings.Diagram
import BoxDiagram.Settings.Environment
import BoxDiagram.Settings.Load
import BoxDiagram.Settings.Overlay
import BoxDiagram.Settings.Reader
import BoxDiagram.Settings.Scalar
import BoxDiagram.Settings.Source
import BoxDiagram.Settings.Yaml
import BoxDiagram.Style
import BoxDiagram.Svg.Drawing
import BoxDiagram.Svg.Element
import BoxDiagram.Text.Basic
import BoxDiagram.Text.Case
import BoxDiagram.Text.Digit
import BoxDiagram.Text.Printable
import BoxDiagram.Text.Quoted
import BoxDiagram.Text.Utf8
import BoxDiagram.Text.Width
