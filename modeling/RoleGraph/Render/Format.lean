import RoleGraph.Location
import RoleGraph.Text.Case
import RoleGraph.Text.Quoted

/-!
# Output formats

The formats in which a graph is written, by name and by file extension. A format may be given by a
name that nothing is known about; it is refused only when a graph is to be written in it.
-/

namespace RoleGraph

/-- A known output format. -/
inductive Format where
  | dot
  | png
  | svg
  | pdf
  | json
  | yaml
  deriving DecidableEq, Repr

namespace Format

/-- The written name of a format. -/
def name : Format → Text
  | .dot => "dot"
  | .png => "png"
  | .svg => "svg"
  | .pdf => "pdf"
  | .json => "json"
  | .yaml => "yaml"

/-- All names of formats. -/
def names : List (Text × Format) :=
  [("dot", .dot), ("gv", .dot), ("png", .png), ("svg", .svg), ("pdf", .pdf), ("json", .json),
    ("yaml", .yaml), ("yml", .yaml)]

/-- The format with a given name, in any case and with or without a leading dot. -/
def ofName? (t : Text) : Option Format := names.lookup (Text.lower (Text.dropLeading "." t))

/-- The format that the extension of a path asks for; an unknown one asks for an image. -/
def ofPath (p : Text) : Format := (ofName? (Location.extension p)).getD .png

/-- Whether a format needs a layout of the graph. -/
def isImage : Format → Bool
  | .png | .svg | .pdf => true
  | _ => false

/-- The wording for a name that is no format. -/
def unsupportedMessage (t : Text) : Text := "unsupported format: " ++ Text.quote t

end Format

end RoleGraph
