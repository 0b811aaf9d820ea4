import RoleGraph.Log
import RoleGraph.Render.Document
import RoleGraph.Render.Dot
import RoleGraph.Render.Format
import RoleGraph.Site

/-!
# Writing graphs to files

A graph is written in a format that is given by name or follows from the destination. Images need a
layout engine, which this library does not have; the formats that are texts are written here.
-/

namespace RoleGraph

namespace Render

/-- The text of a graph in a format; an image has none. -/
def text? (f : Format) (g : Graph) : Option Text :=
  match f with
  | .dot => some (Dot.render g)
  | .json => some (Document.json g)
  | .yaml => some (Document.yaml g)
  | .png | .svg | .pdf => none

end Render

/-- Where and in which format a graph is written. The format is kept as it was named. -/
structure Exporter where
  format : Text
  destination : Text

namespace Exporter

/-- An exporter; without a format name the destination decides. -/
def ofNames (format destination : Text) : Exporter :=
  ⟨if format.isEmpty then (Format.ofPath destination).name else format, destination⟩

/-- Why a graph was not written. -/
inductive Failure where
  /-- The name is no format. -/
  | unsupported (name : Text)
  /-- The format needs a layout engine. -/
  | noEngine (format : Format)
  /-- The destination cannot be written. -/
  | storage (destination : Text) (cause : StorageError)
  deriving DecidableEq, Repr

/-- The wording of a graph that was not written. -/
def Failure.message : Failure → Text
  | .unsupported name => Format.unsupportedMessage name
  | .noEngine f => "failed to render " ++ f.name ++ ": no layout engine"
  | .storage d e => "failed to write " ++ d ++ ": " ++ e.message

/-- The record that announces the output. -/
def announcement (e : Exporter) : Log.Record :=
  ⟨.info, "writing graph output", [("format", .text e.format), ("path", .text e.destination)]⟩

/-- Write a graph. -/
def run (e : Exporter) (s : Site) (g : Graph) : Except Failure Site :=
  match Format.ofName? e.format with
  | none => .error (.unsupported e.format)
  | some f =>
    match Render.text? f g with
    | none => .error (.noEngine f)
    | some content =>
      match s.save e.destination content with
      | .ok s => .ok s
      | .error cause => .error (.storage e.destination cause)

end Exporter

end RoleGraph
