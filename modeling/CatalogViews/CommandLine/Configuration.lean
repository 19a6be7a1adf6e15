import CatalogViews.Metadata.Configuration
import CatalogViews.Render.Format

/-!
# The configuration of the command line

A configuration document has a section for the output, one for the level of detail of the log and
one for the settings of the views. Each may be missing, and so may everything in it.
-/

namespace CatalogViews

/-- The configuration of the command line. -/
structure Configuration where
  format : String := "table"
  logLevel : String := "warn"
  settings : Settings := {}
deriving Repr, DecidableEq

namespace Configuration

open FieldReader

def formatReader : FieldReader String :=
  withDefault "format" ({} : Configuration).format Node.text?

/-- Reads the level of detail of the log. -/
def levelReader : FieldReader String :=
  withDefault "level" ({} : Configuration).logLevel Node.text?

def reader : FieldReader Configuration := do
  let format ← withDefault "display" ({} : Configuration).format (Node.record? formatReader)
  let logLevel ← withDefault "logging" ({} : Configuration).logLevel (Node.record? levelReader)
  let settings ← Settings.sectionReader
  return { format, logLevel, settings }

def ofToml (source : String) : Except ConfigurationError Configuration :=
  match (Toml.document? source).bind (Node.record? reader) with
  | some configuration =>
    configuration.settings.validate.map fun settings => { configuration with settings }
  | none => .error .malformed

def ofFile : FileContents → Except ConfigurationError Configuration
  | .ok source => ofToml source
  | .error cause => .error (.unreadable cause)

def outputFormat? (configuration : Configuration) : Option Render.OutputFormat :=
  Render.OutputFormat.ofName? configuration.format

end Configuration

end CatalogViews
