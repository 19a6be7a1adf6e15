import CatalogViews.Document.File
import CatalogViews.Metadata.Basic
import CatalogViews.Toml.Document

/-!
# Settings from a file

The settings of the views can be given in a section of a configuration document; a setting that is
not given has its default. A page must have at least one byte, and this is looked at only when the
document as a whole can be read.
-/

namespace CatalogViews

/-- Why a configuration cannot be used. -/
inductive ConfigurationError where
  /-- The file cannot be read. -/
  | unreadable (cause : FileFailure)
  /-- The contents of the file are no configuration. -/
  | malformed
  | emptyPage
deriving Repr, DecidableEq

def ConfigurationError.message : ConfigurationError → String
  | unreadable cause => s!"Failed to read config file: {cause.message}"
  | malformed => "Failed to parse config file"
  | emptyPage => "Invalid config value: page_size must be greater than zero"

namespace Settings

open FieldReader

def reader : FieldReader Settings := do
  let searchEscape ← withDefault "search_escape" ({} : Settings).searchEscape Node.char?
  let pageSize ← withDefault "page_size" ({} : Settings).pageSize Node.word?
  return { searchEscape, pageSize }

/-- Reads the section of a configuration that holds the settings. -/
def sectionReader : FieldReader Settings :=
  withDefault "metadata" {} (Node.record? reader)

/-- Settings that can be used. -/
def validate (settings : Settings) : Except ConfigurationError Settings :=
  if settings.pageSize = 0 then .error .emptyPage else .ok settings

def ofToml (source : String) : Except ConfigurationError Settings :=
  match (Toml.document? source).bind (Node.record? sectionReader) with
  | some settings => settings.validate
  | none => .error .malformed

def ofFile : FileContents → Except ConfigurationError Settings
  | .ok source => ofToml source
  | .error cause => .error (.unreadable cause)

end Settings

end CatalogViews
