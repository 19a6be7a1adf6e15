import CatalogViews.CommandLine.Command
import CatalogViews.CommandLine.Configuration
import CatalogViews.Fixture.Script

/-!
# Runs

A run of the program: the words of a command line are a `Request`, the files that the request needs
are its `Sources`, and what is printed is computed from the two. Reading the files is left to the
caller. A failure is looked for first in the configuration, then in the fixture, then in the view.
-/

namespace CatalogViews.CommandLine

/-- What a command line asks for. -/
structure Request where
  fixture : String
  /-- The path of the configuration, if one is given. -/
  configuration : Option String
  format : Option Render.OutputFormat
  command : Command
deriving Repr, DecidableEq

namespace Request

/-- The options that stand before the name of the command. -/
def options : List OptionForm :=
  [{ name := "fixture", letter := some 'f' }, { name := "config", letter := some 'c' },
    { name := "format" }]

def format? (name : String) : Option Render.OutputFormat :=
  if name ∈ ["table", "json", "csv"] then Render.OutputFormat.ofName? name else none

/-- The request of a command line; none if it is malformed. A path is never empty. -/
def ofWords? (words : List String) : Option Request := do
  let (given, rest) ← scan options words []
  let name :: words := rest | none
  let command ← Command.ofWords? name words
  let fixture ← given.value? "fixture"
  let configuration := given.value? "config"
  guard (fixture ≠ "" ∧ configuration ≠ some "")
  let format ← match given.value? "format" with
    | none => some none
    | some name => (format? name).map some
  return { fixture, configuration, format, command }

end Request

/-- The files that a request needs. -/
structure Sources where
  /-- The path and the contents of the configuration, if there is one. -/
  configuration : Option (String × FileContents)
  fixture : FileContents

/-- Why a run failed. -/
inductive RunError where
  | configuration (path : String) (error : ConfigurationError)
  /-- The fixture cannot be read. -/
  | unreadableFixture (path : String) (cause : FileFailure)
  | fixture (error : FixtureError)
  | view (error : ViewError)
deriving Repr, DecidableEq

def RunError.message : RunError → String
  | configuration path (.unreadable cause) =>
    s!"Failed to read config file '{path}': {cause.message}"
  | configuration _ error => error.message
  | unreadableFixture path cause => s!"Failed to read fixture '{path}': {cause.message}"
  | fixture error => error.message
  | view error => error.message

/-- What is printed for a view. A grid is followed by the number of its rows. -/
def printed (format : Render.OutputFormat) (table : ResultTable) : String :=
  format.render table ++
    if format = .grid then s!"{table.rows.length} rows\n" else ""

namespace Request

def configured (sources : Sources) : Except RunError Configuration :=
  match sources.configuration with
  | none => .ok {}
  | some (path, contents) => (Configuration.ofFile contents).mapError (.configuration path)

/-- The catalog of a run, with everything in it in the order of the names. -/
def catalog (request : Request) (sources : Sources) : Except RunError Catalog :=
  match sources.fixture with
  | .error cause => .error (.unreadableFixture request.fixture cause)
  | .ok source => ((Fixture.buildToml source).map (·.inNameOrder)).mapError .fixture

/-- The format of the output. The command line counts more than the configuration. -/
def outputFormat (request : Request) (configuration : Configuration) : Render.OutputFormat :=
  (request.format <|> configuration.outputFormat?).getD .grid

/-- What a run prints. -/
def run (request : Request) (sources : Sources) : Except RunError String := do
  let configuration ← configured sources
  let catalog ← request.catalog sources
  let m := Metadata.ofCatalog catalog configuration.settings {}
  let table ← (request.command.view m).mapError .view
  return printed (request.outputFormat configuration) table

end Request

end CatalogViews.CommandLine
