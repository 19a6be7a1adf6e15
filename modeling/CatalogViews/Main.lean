import CatalogViews.CommandLine.Run

/-!
# The program

Reads the files that a command line asks for, and prints what the run answers. A malformed command
line ends with status 2, a failed run with status 1.
-/

namespace CatalogViews.CommandLine

/-- The cause of a failure to read a file. A directory can be opened but not read, so its path is
not named in the failure. -/
def fileFailure : IO.Error → FileFailure
  | .noFileOrDirectory .. => .missing
  | .inappropriateType none .. => .directory
  | .inappropriateType .. => .behindFile
  | .invalidArgument .. => .nameTooLong
  | .permissionDenied .. => .forbidden
  | .userError _ => .notText
  | error => .other (toString error)

def readContents (path : String) : IO FileContents := do
  try
    return .ok (← IO.FS.readFile path)
  catch error => return .error (fileFailure error)

/-- The files that a request needs. Without a given configuration the one in the home directory is
used, if there is one. -/
def readSources (request : Request) : IO Sources := do
  let fixture ← readContents request.fixture
  match request.configuration, ← IO.getEnv "HOME" with
  | some path, _ => return { fixture, configuration := some (path, ← readContents path) }
  | none, none => return { fixture, configuration := none }
  | none, some home =>
    let path := home ++ "/.vibesql-meta.toml"
    match ← readContents path with
    | .error .missing => return { fixture, configuration := none }
    | contents => return { fixture, configuration := some (path, contents) }

/-- What is said about a malformed command line. -/
def usage : String :=
  "Usage: vibesql-meta --fixture FILE [--config FILE] [--format FORMAT] COMMAND [OPTIONS]"

def runProgram (words : List String) : IO UInt32 := do
  match Request.ofWords? words with
  | none =>
    IO.eprintln usage
    return 2
  | some request =>
    match request.run (← readSources request) with
    | .ok output =>
      IO.print output
      return 0
    | .error error =>
      IO.eprintln ("Error: " ++ error.message)
      return 1

end CatalogViews.CommandLine

/-- The entry point of the program. -/
def main (words : List String) : IO UInt32 :=
  CatalogViews.CommandLine.runProgram words
