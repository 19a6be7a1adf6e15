/-!
# Files

A file is known by its contents, or by the cause for which it cannot be read. The wording of a cause
ends with the number that the operating system has for it.
-/

namespace CatalogViews

/-- Why a file cannot be read. -/
inductive FileFailure where
  /-- Nothing lies at the path. -/
  | missing
  /-- A directory lies at the path. -/
  | directory
  /-- The path goes on behind a file. -/
  | behindFile
  | nameTooLong
  | forbidden
  /-- The contents are no text. -/
  | notText
  | other (reason : String)
deriving Repr, DecidableEq

/-- The wording of a cause. -/
def FileFailure.message : FileFailure → String
  | missing => "No such file or directory (os error 2)"
  | directory => "Is a directory (os error 21)"
  | behindFile => "Not a directory (os error 20)"
  | nameTooLong => "File name too long (os error 36)"
  | forbidden => "Permission denied (os error 13)"
  | notText => "stream did not contain valid UTF-8"
  | other reason => reason

/-- The contents of a file, or why they cannot be read. -/
abbrev FileContents := Except FileFailure String

end CatalogViews
