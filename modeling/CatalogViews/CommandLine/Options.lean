import CatalogViews.Text.Blank

/-!
# Options

The words of a command line that start with a hyphen. An option has a long name after two hyphens
and perhaps a letter after one. Its value is the rest of its word, after an equals sign, or else the
next word. A next word that starts with a hyphen is no value, unless the hyphen is all of it.

`OptionForm` says what an option looks like, `scan` takes options off the front of a list of words,
and `Given` holds the options that were found.
-/

namespace CatalogViews.CommandLine

/-- What an option takes, and how often it may be given. -/
inductive OptionKind where
  /-- A value; the option is given at most once. -/
  | value
  /-- Values with commas between them; the option may be given again to add more. -/
  | list
  /-- Nothing; the option is given at most once. -/
  | flag
deriving Repr, DecidableEq

/-- What an option looks like. -/
structure OptionForm where
  name : String
  letter : Option Char := none
  kind : OptionKind := .value
deriving Repr, DecidableEq

/-- The options of a command line with their values, the first one first. The value of a flag is
empty. -/
abbrev Given := List (String × String)

namespace Given

def value? (given : Given) (name : String) : Option String :=
  List.lookup name given

def has (given : Given) (name : String) : Bool :=
  (value? given name).isSome

def values? (given : Given) (name : String) : Option (List String) :=
  if has given name then
    some ((given.filter (·.1 == name)).flatMap fun (_, value) =>
      (Text.pieces (· == ',') value.toList).map String.ofList)
  else none

/-- Adds an option, which must not be there already unless it takes a list. -/
def add (form : OptionForm) (value : String) (given : Given) : Option Given :=
  if form.kind ≠ .list ∧ has given form.name then none else some (given ++ [(form.name, value)])

end Given

/-- A word of a command line. -/
inductive Word where
  /-- A word that is no option. -/
  | plain
  /-- Two hyphens: no option comes after them. -/
  | endOfOptions
  /-- An option by its long name, perhaps with a value. -/
  | long (name : String) (value : Option String)
  /-- An option by its letter, perhaps with a value. -/
  | short (letter : Char) (value : Option String)
deriving Repr, DecidableEq

def Word.ofText (text : String) : Word :=
  match text.toList with
  | ['-', '-'] => .endOfOptions
  | '-' :: '-' :: option =>
    match Text.cut? '=' option with
    | some (name, value) => .long (String.ofList name) (some (String.ofList value))
    | none => .long (String.ofList option) none
  | '-' :: letter :: rest =>
    .short letter <| match rest with
      | [] => none
      | '=' :: value => some (String.ofList value)
      | value => some (String.ofList value)
  | _ => .plain

/-- The form of the option that a word is, with the value in the same word. -/
def Word.option? (forms : List OptionForm) : Word → Option (OptionForm × Option String)
  | .long name value => (forms.find? (·.name == name)).map (·, value)
  | .short letter value => (forms.find? (·.letter == some letter)).map (·, value)
  | _ => none

/-- Takes options off the front of a list of words. Fails on an option of another form, on an option
without its value or with one that it does not take, and on one that is given too often. -/
def scan (forms : List OptionForm) : List String → Given → Option (Given × List String)
  | [], given => some (given, [])
  | word :: words, given =>
    match Word.ofText word with
    | .plain | .endOfOptions => some (given, word :: words)
    | option => do
      let (form, value) ← option.option? forms
      match form.kind, value with
      | .flag, none => scan forms words (← given.add form "")
      | .flag, some _ => none
      | _, some value => scan forms words (← given.add form value)
      | _, none =>
        match words with
        | [] => none
        | value :: words =>
          if Word.ofText value = .plain then scan forms words (← given.add form value) else none

end CatalogViews.CommandLine
