import CatalogViews.Metadata.Error
import CatalogViews.Value.ResultTable

/-!
# Sessions

The part of a session that the metadata views see: whether it is closed, whether it runs statements
lazily, its help, and the way in which it answers statements. A session keeps a record of the
statements that it ran. Without an engine to answer them all statements fail.
-/

namespace CatalogViews

/-- A topic of the help, with the heading of the section it belongs to. -/
structure HelpTopic where
  heading : String
  topic : String
deriving Repr, DecidableEq

/-- A statement with the values bound to its parameters. -/
structure Statement where
  sql : String
  params : List Value
deriving Repr, DecidableEq

/-- The record of a statement that ran, with the lazy flag at that time. -/
structure Execution where
  statement : Statement
  lazy : Bool
deriving Repr, DecidableEq

structure Session where
  closed : Bool := false
  lazy : Bool := false
  help : List HelpTopic := []
  /-- What every statement answers, if there is an engine. -/
  answer : Option ResultTable := none
  /-- The error with which every statement fails for now. -/
  failure : Option String := none
  /-- The statements that ran, the first one first. -/
  log : List Execution := []
deriving Repr, DecidableEq

namespace Session

/-- The error of a statement when there is no engine. -/
def noEngine : String := "no query engine attached to this session"

/-- Records a statement and answers it. -/
def execute (session : Session) (statement : Statement) :
    Except String ResultTable × Session :=
  let outcome := match session.failure, session.answer with
    | some message, _ => .error message
    | none, some table => .ok table
    | none, none => .error noEngine
  (outcome, { session with log := session.log ++ [⟨statement, session.lazy⟩] })

/-- Runs a statement with lazy execution switched off, and switches it back afterwards. -/
def run (session : Session) (statement : Statement) : Except ViewError ResultTable × Session :=
  if session.closed then (.error .sessionClosed, session)
  else
    let (outcome, session') := { session with lazy := false }.execute statement
    (outcome.mapError .query, { session' with lazy := session.lazy })

end Session

end CatalogViews
