import Connector.Json.Value

/-!
# Notes

What the connector writes down of its work: a level, a message, and values under names.
-/

namespace Connector

/-- How much a note matters. -/
inductive Level where
  | error
  | warn
  | info
  | debug
  deriving DecidableEq, Repr, Inhabited

/-- The word for a level. -/
def Level.word : Level → String
  | error => "ERROR"
  | warn => "WARN"
  | info => "INFO"
  | debug => "DEBUG"

/-- A note of the connector's work. -/
structure Note where
  level : Level
  message : String
  fields : List (String × String)
  deriving DecidableEq, Repr, Inhabited

namespace Note

/-- A note as a document. -/
def toJson (n : Note) : Json :=
  .arr [.str n.level.word, .str n.message, .object (n.fields.map fun f => (f.1, .str f.2))]

end Note
end Connector
