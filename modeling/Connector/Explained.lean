/-!
# Explained failures

A failure is told by the name of its kind and a wording.
-/

namespace Connector

/-- Failures that can be told. -/
class Explained (α : Type) where
  /-- The name of the kind of failure. -/
  kind : α → String
  /-- The wording. -/
  message : α → String

end Connector
