import Connector.Explained
import Connector.Transfer.Refusal

/-!
# Why a store refuses

What may keep a store from doing what it was asked.  `StoreFault.message` is the wording.
-/

namespace Connector

/-- Why a store did not do what it was asked. -/
inductive StoreFault where
  | notFound (id : String)
  | alreadyExists (id : String)
  /-- The record changed since it was claimed, or the lease is another's. -/
  | conflict (id : String)
  | rejected (refusal : Transfer.Refusal)
  | database (text : String)
  | unreadable (text : String)
  deriving DecidableEq, Repr

/-- The wording of a store's fault. -/
def StoreFault.message : StoreFault → String
  | notFound id => s!"Entity not found: {id}"
  | alreadyExists id => s!"Entity already exists: {id}"
  | conflict id => s!"Concurrent modification of {id}"
  | rejected refusal => "Signal rejected: " ++ refusal.message
  | database text => s!"Database error: {text}"
  | unreadable text => s!"Serialization error: {text}"

instance : Explained StoreFault where
  kind
    | .notFound _ => "NotFound"
    | .alreadyExists _ => "AlreadyExists"
    | .conflict _ => "Conflict"
    | .rejected _ => "Rejected"
    | .database _ => "Database"
    | .unreadable _ => "Serialization"
  message := StoreFault.message

end Connector
