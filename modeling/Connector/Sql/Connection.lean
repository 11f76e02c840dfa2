import Connector.Explained
import Connector.Url.Parser

/-!
# Connections

A database is named by an address.  There is no connection if the text is no address, or if its
server is out of reach; the reason is the system's.
-/

namespace Connector.Sql

/-- Why there is no connection. -/
inductive ConnectFault where
  /-- The text is no address. -/
  | malformed (fault : Url.Fault)
  /-- The server cannot be reached, for a reason of the system. -/
  | unreachable (reason : String)
  deriving DecidableEq, Repr

/-- The wording of a fault, and behind it that of its cause. -/
def ConnectFault.causes : ConnectFault → List String
  | malformed fault => ["error with configuration: " ++ fault.message, fault.message]
  | unreachable reason => ["error communicating with database: " ++ reason, reason]

instance : Explained ConnectFault where
  kind _ := "config"
  message e := ": ".intercalate e.causes

/-- The system's reason on a machine without a network. -/
def noNetwork : String := "Network is unreachable (os error 101)"

/-- Why a machine that reaches no server has no connection to a database. -/
def connectFault (reason database : String) : ConnectFault :=
  match Url.parse database with
  | .error e => .malformed e
  | .ok _ => .unreachable reason

end Connector.Sql
