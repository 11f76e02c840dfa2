import Connector.Sql.Statement
import Connector.Store.Fault
import Connector.Text.Quoted

/-!
# Sessions

What is done at a database, statement after statement, each depending on what the ones before it
gave.  A session ends with a value or a fault; what it did since it began a transaction counts only
if it committed.  A session can be performed on a database, or rehearsed with replies lined up.
-/

namespace Connector.Sql

/-- What is done at a database. -/
inductive Session (α : Type) where
  | done (result : Except StoreFault α)
  | run (s : Statement) (params : List Value) (next : Reply → Session α)
  | begin (rest : Session α)
  | commit (rest : Session α)

namespace Session

variable {α β : Type}

/-- A session that goes on with the value of another; a fault ends it. -/
def bind (m : Session α) (f : α → Session β) : Session β :=
  match m with
  | done (.ok a) => f a
  | done (.error e) => done (.error e)
  | run s params next => run s params fun r => bind (next r) f
  | begin rest => begin (bind rest f)
  | commit rest => commit (bind rest f)

instance : Monad Session where
  pure a := done (.ok a)
  bind := bind

/-- A value, or a fault that ends the session. -/
def lift (r : Except StoreFault α) : Session α := done r

/-- What a statement gives. -/
def execute (s : Statement) (params : List Value) : Session Reply := run s params pure

/-- Begins a transaction. -/
def beginTransaction : Session Unit := begin (pure ())

/-- Commits a transaction. -/
def commitTransaction : Session Unit := commit (pure ())

/-- Performs a session; without a commit, what was there at the beginning of the transaction
is back. -/
def performSince (saved : Option Database) (d : Database) :
    Session α → Except StoreFault α × Database
  | done r => (r, saved.getD d)
  | run s params next =>
      let r := s.run d params
      performSince saved r.2 (next r.1)
  | begin rest => performSince (some d) d rest
  | commit rest => performSince none d rest

/-- What a session gives, and the database after it. -/
def perform (d : Database) (m : Session α) : Except StoreFault α × Database :=
  performSince none d m

/-- What goes to a database. -/
inductive Sent where
  | statement (s : Statement) (params : List Value)
  | begin
  | commit
  deriving Inhabited

/-- The next of the replies lined up, nothing when there are none left, and those after it. -/
def nextReply : List (Except String Reply) → Except String Reply × List (Except String Reply)
  | [] => (.ok ⟨[], 0⟩, [])
  | r :: rest => (r, rest)

/-- What a session sends and gives when the database replies as lined up; a text is a failure. -/
def rehearse (replies : List (Except String Reply)) :
    Session α → List Sent × Except StoreFault α
  | done r => ([], r)
  | run s params next =>
      match nextReply replies with
      | (.error text, _) =>
          ([.statement s params], .error (.database s!"error returned from database: {text}"))
      | (.ok reply, rest) =>
          let r := rehearse rest (next reply)
          (.statement s params :: r.1, r.2)
  | begin rest =>
      let r := rehearse replies rest
      (.begin :: r.1, r.2)
  | commit rest =>
      let r := rehearse replies rest
      (.commit :: r.1, r.2)

end Session

/-- What cannot be read of a column. -/
def unreadable (column reason : String) : StoreFault :=
  .database s!"error occurred while decoding column {column}: {reason}"

/-- The reason where a value is missing. -/
def missingValue : String := "unexpected null; try decoding as an `Option`"

/-- The reason where a value is of another type. -/
def otherType : String := "mismatched types"

namespace Row

/-- The document in a column. -/
def document (r : Row) (column : String) : Except StoreFault Json :=
  match r.value column with
  | .document j => .ok j
  | .null => .error (unreadable (Text.quoted column) missingValue)
  | _ => .error (unreadable (Text.quoted column) otherType)

/-- The text in a column, if there is one. -/
def text? (r : Row) (column : String) : Except StoreFault (Option String) :=
  match r.value column with
  | .text s => .ok (some s)
  | .null => .ok none
  | _ => .error (unreadable (Text.quoted column) otherType)

/-- The text in a column. -/
def text (r : Row) (column : String) : Except StoreFault String :=
  match r.value column with
  | .text s => .ok s
  | .null => .error (unreadable (Text.quoted column) missingValue)
  | _ => .error (unreadable (Text.quoted column) otherType)

/-- The instant in a column, if there is one. -/
def instant? (r : Row) (column : String) : Except StoreFault (Option Instant) :=
  match r.value column with
  | .instant t => .ok (some t)
  | .null => .ok none
  | _ => .error (unreadable (Text.quoted column) otherType)

/-- The number in a column; the text names the column in a fault. -/
def numberNamed (r : Row) (column shown : String) : Except StoreFault Int :=
  match r.value column with
  | .number n => .ok n
  | .null => .error (unreadable shown missingValue)
  | _ => .error (unreadable shown otherType)

/-- The number in a column. -/
def number (r : Row) (column : String) : Except StoreFault Int :=
  r.numberNamed column (Text.quoted column)

end Row
end Connector.Sql
