import Connector.Sql.Expression

/-!
# Statements

A statement as text, and what it does to a database: the rows it gives, and how many rows it
touched.  Rows have their identity in the column `id`.  A statement runs as a whole; who else is at
the database does not show.
-/

namespace Connector.Sql

/-- The columns that put rows in order, the first one first. -/
abbrev RowOrder := List String

/-- Rows that are looked for. -/
structure Selection where
  columns : List String
  table : String
  condition : Option Condition
  order : RowOrder
  limit : Option Expression
  /-- How the rows are locked. -/
  lock : String
  deriving Inhabited

/-- Which rows a change is about. -/
inductive Target where
  | rows (c : Condition)
  /-- The rows whose identity is selected. -/
  | selected (s : Selection)
  deriving Inhabited

/-- What happens to a row whose identity is there already. -/
inductive Collision where
  /-- The old row stays. -/
  | keep
  /-- The old row takes over some columns. -/
  | replace (columns : List String)
  deriving Inhabited

/-- A statement. -/
inductive Statement where
  /-- Makes a table or an index ready. -/
  | define (text : String)
  | insert (roomy : Bool) (table : String) (values : List (String × Expression)) (c : Collision)
  | select (s : Selection)
  | update (table : String) (sets : List (String × Expression)) (target : Target)
      (returning : List String)
  | delete (table : String) (c : Condition)
  /-- The number of rows under each value of a column. -/
  | tally (column table : String)
  deriving Inhabited

/-- Texts behind commas. -/
def commas (texts : List String) : String := ", ".intercalate texts

/-- The text of changes to columns. -/
def setsText (sets : List (String × Expression)) : String :=
  commas (sets.map fun s => s.1 ++ " = " ++ s.2.text)

/-- The text of a selection. -/
def Selection.text (s : Selection) : String :=
  "SELECT " ++ commas s.columns ++ " FROM " ++ s.table
    ++ (match s.condition with
      | some c => " WHERE " ++ c.text
      | none => "")
    ++ (if s.order.isEmpty then "" else " ORDER BY " ++ commas s.order)
    ++ (match s.limit with
      | some e => " LIMIT " ++ e.text
      | none => "")
    ++ s.lock

/-- The text of a target. -/
def Target.text : Target → String
  | rows c => c.text
  | selected s => "id IN " ++ bracketed true s.text

/-- The text of a collision. -/
def Collision.text : Collision → String
  | keep => "DO NOTHING"
  | replace columns =>
      "DO UPDATE SET " ++ setsText (columns.map fun c => (c, .excluded c))

/-- The text of a statement. -/
def Statement.text : Statement → String
  | define text => text
  | insert roomy table values c =>
      "INSERT INTO " ++ table ++ " " ++ bracketed roomy (commas (values.map (·.1))) ++ " VALUES "
        ++ bracketed false (commas (values.map fun v => v.2.text)) ++ " ON CONFLICT (id) " ++ c.text
  | select s => s.text
  | update table sets target returning =>
      "UPDATE " ++ table ++ " SET " ++ setsText sets ++ " WHERE " ++ target.text
        ++ (if returning.isEmpty then "" else " RETURNING " ++ commas returning)
  | delete table c => "DELETE FROM " ++ table ++ " WHERE " ++ c.text
  | tally column table =>
      "SELECT " ++ column ++ ", COUNT(*) AS total FROM " ++ table ++ " GROUP BY " ++ column

/-- The rows of each table. -/
abbrev Database := Table (List Row)

/-- The rows of a table. -/
def Database.rows (d : Database) (table : String) : List Row := (Table.get? table d).getD []

/-- What a statement gives. -/
structure Reply where
  rows : List Row
  affected : Nat
  deriving Inhabited

/-- The identity of a row. -/
def identity (r : Row) : Value := r.value "id"

/-- Whether two rows have one identity. -/
def sameIdentity (a b : Row) : Bool := (identity a).equal (identity b) == some true

/-- The order of rows by some columns. -/
def rowOrder : RowOrder → Row → Row → Ordering
  | [], _, _ => .eq
  | c :: rest, a, b =>
      ((Value.order (a.value c) (b.value c)).getD .eq).then (rowOrder rest a b)

/-- A row with some columns changed, all of them computed of the row before. -/
def changed (s : Scope) (sets : List (String × Expression)) : Row :=
  sets.foldl (fun r c => Table.put c.1 (s.eval c.2) r) s.row

/-- Some columns of a row. -/
def projected (columns : List String) (r : Row) : Row :=
  Table.ofEntries (columns.map fun c => (c, r.value c))

/-- The first rows, as many as a value says. -/
def limited (limit : Value) (rows : List Row) : List Row :=
  match limit with
  | .number n => rows.take n.toNat
  | _ => rows

namespace Selection

/-- The rows that are looked for, whole. -/
def found (s : Selection) (d : Database) (params : List Value) : List Row :=
  let fitting := (d.rows s.table).filter fun r =>
    s.condition.all fun c => c.holds ⟨r, params, []⟩
  let sorted := fitting.mergeSort fun a b => (rowOrder s.order a b).isLE
  match s.limit with
  | some e => limited ((Scope.mk [] params []).eval e) sorted
  | none => sorted

end Selection

/-- Whether a change is about a row. -/
def Target.covers (t : Target) (d : Database) (params : List Value) (r : Row) : Bool :=
  match t with
  | rows c => c.holds ⟨r, params, []⟩
  | selected s => (s.found d params).any (sameIdentity r)

namespace Statement

/-- What an insertion does. -/
def runInsert (d : Database) (params : List Value) (table : String)
    (values : List (String × Expression)) (c : Collision) : Reply × Database :=
  let scope : Scope := ⟨[], params, []⟩
  let row : Row := Table.ofEntries (values.map fun v => (v.1, scope.eval v.2))
  let rows := d.rows table
  if rows.any (sameIdentity row) then
    match c with
    | .keep => (⟨[], 0⟩, d)
    | .replace columns =>
        let sets := columns.map fun c => (c, Expression.excluded c)
        (⟨[], 1⟩, Table.put table
          (rows.map fun r => if sameIdentity row r then changed ⟨r, params, row⟩ sets else r) d)
  else (⟨[], 1⟩, Table.put table (rows ++ [row]) d)

/-- What a change does. -/
def runUpdate (d : Database) (params : List Value) (table : String)
    (sets : List (String × Expression)) (target : Target) (returning : List String) :
    Reply × Database :=
  let rows := d.rows table
  let covers := target.covers d params
  let change (r : Row) : Row := changed ⟨r, params, []⟩ sets
  let touched := (rows.filter covers).map change
  (⟨if returning.isEmpty then [] else touched.map (projected returning), touched.length⟩,
   Table.put table (rows.map fun r => if covers r then change r else r) d)

/-- What a count gives. -/
def runTally (d : Database) (column table : String) : Reply :=
  let names := (d.rows table).filterMap fun r =>
    match r.value column with
    | .text s => some s
    | _ => none
  let rows := names.eraseDups.map fun s =>
    Table.ofEntries [(column, Value.text s), ("total", .number (names.count s))]
  ⟨rows, rows.length⟩

/-- What a statement gives, and the database after it. -/
def run (d : Database) (params : List Value) : Statement → Reply × Database
  | define _ => (⟨[], 0⟩, d)
  | insert _ table values c => runInsert d params table values c
  | select s =>
      let rows := (s.found d params).map (projected s.columns)
      (⟨rows, rows.length⟩, d)
  | update table sets target returning => runUpdate d params table sets target returning
  | delete table c =>
      let rows := d.rows table
      let kept := rows.filter fun r => !c.holds ⟨r, params, []⟩
      (⟨[], rows.length - kept.length⟩, Table.put table kept d)
  | tally column table => (runTally d column table, d)

end Statement
end Connector.Sql
