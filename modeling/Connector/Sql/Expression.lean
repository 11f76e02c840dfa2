import Connector.Sql.Value

/-!
# Expressions and conditions

What a statement computes of a row and its parameters: as text, and as a value.  A condition is
true, false or unknown.  Brackets written with room have a blank inside.  Statements:

* `holds_both`, `holds_either` — when a conjunction and a disjunction hold.
-/

namespace Connector.Sql

/-- What a statement computes. -/
inductive Expression where
  | null
  | column (name : String)
  /-- A parameter, perhaps with its type said. -/
  | param (index : Nat) (type : Option String)
  | literal (s : String)
  | constant (n : Nat)
  /-- A number after another. -/
  | next (e : Expression)
  /-- The value that an insertion would have put into a column. -/
  | excluded (name : String)
  /-- A document without a value in it. -/
  | nullDocument
  /-- A member of a document. -/
  | member (e : Expression) (key : String)
  /-- A document with a member in place. -/
  | withMember (roomy : Bool) (e : Expression) (key : String) (value : Expression)
  /-- The first value that is there, of three. -/
  | firstOf (a b c : Expression)
  deriving Inhabited

/-- The text in brackets. -/
def bracketed (roomy : Bool) (s : String) : String :=
  if roomy then "( " ++ s ++ " )" else "(" ++ s ++ ")"

/-- A text as it stands in a statement. -/
def quote (s : String) : String := "'" ++ s.replace "'" "''" ++ "'"

/-- A key of a document as it stands in a statement. -/
def keyPath (key : String) : String := quote ("\x7b" ++ key ++ "\x7d")

namespace Expression

/-- The text of an expression. -/
def text : Expression → String
  | null => "NULL"
  | column name => name
  | param index none => s!"${index}"
  | param index (some type) => s!"${index}::{type}"
  | literal s => quote s
  | constant n => toString n
  | next e => e.text ++ " + 1"
  | excluded name => "EXCLUDED." ++ name
  | nullDocument => "'null'::jsonb"
  | member e key => e.text ++ "->" ++ quote key
  | withMember roomy e key value =>
      "jsonb_set" ++ bracketed roomy (e.text ++ ", " ++ keyPath key ++ ", " ++ value.text)
  | firstOf a b c => "COALESCE(" ++ a.text ++ ", " ++ b.text ++ ", " ++ c.text ++ ")"

end Expression

/-- What expressions are computed of. -/
structure Scope where
  row : Row
  params : List Value
  /-- The row that an insertion would have put in. -/
  proposed : Row
  deriving Inhabited

namespace Scope

/-- The value of a parameter; they count from one. -/
def param (s : Scope) (index : Nat) : Value := (s.params[index - 1]?).getD .null

/-- The member of a document under a key. -/
def memberOf (key : String) : Value → Value
  | .document (.obj members) =>
      match Table.get? key members with
      | some j => .document j
      | none => .null
  | _ => .null

/-- A document with a member; no value where one of the two is none. -/
def setMember (key : String) : Value → Value → Value
  | .document (.obj members), .document j => .document (.obj (Table.put key j members))
  | .document d, .document _ => .document d
  | _, _ => .null

/-- The value of an expression. -/
def eval (s : Scope) : Expression → Value
  | .null => .null
  | .column name => s.row.value name
  | .param index _ => s.param index
  | .literal text => .text text
  | .constant n => .number n
  | .next e =>
      match s.eval e with
      | .number n => .number (n + 1)
      | _ => .null
  | .excluded name => s.proposed.value name
  | .nullDocument => .document .null
  | .member e key => memberOf key (s.eval e)
  | .withMember _ e key value => setMember key (s.eval e) (s.eval value)
  | .firstOf a b c =>
      if !(s.eval a).isNull then s.eval a
      else if !(s.eval b).isNull then s.eval b
      else s.eval c

end Scope

/-- What a row must fulfil. -/
inductive Condition where
  | isNull (e : Expression)
  | isNotNull (e : Expression)
  | equal (a b : Expression)
  | unequal (a b : Expression)
  | atMost (a b : Expression)
  | less (a b : Expression)
  /-- A text is among those of a parameter. -/
  | among (e : Expression) (list : Expression)
  | isTrue (e : Expression)
  | both (a b : Condition)
  | either (a b : Condition)
  | group (roomy : Bool) (c : Condition)
  deriving Inhabited

namespace Condition

/-- The text of a condition. -/
def text : Condition → String
  | isNull e => e.text ++ " IS NULL"
  | isNotNull e => e.text ++ " IS NOT NULL"
  | equal a b => a.text ++ " = " ++ b.text
  | unequal a b => a.text ++ " <> " ++ b.text
  | atMost a b => a.text ++ " <= " ++ b.text
  | less a b => a.text ++ " < " ++ b.text
  | among e list => e.text ++ " = ANY(" ++ list.text ++ ")"
  | isTrue e => e.text
  | both a b => a.text ++ " AND " ++ b.text
  | either a b => a.text ++ " OR " ++ b.text
  | group roomy c => bracketed roomy c.text

/-- What is known of a condition. -/
def eval (s : Scope) : Condition → Truth
  | isNull e => some (s.eval e).isNull
  | isNotNull e => some (!(s.eval e).isNull)
  | equal a b => (s.eval a).equal (s.eval b)
  | unequal a b => ((s.eval a).equal (s.eval b)).not
  | atMost a b => (s.eval a).atMost (s.eval b)
  | less a b => (s.eval a).below (s.eval b)
  | among e list => (s.eval e).among (s.eval list)
  | isTrue e => (s.eval e).toTruth
  | both a b => (eval s a).and (eval s b)
  | either a b => (eval s a).or (eval s b)
  | group _ c => eval s c

/-- Whether a condition is known to be true. -/
def holds (c : Condition) (s : Scope) : Bool := c.eval s == some true

theorem holds_both {a b : Condition} {s : Scope} :
    (both a b).holds s = true ↔ a.holds s = true ∧ b.holds s = true := by
  simp [holds, eval, Truth.and_eq_true]

theorem holds_either {a b : Condition} {s : Scope} :
    (either a b).holds s = true ↔ a.holds s = true ∨ b.holds s = true := by
  simp [holds, eval, Truth.or_eq_true]

end Condition
end Connector.Sql
