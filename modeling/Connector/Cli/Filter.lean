import Connector.Site.Note
import Connector.Text.Blank
import Connector.Text.Lowercase

/-!
# Which notes are shown

A filter is a list of rules behind commas.  A rule is a level, the beginning of the name of an
area, or both with an equals sign between them; it lets notes of the area through up to the level.
Of the rules for a note the one with the longest name counts, of two alike the later.  A rule about
an activity in brackets says nothing about notes outside of it.  Without any rule only errors are
shown.
-/

namespace Connector.Cli

/-- A part of a filter. -/
inductive Rule where
  /-- What an area shows, or every area. -/
  | area (name : Option String) (upTo : Nat)
  /-- What is shown inside an activity. -/
  | activity
  deriving DecidableEq, Repr, Inhabited

/-- What is wrong with a filter. -/
inductive FilterFault where
  | malformed
  | unknownLevel
  deriving DecidableEq, Repr

/-- The wording of a fault, and behind it that of its cause. -/
def FilterFault.causes : FilterFault → List String
  | malformed => ["invalid filter directive"]
  | unknownLevel =>
      let text := "error parsing level filter: expected one of \"off\", \"error\", \"warn\", "
        ++ "\"info\", \"debug\", \"trace\", or a number 0-5"
      [text, text]

/-- The number of a level. -/
def levelNumber : Level → Nat
  | .error => 1
  | .warn => 2
  | .info => 3
  | .debug => 4

/-- The number of the level that shows everything. -/
def mostDetailed : Nat := 5

/-- The number of a level that is given as a word or a digit. -/
def levelOf? (s : String) : Option Nat :=
  let digits := match s.toList with
    | '+' :: ds => ds
    | ds => ds
  match (digits.dropWhile (· == '0')), digits with
  | [], _ :: _ => some 0
  | [d], _ =>
      if d.isDigit then if d.toNat - 48 ≤ mostDetailed then some (d.toNat - 48) else none else none
  | _, _ =>
      if s == "" then some 1
      else ["off", "error", "warn", "info", "debug", "trace"].findIdx? fun w =>
        Text.eqIgnoringAsciiCase w s

/-- The level behind an equals sign; none says everything. -/
def levelBehind (cs : List Char) : Except FilterFault Nat :=
  if cs.isEmpty then .ok mostDetailed
  else
    match levelOf? (String.ofList cs) with
    | some n => .ok n
    | none => .error .unknownLevel

/-- What follows an opening bracket: the name of an activity, perhaps with values in braces, and
perhaps a level. -/
def activityRule (cs : List Char) : Except FilterFault Rule :=
  match cs.dropWhile (· != ']') with
  | [_] => .ok .activity
  | _ :: '=' :: level => (levelBehind level).map fun _ => .activity
  | _ => .error .malformed

/-- A rule. -/
def Rule.parse (s : String) : Except FilterFault Rule :=
  let cs := s.toList
  let trimmed := Text.trimEnd (Text.trimStart cs)
  match trimmed with
  | [] => .error .malformed
  | '[' :: rest => activityRule rest
  | c :: _ =>
      if !(c.isAlphanum || c == '-' || c == ':' || c == '_' || decide (127 < c.toNat)) then
        .error .malformed
      else
        let name := trimmed.takeWhile fun c => c != '=' && c != '['
        match trimmed.drop name.length with
        | [] =>
            match levelOf? s with
            | some n => .ok (.area none n)
            | none => .ok (.area (some s) mostDetailed)
        | '[' :: rest => activityRule rest
        | _ => (levelBehind (cs.drop (name.length + 1))).map fun n =>
            .area (some (String.ofList (cs.take name.length))) n

/-- Which notes are shown. -/
abbrev Filter := List Rule

namespace Filter

/-- The rules between commas, up to the first that is wrong. -/
def rules : List String → Except FilterFault Filter
  | [] => .ok []
  | s :: rest => do
      let r ← Rule.parse s
      return r :: (← rules rest)

/-- A filter; only errors are shown where it has no rule. -/
def parse (s : String) : Except FilterFault Filter := do
  let rules ← rules ((s.splitOn ",").filter (· != ""))
  return if rules.isEmpty then [.area none 1] else rules

/-- The length of the name of a rule that is about an area, with its level. -/
def Rule.weight? (area : String) : Rule → Option (Nat × Nat)
  | .area none n => some (0, n)
  | .area (some name) n => if area.startsWith name then some (name.length + 1, n) else none
  | .activity => none

/-- The weightier of two rules, the later of two alike. -/
def heavier (a b : Option (Nat × Nat)) : Option (Nat × Nat) :=
  match a, b with
  | some x, some y => if x.1 ≤ y.1 then b else a
  | none, _ => b
  | _, none => a

/-- Whether a note of an area is shown. -/
def shows (f : Filter) (area : String) (level : Level) : Bool :=
  ((f.map (Rule.weight? area)).foldl heavier none).any fun r => decide (levelNumber level ≤ r.2)

end Filter
end Connector.Cli
