import Connector.Json.Writer

/-!
# Numbered ids

The n-th id that is drawn, in the form of a random one: its last group counts the draws.
-/

namespace Connector.Transfer

/-- The last group of an id: twelve hexadecimal digits. -/
def lastGroup (n : Nat) : List Char :=
  let digits := Nat.toDigits 16 n
  List.replicate (12 - digits.length) '0' ++ digits

/-- The n-th id. -/
def numberedId (n : Nat) : String := "00000000-0000-4000-8000-" ++ String.ofList (lastGroup n)

/-- The n-th id without its dashes. -/
def plainId (n : Nat) : String := "00000000000040008000" ++ String.ofList (lastGroup n)

end Connector.Transfer
