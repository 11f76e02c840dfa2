import Connector.Json.Decode

/-!
# Retries

How often a failing attempt is made, and how long to wait before the next: the base delay doubles
with every failure, up to the greatest delay.  Statements:

* `delay_le_greatest` — no delay is longer than the greatest;
* `isExhausted_iff` — the last attempt is the one that makes the count of attempts full.
-/

namespace Connector

/-- How failing attempts are repeated. -/
structure RetryPolicy where
  /-- The attempts in one state, the first included. -/
  maxAttempts : Nat
  baseDelay : Span
  maxDelay : Span
  deriving DecidableEq, Repr, Inhabited

namespace RetryPolicy

/-- Five attempts, from one second on, at most five minutes apart. -/
def standard : RetryPolicy := ⟨5, .seconds 1, .seconds 300⟩

/-- The wait after a failure in a state entered again so often. -/
def delay (r : RetryPolicy) (stateCount : Nat) : Span :=
  (r.baseDelay.scale (Nat.pow 2 (min stateCount 31))).shorter r.maxDelay

/-- Whether the attempt just made was the last. -/
def isExhausted (r : RetryPolicy) (stateCount : Nat) : Bool :=
  decide (r.maxAttempts ≤ stateCount + 1)

/-- A retry policy of a document. -/
def decoder : Decoder RetryPolicy :=
  .record "RetryPolicy"
    (RetryPolicy.mk <$> .withDefault "max_attempts" 5 .nat32
      <*> .withDefault "base_delay" (.seconds 1) .span
      <*> .withDefault "max_delay" (.seconds 300) .span)

/-- A retry policy as a document. -/
def toJson (r : RetryPolicy) : Json :=
  .object [("max_attempts", .nat r.maxAttempts), ("base_delay", .str r.baseDelay.format),
    ("max_delay", .str r.maxDelay.format)]

theorem delay_le_greatest (r : RetryPolicy) (n : Nat) : (r.delay n).nanos ≤ r.maxDelay.nanos :=
  Nat.min_le_right _ _

theorem isExhausted_iff (r : RetryPolicy) (n : Nat) :
    r.isExhausted n = true ↔ r.maxAttempts ≤ n + 1 := by
  simp [isExhausted]

end RetryPolicy
end Connector
