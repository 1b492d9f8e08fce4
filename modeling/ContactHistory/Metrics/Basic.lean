import ContactHistory.Text.Decimal
import ContactHistory.Text.Utf8

namespace ContactHistory

namespace Text.Fingerprint

def basis : UInt64 := 0xCBF29CE484222325

def prime : UInt64 := 0x100000001B3

def step (h : UInt64) (b : UInt8) : UInt64 := (h ^^^ b.toUInt64) * prime

/-- The fingerprint of texts that follow one another. -/
def ofTexts (texts : List String) : UInt64 := (texts.flatMap Utf8.encode).foldl step basis

example : ofTexts ["ab", "c"] = ofTexts ["a", "bc"] := by decide

example : ofTexts ["a"] = 0xAF63DC4C8601EC8C := by decide

end Text.Fingerprint

namespace Metrics

structure Series (α : Type) where
  entries : List (List String × α)
  deriving DecidableEq, Repr

namespace Series

variable {α : Type}

def empty : Series α := ⟨[]⟩

/-- Two tuples of label values count as one. -/
def isOne (labels other : List String) : Bool :=
  Text.Fingerprint.ofTexts labels == Text.Fingerprint.ofTexts other

/-- The entries with the value of some labels changed; `start` stands for one that is not there. -/
def change (labels : List String) (start : α) (f : α → α) :
    List (List String × α) → List (List String × α)
  | [] => [(labels, f start)]
  | e :: es => if isOne e.1 labels then (e.1, f e.2) :: es else e :: change labels start f es

def update (s : Series α) (labels : List String) (start : α) (f : α → α) : Series α :=
  ⟨change labels start f s.entries⟩

end Series

/-- A histogram of durations: how many were within each bound, their sum in seconds and their
number. -/
structure Histogram where
  within : List Nat
  sum : Float
  count : Nat

namespace Histogram

def empty (bounds : List Float) : Histogram := ⟨bounds.map fun _ => 0, 0, 0⟩

/-- Whole seconds and nanoseconds as a number of seconds. -/
def seconds (nanos : Nat) : Float :=
  Float.ofNat (nanos / 1000000000) + Float.ofNat (nanos % 1000000000) / 1e9

def observe (bounds : List Float) (nanos : Nat) (h : Histogram) : Histogram where
  within := List.zipWith (fun b n => if seconds nanos ≤ b then n + 1 else n) bounds h.within
  sum := h.sum + seconds nanos
  count := h.count + 1

end Histogram
end Metrics

structure Metrics where
  up : Metrics.Series Nat
  requests : Metrics.Series Nat
  requestSeconds : Metrics.Series Metrics.Histogram
  aggregations : Metrics.Series Nat
  sourceSeconds : Metrics.Series Metrics.Histogram

namespace Metrics

inductive Result where
  | success
  | failure
  deriving DecidableEq, Repr

def Result.name : Result → String
  | .success => "success"
  | .failure => "error"

def empty : Metrics := ⟨.empty, .empty, .empty, .empty, .empty⟩

/-- The bounds in seconds of the durations of requests. -/
def requestBounds : List Float := [0.005, 0.01, 0.025, 0.05, 0.1, 0.25, 0.5, 1, 2.5, 5, 10]

/-- The bounds in seconds of the durations of sources. -/
def sourceBounds : List Float := [0.001, 0.005, 0.01, 0.025, 0.05, 0.1, 0.25, 0.5, 1, 2.5]

def setUp (m : Metrics) (service : String) : Metrics :=
  { m with up := m.up.update [service] 1 fun _ => 1 }

def requestLabels (service method route : String) (status : Nat) : List String :=
  [service, route, method, Text.Decimal.ofNat status]

def addRequest (m : Metrics) (service method route : String) (status nanos : Nat) : Metrics :=
  let labels := requestLabels service method route status
  { m with
    requests := m.requests.update labels 0 (· + 1)
    requestSeconds :=
      m.requestSeconds.update labels (.empty requestBounds) (.observe requestBounds nanos) }

/-- An aggregation ended with a result, which is given by its name. -/
def addAggregation (m : Metrics) (service result : String) : Metrics :=
  { m with aggregations := m.aggregations.update [service, result] 0 (· + 1) }

def addSource (m : Metrics) (service source : String) (nanos : Nat) : Metrics :=
  { m with
    sourceSeconds :=
      m.sourceSeconds.update [service, source] (.empty sourceBounds) (.observe sourceBounds nanos) }

end Metrics
end ContactHistory
