import DocumentSearch.Metrics.Family
import DocumentSearch.Number.Binary64

/-!
# Tallies

What a client counts: completed operations by name, failures by kind and name, how long operations
took, and how many documents batches held.  Every completed operation is counted once and its time
is observed once, whether it succeeded or not.
-/

namespace DocumentSearch

/-- Observed values, counted by upper bounds. -/
structure Histogram where
  /-- For each bound, how many of the values are at most the bound. -/
  buckets : List (Binary64 × Nat)
  sum : Binary64
  count : Nat
deriving DecidableEq, Repr

namespace Histogram

/-- The histogram without values. -/
def ofBounds (bounds : List Binary64) : Histogram :=
  ⟨bounds.map fun bound => (bound, 0), Binary64.zero false, 0⟩

/-- Adds a value. -/
def observe (histogram : Histogram) (value : Binary64) : Histogram where
  buckets := histogram.buckets.map fun bucket =>
    (bucket.1, if value.le bucket.1 then bucket.2 + 1 else bucket.2)
  sum := histogram.sum.add value
  count := histogram.count + 1

end Histogram

/-- What a client has counted. -/
structure Tally where
  /-- Completed operations by name. -/
  requests : Family Nat
  /-- Failed operations by name and kind of error. -/
  failures : Family Nat
  /-- The seconds that operations took, by name. -/
  latencies : Family Histogram
  /-- The sizes of batches. -/
  batches : Histogram
deriving DecidableEq, Repr

namespace Tally

/-- The bounds for the seconds of an operation. -/
def latencyBounds : List Binary64 :=
  [.ofDecimal 1 (-3), .ofDecimal 5 (-3), .ofDecimal 1 (-2), .ofDecimal 25 (-3),
   .ofDecimal 5 (-2), .ofDecimal 1 (-1), .ofDecimal 25 (-2), .ofDecimal 5 (-1), .ofNat 1, .ofNat 5]

/-- The bounds for the size of a batch. -/
def batchBounds : List Binary64 :=
  [.ofNat 1, .ofNat 10, .ofNat 50, .ofNat 100, .ofNat 500, .ofNat 1000, .ofNat 5000]

/-- Nothing counted. -/
def empty : Tally := ⟨[], [], [], .ofBounds batchBounds⟩

instance : Inhabited Tally := ⟨empty⟩

/-- How many operations of this name were completed. -/
def requestCount (tally : Tally) (operation : String) : Nat :=
  (tally.requests.find? [operation]).getD 0

/-- How many operations of this name failed with an error of this kind. -/
def failureCount (tally : Tally) (operation kind : String) : Nat :=
  (tally.failures.find? [operation, kind]).getD 0

/-- The seconds that operations of this name took. -/
def latency (tally : Tally) (operation : String) : Histogram :=
  (tally.latencies.find? [operation]).getD (.ofBounds latencyBounds)

/-- Counts a completed operation and the kind of its error, if it failed. -/
def record (tally : Tally) (operation : String) (seconds : Binary64) (kind : Option String) :
    Tally :=
  { tally with
    requests := tally.requests.update [operation] 0 Nat.succ
    latencies :=
      tally.latencies.update [operation] (.ofBounds latencyBounds) (·.observe seconds)
    failures :=
      match kind with
      | some kind => tally.failures.update [operation, kind] 0 Nat.succ
      | none => tally.failures }

/-- Counts a batch by its size. -/
def recordBatch (tally : Tally) (size : Nat) : Tally :=
  { tally with batches := tally.batches.observe (Binary64.ofNat size) }

end Tally

end DocumentSearch
