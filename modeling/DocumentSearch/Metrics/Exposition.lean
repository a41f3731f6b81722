import DocumentSearch.Metrics.Tally
import DocumentSearch.Number.Digits

/-!
# Metrics as text

The tally in the text format that monitoring systems collect: families in the order of their names,
each with a help line, a type line and one sample a line.  Samples stand in the order of their label
values, and the labels of a sample in the order of their names; only the bound of a bucket comes
last.  A family that counts by name is left out as long as it is empty.
-/

namespace DocumentSearch

namespace Exposition

/-- Sample values are written in plain decimal without an exponent. -/
def valueStyle : DecimalStyle where
  positional _ := true
  markWhole := false

/-- The text of a sample value. -/
def valueText (value : Binary64) : String :=
  if value.isNaN then "NaN"
  else if value.isFinite then String.ofList (valueStyle.text value)
  else if value.isNegative then "-inf"
  else "inf"

/-- The text of a count. -/
def countText (count : Nat) : String := valueText (Binary64.ofNat count)

/-- One character of a label value. -/
def escapeChar (c : Char) : List Char :=
  if c = '\\' then ['\\', '\\']
  else if c = '"' then ['\\', '"']
  else if c = '\n' then ['\\', 'n']
  else [c]

/-- A label with its value. -/
def label (name value : String) : String :=
  name ++ "=\"" ++ String.ofList (value.toList.flatMap escapeChar) ++ "\""

/-- A sample on a line of its own. -/
def sample (name : String) (labels : List String) (value : String) : String :=
  let shown := if labels.isEmpty then "" else "\x7b" ++ ",".intercalate labels ++ "\x7d"
  name ++ shown ++ " " ++ value ++ "\n"

/-- The lines in front of the samples of a family. -/
def header (name help type : String) : String :=
  "# HELP " ++ name ++ " " ++ help ++ "\n# TYPE " ++ name ++ " " ++ type ++ "\n"

/-- The samples of a histogram. -/
def histogramLines (name : String) (labels : List String) (histogram : Histogram) : String :=
  String.join (histogram.buckets.map fun bucket =>
    sample (name ++ "_bucket") (labels ++ [label "le" (valueText bucket.1)])
      (countText bucket.2)) ++
  sample (name ++ "_bucket") (labels ++ [label "le" "+Inf"]) (countText histogram.count) ++
  sample (name ++ "_sum") labels (valueText histogram.sum) ++
  sample (name ++ "_count") labels (countText histogram.count)

/-- Samples in the order of their label values. -/
def sorted {α : Type} (samples : Family α) : Family α :=
  samples.mergeSort fun left right => !(decide (right.labels < left.labels))

/-- A family with its samples, unless there are none. -/
def family (name help type : String) (samples : List String) : String :=
  if samples.isEmpty then "" else header name help type ++ String.join samples

/-- The name of the family of batch sizes. -/
def batchName : String := "docquery_bulk_batch_size"

/-- The name of the family of failures. -/
def failureName : String := "docquery_request_errors_total"

/-- The name of the family of latencies. -/
def latencyName : String := "docquery_request_latency_seconds"

/-- The name of the family of completed operations. -/
def requestName : String := "docquery_requests_total"

/-- The failures with the kind in front of the operation, in this order. -/
def failures (tally : Tally) : Family Nat :=
  sorted (tally.failures.map fun sample => ⟨sample.labels.reverse, sample.value⟩)

/-- Label values under their names. -/
def labelled (names values : List String) : List String := List.zipWith label names values

/-- The whole tally as text. -/
def text (tally : Tally) : String :=
  family batchName "Number of documents in bulk inserts" "histogram"
    [histogramLines batchName [] tally.batches] ++
  family failureName "Total number of failed operations by type and error kind" "counter"
    ((failures tally).map fun entry =>
      sample failureName (labelled ["kind", "op"] entry.labels) (countText entry.value)) ++
  family latencyName "Operation latency" "histogram"
    ((sorted tally.latencies).map fun entry =>
      histogramLines latencyName (labelled ["op"] entry.labels) entry.value) ++
  family requestName "Total number of operations by type" "counter"
    ((sorted tally.requests).map fun entry =>
      sample requestName (labelled ["op"] entry.labels) (countText entry.value))

end Exposition

end DocumentSearch
