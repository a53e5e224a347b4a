import Lineation.Tokenizer.Scan

/-!
# Runs of a tokenizer

A run gives the line records of a text, what was counted, and the events that it reports: its
start, the warnings in the order of the text, and its end.
-/

namespace Lineation

/-- What tokenizing a text gives. -/
structure Tokenization where
  records : List LineRecord
  metrics : Metrics
  events : List Diagnostics.Event

namespace Tokenizer

open Diagnostics

/-- The event that precedes a run. -/
def started (t : Tokenizer) (text : String) : Event :=
  (Event.debug "Starting tokenization").notes [
    ("chars", toString text.length),
    ("rules", toString t.regions.length)]

/-- The warning about many tokens, if it applies. -/
def tokenWarning (t : Tokenizer) (metrics : Metrics) : List Event :=
  if t.preferences.warnThresholds && metrics.totalTokens > t.limits.tokenCountWarning then
    [(Event.warning .manyTokens "Token count above warning threshold").notes [
      ("tokens", toString metrics.totalTokens),
      ("threshold", toString t.limits.tokenCountWarning)]]
  else []

/-- The event that follows a run. -/
def completed (metrics : Metrics) (records : Nat) : Event :=
  (Event.success .tokenized "Tokenization completed").notes [
    ("tokens", toString metrics.totalTokens),
    ("records", toString records),
    ("dropped_lines", toString metrics.droppedLines),
    ("regions", toString metrics.capturedRegions)]

/-- Splits a text into line records. -/
def tokenize (t : Tokenizer) (text : String) : Tokenization :=
  let s := t.scan text.toList
  let records := s.records.reverse
  { records
    metrics := s.metrics
    events :=
      t.started text :: s.warnings.reverse ++ t.tokenWarning s.metrics ++
        [completed s.metrics records.length] }

end Tokenizer

end Lineation
