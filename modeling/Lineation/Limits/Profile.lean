import Lineation.Limits
import Lineation.Toml.Reader

/-!
# Profiles

A profile is a configuration file with three groups of limits. Nothing may be missing; what is not
known is ignored. The limits of a profile must fit together.

Main definitions:
* `Limits.ofToml`: the limits that a file holds;
* `Limits.fault?`: what is wrong with the limits of a profile.
-/

namespace Lineation.Limits

/-- The three limits of a group. -/
def group? (names : List String) (value : Toml.Value) : Option (Nat × Nat × Nat) := do
  match ← value.fields? names with
  | [a, b, c] => return (← a.natural?, ← b.natural?, ← c.natural?)
  | _ => none

/-- The limits in a table. -/
def ofValue? (table : Toml.Value) : Option Limits := do
  let (maxFileSize, largeFileThreshold, maxLineCount) ←
    (← table.get? "file_processing") |> group?
      ["max_file_size", "large_file_threshold", "max_line_count"]
  let (tokenCountWarning, regionLengthWarning, maxTrackedRules) ←
    (← table.get? "lexical") |> group?
      ["token_count_warning_threshold", "region_length_warning_threshold", "max_tracked_rules"]
  let (logBufferSize, maxMessageLength, maxEventsPerFile) ←
    (← table.get? "logging") |> group?
      ["log_buffer_size", "max_log_message_length", "max_log_events_per_file"]
  return {
    maxFileSize, largeFileThreshold, maxLineCount
    tokenCountWarning, regionLengthWarning, maxTrackedRules
    logBufferSize, maxMessageLength, maxEventsPerFile }

/-- The limits that a file holds, or what is wrong with the file. -/
def ofToml (text : String) : Except String Limits :=
  match Toml.parse text with
  | .error fault => .error fault.message
  | .ok table =>
    match ofValue? table with
    | some limits => .ok limits
    | none => .error "not a profile"

/-- Largest file size of any profile. -/
def absoluteFileSize : Nat := 1000000000

/-- Largest line count of any profile. -/
def absoluteLineCount : Nat := 100000000

/-- Largest file size of the production profile. -/
def productionFileSize : Nat := 100000000

/-- What is wrong with the limits of a profile, if anything. -/
def fault? (profile : String) (limits : Limits) : Option String :=
  if limits.maxFileSize > absoluteFileSize then
    some "LIMITS: max_file_size exceeds absolute maximum"
  else if limits.largeFileThreshold > limits.maxFileSize then
    some "LIMITS: large_file_threshold must not exceed max_file_size"
  else if limits.maxLineCount > absoluteLineCount then
    some "LIMITS: max_line_count exceeds absolute maximum"
  else if limits.maxTrackedRules = 0 then
    some "LIMITS: max_tracked_rules must be positive"
  else if limits.maxEventsPerFile > limits.logBufferSize then
    some "LIMITS: max_log_events_per_file exceeds log_buffer_size"
  else if profile = "production" ∧ limits.maxFileSize > productionFileSize then
    some "PRODUCTION: max_file_size too high for production"
  else none

end Lineation.Limits
