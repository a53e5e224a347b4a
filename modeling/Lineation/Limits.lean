/-!
# Limits

The fixed limits that the program works under. They come in profiles; the development profile is
the one in force.
-/

namespace Lineation

/-- The limits of a profile. -/
structure Limits where
  /-- Largest file that is read, in bytes. -/
  maxFileSize : Nat
  /-- A file with more bytes than this counts as large. -/
  largeFileThreshold : Nat
  /-- Most lines that a file may have. -/
  maxLineCount : Nat
  /-- More tokens than this give a warning. -/
  tokenCountWarning : Nat
  /-- A region with more characters than this gives a warning. -/
  regionLengthWarning : Nat
  /-- Most opening texts whose use is counted. -/
  maxTrackedRules : Nat
  /-- Most events that a buffer keeps. -/
  logBufferSize : Nat
  /-- Most characters of an event on the console. -/
  maxMessageLength : Nat
  /-- Most events that are collected for one file. -/
  maxEventsPerFile : Nat
deriving Repr, DecidableEq, Inhabited

namespace Limits

def development : Limits where
  maxFileSize := 10485760
  largeFileThreshold := 1048576
  maxLineCount := 100000
  tokenCountWarning := 1000000
  regionLengthWarning := 10000
  maxTrackedRules := 256
  logBufferSize := 10000
  maxMessageLength := 4096
  maxEventsPerFile := 1000

/-- The name of the profile in force. -/
def profile : String := "development"

/-- The folder that profiles are read from. -/
def folder : String := "config"

/-- Where the limits in force come from. -/
def source : String := "Generated from " ++ folder ++ "/" ++ profile ++ ".toml"

/-- The limits in the order in which they are listed. -/
def toList (limits : Limits) : List Nat :=
  [limits.maxFileSize, limits.largeFileThreshold, limits.maxLineCount, limits.tokenCountWarning,
    limits.regionLengthWarning, limits.maxTrackedRules, limits.logBufferSize,
    limits.maxMessageLength, limits.maxEventsPerFile]

/-- The limits in force. -/
def current : Limits := development

end Limits

end Lineation
