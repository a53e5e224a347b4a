import Lineation.Tokenizer.Basic

/-!
# Metrics

What a run of a tokenizer counts.
-/

namespace Lineation

/-- How many regions each opening text opened, in the order of first use. -/
abbrev RuleUsage := List (String × Nat)

/-- Counts one more region for an opening text. No new text is taken up once `limit` of them are
counted. -/
def RuleUsage.count (limit : Nat) (opening : String) (usage : RuleUsage) : RuleUsage :=
  if usage.any (·.1 == opening) then
    usage.map fun (text, n) => if text == opening then (text, n + 1) else (text, n)
  else if usage.length < limit then usage ++ [(opening, 1)]
  else usage

/-- Counts of one run. -/
structure Metrics where
  totalTokens : Nat := 0
  totalLines : Nat := 0
  /-- Lines that had no tokens and gave no record. -/
  droppedLines : Nat := 0
  capturedRegions : Nat := 0
  unterminatedRegions : Nat := 0
  /-- Characters of the longest token. -/
  longestToken : Nat := 0
  ruleUsage : RuleUsage := []
deriving Repr, DecidableEq, Inhabited

namespace Metrics

/-- Counts a token. -/
def addToken (preferences : LexicalPreferences) (text : String) (m : Metrics) : Metrics :=
  { m with
    totalTokens := m.totalTokens + 1
    longestToken :=
      if preferences.detailedMetrics then max m.longestToken text.length else m.longestToken }

/-- Counts a region that was opened. -/
def addOpening (preferences : LexicalPreferences) (limits : Limits) (opening : String)
    (m : Metrics) : Metrics :=
  if preferences.trackRules then
    { m with ruleUsage := m.ruleUsage.count limits.maxTrackedRules opening }
  else m

end Metrics

end Lineation
