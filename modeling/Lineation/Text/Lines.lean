/-!
# Lines of a text

A newline ends a line. Text after the last newline is a line as well, and no text after it is
none, so a final newline adds no empty line.
-/

namespace Lineation.Text

/-- Finished lines so far, and whether characters follow the last newline. -/
structure LineTally where
  finished : Nat := 0
  pending : Bool := false
deriving Repr, DecidableEq

namespace LineTally

def step (tally : LineTally) (c : Char) : LineTally :=
  if c = '\n' then ⟨tally.finished + 1, false⟩ else ⟨tally.finished, true⟩

def total (tally : LineTally) : Nat :=
  if tally.pending then tally.finished + 1 else tally.finished

end LineTally

/-- The number of lines of a text. -/
def lineCount (text : String) : Nat :=
  (text.foldl LineTally.step {}).total

theorem lineCount_eq_foldl_toList (text : String) :
    lineCount text = (text.toList.foldl LineTally.step {}).total := by
  rw [lineCount, String.foldl_eq_foldl_toList]

end Lineation.Text
