import Lineation.TokenStream.Basic

/-!
# Positions in a stream

A position names a token by record and place in the record, or lies before the first token or
past the last one. Records without tokens are stepped over.

Main definitions:
* `Position.first`, `Position.last`: the outermost positions;
* `Position.next?`, `Position.previous?`: one step in either direction.
-/

namespace Lineation

/-- A place in a stream. -/
inductive Position where
  | beforeFirst
  | within (line token : Nat)
  | pastLast
deriving Repr, DecidableEq, Inhabited

namespace Position

/-- The index of the first record with tokens among `count` records from `index` on. -/
def occupiedAmong? (lines : Array LineRecord) : Nat → Nat → Option Nat
  | 0, _ => none
  | count + 1, index =>
    match lines[index]? with
    | some record =>
      if record.isEmpty then occupiedAmong? lines count (index + 1) else some index
    | none => none

/-- The index of the first record with tokens from `index` on. -/
def occupiedFrom? (lines : Array LineRecord) (index : Nat) : Option Nat :=
  occupiedAmong? lines (lines.size - index) index

/-- The index of the last record with tokens before `bound`. -/
def occupiedBefore? (lines : Array LineRecord) : Nat → Option Nat
  | 0 => none
  | bound + 1 =>
    match lines[bound]? with
    | some record => if record.isEmpty then occupiedBefore? lines bound else some bound
    | none => occupiedBefore? lines bound

/-- The number of tokens of the record at an index. -/
def tokensAt (lines : Array LineRecord) (index : Nat) : Nat :=
  match lines[index]? with
  | some record => record.size
  | none => 0

/-- The first token of the first record with tokens from `index` on. -/
def firstFrom (lines : Array LineRecord) (index : Nat) : Position :=
  match occupiedFrom? lines index with
  | some line => .within line 0
  | none => .pastLast

/-- The last token of the last record with tokens before `bound`. -/
def lastBefore (lines : Array LineRecord) (bound : Nat) : Position :=
  match occupiedBefore? lines bound with
  | some line => .within line (tokensAt lines line - 1)
  | none => .beforeFirst

def first (lines : Array LineRecord) : Position :=
  firstFrom lines 0

def last (lines : Array LineRecord) : Position :=
  lastBefore lines lines.size

/-- One step forward; none past the last token. -/
def next? (lines : Array LineRecord) : Position → Option Position
  | beforeFirst => some (first lines)
  | .within line token =>
    if token + 1 < tokensAt lines line then some (.within line (token + 1))
    else some (firstFrom lines (line + 1))
  | pastLast => none

/-- One step back; none before the first token. -/
def previous? (lines : Array LineRecord) : Position → Option Position
  | pastLast => some (last lines)
  | .within line token =>
    if token > 0 then some (.within line (token - 1))
    else some (lastBefore lines (min line lines.size))
  | beforeFirst => none

/-- The token at a position. -/
def token? (lines : Array LineRecord) : Position → Option Token
  | .within line token => lines[line]?.bind fun record => record.tokens[token]?
  | _ => none

/-- A position in words. -/
def describe : Position → String
  | beforeFirst => "BeforeFirst"
  | .within line token => s!"At \x7b line: {line}, token: {token} \x7d"
  | pastLast => "PastLast"

end Position

end Lineation
