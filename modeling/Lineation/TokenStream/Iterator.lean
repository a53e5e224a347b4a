import Lineation.TokenStream.Cursor

/-!
# Iterating from both ends

An iterator takes tokens from the front and from the back of a stream until none is left between
the two.

Main definitions:
* `TokenIterator.next`, `TokenIterator.nextBack`: one token from the front, or from the back;
* `TokenIterator.pullAll`: tokens from either end in turn;
* `TokenIterator.rest`, `TokenIterator.restReversed`: all tokens that are left.
-/

namespace Lineation

/-- The tokens of a stream that have not been taken yet. -/
structure TokenIterator where
  lines : Array LineRecord
  front : Position
  back : Position
  remaining : Nat

namespace TokenIterator

/-- All tokens of a stream. -/
def ofStream (stream : TokenStream) : TokenIterator where
  lines := stream.lines
  front := Position.first stream.lines
  back := Position.last stream.lines
  remaining := stream.size

/-- Takes a token from the front. -/
def next (it : TokenIterator) : Option Token × TokenIterator :=
  if it.remaining = 0 then (none, it)
  else
    match it.front.token? it.lines with
    | none => (none, it)
    | some token =>
      (some token,
        { it with
          front := (it.front.next? it.lines).getD .pastLast
          remaining := it.remaining - 1 })

/-- Takes a token from the back. -/
def nextBack (it : TokenIterator) : Option Token × TokenIterator :=
  if it.remaining = 0 then (none, it)
  else
    match it.back.token? it.lines with
    | none => (none, it)
    | some token =>
      (some token,
        { it with
          back := (it.back.previous? it.lines).getD .beforeFirst
          remaining := it.remaining - 1 })

/-- How many tokens are left, at least and at most. -/
def sizeHint (it : TokenIterator) : Nat × Option Nat :=
  (it.remaining, some it.remaining)

/-- Takes a token from the end where a walk in the direction starts. -/
def pull (it : TokenIterator) : Direction → Option Token × TokenIterator
  | .forward => it.next
  | .backward => it.nextBack

/-- Takes a token for each of the directions in turn. -/
def pullAll : TokenIterator → List Direction → List (Option Token) × TokenIterator
  | it, [] => ([], it)
  | it, direction :: directions =>
    let (answer, it) := it.pull direction
    let (answers, it) := it.pullAll directions
    (answer :: answers, it)

/-- Takes tokens with `take` until none comes, at most `fuel` of them, onto those taken before,
latest first. -/
def drainOnto (take : TokenIterator → Option Token × TokenIterator) :
    Nat → List Token → TokenIterator → List Token
  | 0, taken, _ => taken
  | fuel + 1, taken, it =>
    match take it with
    | (some token, it) => drainOnto take fuel (token :: taken) it
    | (none, _) => taken

/-- All tokens that are left, taken from the front. -/
def rest (it : TokenIterator) : List Token :=
  (drainOnto next it.remaining [] it).reverse

/-- All tokens that are left, taken from the back. -/
def restReversed (it : TokenIterator) : List Token :=
  (drainOnto nextBack it.remaining [] it).reverse

end TokenIterator

end Lineation
