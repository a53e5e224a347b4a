import Lineation.Diagnostics.Event
import Lineation.LineRecord
import Lineation.Text.Quoted
import Lineation.Tokenizer.Metrics

/-!
# Scanning

The characters of a text are read one by one. Outside a region a character extends the word that
is being built, or ends it; a word or a single character that is the opening text of a rule starts
a region. Inside a region characters are collected until the closing text stands at their end. A
newline read outside a region ends the line.

A region is looked at from its end: the characters collected so far and the closing text are
compared backwards until either runs out, so a region that has fewer characters than the closing
text can be closed by its last part.

Main definitions:
* `RegionRule.closedBy`: whether the collected characters end a region;
* `Scan`: what has been read so far;
* `Tokenizer.step`, `Tokenizer.finish`: reading one character, and the end of the text;
* `Tokenizer.scan`: reading a text.
-/

namespace Lineation

/-- Whether the characters collected in a region, latest first, end it. -/
def RegionRule.closedBy (rule : RegionRule) (content : List Char) : Bool :=
  !content.isEmpty && (content.zip rule.closing.toList.reverse).all fun (a, b) => a == b

/-- What is being built. Characters are kept latest first. -/
inductive Scan.Mode where
  | word (buffer : List Char)
  | region (rule : RegionRule) (content : List Char)
deriving Repr, DecidableEq, Inhabited

/-- What has been read so far. Lists are kept latest first. -/
structure Scan where
  mode : Scan.Mode := .word []
  /-- Characters of the line that is being read. -/
  source : List Char := []
  /-- Tokens of that line. -/
  tokens : List Token := []
  /-- Number of that line. -/
  line : Nat := 1
  records : List LineRecord := []
  metrics : Metrics := {}
  warnings : List Diagnostics.Event := []

namespace Scan

instance : Inhabited Scan := ⟨{}⟩

/-- Ends the line. A line without tokens gives no record. -/
def closeLine (s : Scan) : Scan :=
  let metrics := { s.metrics with totalLines := s.metrics.totalLines + 1 }
  let next := { s with source := [], tokens := [], line := s.line + 1 }
  if s.tokens.isEmpty then
    { next with metrics := { metrics with droppedLines := metrics.droppedLines + 1 } }
  else
    let record : LineRecord :=
      ⟨s.line, String.ofList s.source.reverse, s.tokens.reverse.toArray⟩
    { next with metrics, records := record :: s.records }

/-- Notes a warning about the line that is being read. -/
def warn (s : Scan) (code : Diagnostics.Code) (message : String)
    (context : List (String × String)) : Scan :=
  let event := ((Diagnostics.Event.warning code message).withLine s.line).notes context
  { s with warnings := event :: s.warnings }

/-- Takes up one more character of the line. -/
def push (s : Scan) (c : Char) : Scan :=
  { s with source := c :: s.source }

/-- Goes on with a word that has these characters. -/
def building (s : Scan) (buffer : List Char) : Scan :=
  { s with mode := .word buffer }

end Scan

namespace Tokenizer

/-- Adds a token to the line. -/
def emit (t : Tokenizer) (text : String) (s : Scan) : Scan :=
  { s with
    tokens := t.token text :: s.tokens
    metrics := s.metrics.addToken t.preferences text }

/-- Adds a token, unless it would be empty. -/
def emitContent (t : Tokenizer) (chars : List Char) (s : Scan) : Scan :=
  if chars.isEmpty then s else t.emit (String.ofList chars) s

/-! ## Regions -/

/-- Ends a region: what was collected before the closing text is one token, and the closing text
is another. -/
def closeRegion (t : Tokenizer) (rule : RegionRule) (content : List Char) (s : Scan) : Scan :=
  let length := content.length - rule.closing.length
  let s := { s with mode := .word [] }
  let s :=
    if t.preferences.warnThresholds && length > t.limits.regionLengthWarning then
      s.warn .longRegion "Delimited region above length threshold" [
        ("length", toString length),
        ("threshold", toString t.limits.regionLengthWarning)]
    else s
  let s := t.emitContent (content.drop rule.closing.length).reverse s
  let s := t.emit rule.closing s
  { s with metrics := { s.metrics with capturedRegions := s.metrics.capturedRegions + 1 } }

/-- Goes on with a region that has these characters, or ends it. -/
def collect (t : Tokenizer) (rule : RegionRule) (content : List Char) (s : Scan) : Scan :=
  if rule.closedBy content then t.closeRegion rule content s
  else { s with mode := .region rule content }

/-- Starts a region whose first characters, if any, are given. -/
def openRegion (t : Tokenizer) (rule : RegionRule) (seed : List Char) (s : Scan) : Scan :=
  let s := { s with metrics := s.metrics.addOpening t.preferences t.limits rule.opening }
  t.collect rule seed s

/-- The text ended inside a region. -/
def abandonRegion (t : Tokenizer) (rule : RegionRule) (content : List Char) (s : Scan) : Scan :=
  let s := { s with
    mode := .word []
    metrics := { s.metrics with unterminatedRegions := s.metrics.unterminatedRegions + 1 } }
  let s := t.emitContent content.reverse s
  if t.preferences.warnUnterminated then
    s.warn .regionUnterminated "Input ended inside a delimited region" [
      ("start", Text.escaped rule.opening),
      ("end", Text.escaped rule.closing)]
  else s

/-! ## Words -/

/-- Ends the word before a character. If the word opens a region, the character is its first;
otherwise `next` goes on with the character. -/
def breakWord (t : Tokenizer) (buffer : List Char) (c : Char) (next : Scan → Scan) (s : Scan) :
    Scan :=
  if buffer.isEmpty then next s
  else
    let text := String.ofList buffer.reverse
    let s := t.emit text (s.building [])
    match t.rule? text with
    | some rule => t.openRegion rule [c] s
    | none => next s

/-- A character that is a token by itself. -/
def single (t : Tokenizer) (c : Char) (s : Scan) : Scan :=
  let text := String.singleton c
  let s := t.emit text s
  match t.rule? text with
  | some rule => t.openRegion rule [] s
  | none => s

/-- Whether a member of a group starts a new word after the given one. -/
def startsWord (t : Tokenizer) (group : Nat) (buffer : List Char) : Bool :=
  match buffer with
  | [] => false
  | last :: _ => t.group? last != some group

/-- Reads a character outside a region. -/
def readOutside (t : Tokenizer) (buffer : List Char) (c : Char) (s : Scan) : Scan :=
  match t.classify c with
  | .single => t.breakWord buffer c (t.single c) s
  | .grouped group =>
    if t.startsWord group buffer then t.breakWord buffer c (·.building [c]) s
    else s.building (c :: buffer)
  | .separator => t.breakWord buffer c id s
  | .ordinary => s.building (c :: buffer)

/-- Reads a character. -/
def read (t : Tokenizer) (s : Scan) (c : Char) : Scan :=
  match s.mode with
  | .word buffer => t.readOutside buffer c (s.push c)
  | .region rule content => t.collect rule (c :: content) (s.push c)

/-- Reads a character, and ends the line if it was a newline outside a region. -/
def step (t : Tokenizer) (s : Scan) (c : Char) : Scan :=
  let s := t.read s c
  match s.mode with
  | .word _ => if c = '\n' then s.closeLine else s
  | .region _ _ => s

/-- The end of the text: the last word or region is ended, and the line. A last word that opens a
region leaves it without a character. -/
def finish (t : Tokenizer) (s : Scan) : Scan :=
  let s :=
    match s.mode with
    | .word [] => s
    | .word buffer =>
      let text := String.ofList buffer.reverse
      let s := t.emit text (s.building [])
      match t.rule? text with
      | some rule =>
        t.abandonRegion rule []
          { s with metrics := s.metrics.addOpening t.preferences t.limits rule.opening }
      | none => s
    | .region rule content => t.abandonRegion rule content s
  if s.source.isEmpty then s else s.closeLine

/-- Reads a text. -/
def scan (t : Tokenizer) (text : List Char) : Scan :=
  t.finish (text.foldl t.step {})

end Tokenizer

end Lineation
