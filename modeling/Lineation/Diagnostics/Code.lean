/-!
# Diagnostic codes

Every code that the program emits, with what is known about it. A code that is not listed gets
neutral answers.

Main definitions:
* `Code`: a code, any text;
* `Classification`: what is known about a listed code;
* `registry`: the listed codes.
-/

namespace Lineation.Diagnostics

/-- A code that names a kind of event. -/
structure Code where
  text : String
deriving Repr, DecidableEq, Inhabited

/-- How bad the event of a code is, the worst first. -/
inductive Severity where
  | critical
  | high
  | medium
  | low
deriving Repr, DecidableEq, Inhabited

namespace Severity

def rank : Severity → Nat
  | critical => 0
  | high => 1
  | medium => 2
  | low => 3

def label : Severity → String
  | critical => "Critical"
  | high => "High"
  | medium => "Medium"
  | low => "Low"

end Severity

/-- What is known about a listed code. -/
structure Classification where
  category : String
  severity : Severity
  recoverable : Bool
  halts : Bool
  description : String
  action : String
deriving Repr, DecidableEq, Inhabited

/-! ## The codes -/

namespace Code

def internalFault : Code := ⟨"ERR001"⟩
def setupFault : Code := ⟨"ERR002"⟩

def fileNotFound : Code := ⟨"E005"⟩
def extensionRefused : Code := ⟨"E006"⟩
def fileTooLarge : Code := ⟨"E007"⟩
def fileEmpty : Code := ⟨"E008"⟩
def permissionDenied : Code := ⟨"E009"⟩
def encodingInvalid : Code := ⟨"E010"⟩
def readFault : Code := ⟨"E011"⟩
def pathInvalid : Code := ⟨"E012"⟩
def tooManyLines : Code := ⟨"E013"⟩

def sourceUnavailable : Code := ⟨"E020"⟩
def regionUnterminated : Code := ⟨"W021"⟩
def manyTokens : Code := ⟨"W022"⟩
def longRegion : Code := ⟨"W023"⟩
def rulesUnreadable : Code := ⟨"E030"⟩
def rulesInvalid : Code := ⟨"E031"⟩

def cursorOutOfRange : Code := ⟨"E040"⟩
def lineOutOfRange : Code := ⟨"E041"⟩
def recordWithoutTokens : Code := ⟨"E042"⟩

def runCompleted : Code := ⟨"I001"⟩
def loggingReady : Code := ⟨"I004"⟩
def fileRead : Code := ⟨"I006"⟩
def tokenized : Code := ⟨"I020"⟩
def rulesLoaded : Code := ⟨"I030"⟩

/-- Events that have no code of their own. -/
def plainWarning : Code := ⟨"W000"⟩
def plainInfo : Code := ⟨"I000"⟩
def plainDebug : Code := ⟨"D000"⟩

end Code

/-! ## What is known about them -/

/-- The listed codes. -/
def registry : List (Code × Classification) := [
  (.internalFault, ⟨"System", .critical, false, true,
    "Critical internal error", "File a bug report with the input that triggered it"⟩),
  (.setupFault, ⟨"System", .critical, false, true,
    "Logging or runtime initialization failed", "Check environment configuration"⟩),
  (.fileNotFound, ⟨"FileProcessing", .medium, false, true,
    "File not found at specified path", "Check the path and ensure the file exists"⟩),
  (.extensionRefused, ⟨"FileProcessing", .low, true, false,
    "File extension is not in the allowed list",
    "Rename the file or adjust LINELEX_ALLOWED_EXTENSIONS"⟩),
  (.fileTooLarge, ⟨"FileProcessing", .medium, false, true,
    "File exceeds maximum size limit", "Split the input or build with a larger profile limit"⟩),
  (.fileEmpty, ⟨"FileProcessing", .medium, false, true,
    "File is empty and empty files are rejected",
    "Provide content or unset LINELEX_REJECT_EMPTY_FILES"⟩),
  (.permissionDenied, ⟨"FileProcessing", .medium, false, true,
    "Permission denied accessing file", "Check file permissions"⟩),
  (.encodingInvalid, ⟨"FileProcessing", .medium, false, true,
    "File is not valid UTF-8", "Convert the file to UTF-8"⟩),
  (.readFault, ⟨"FileProcessing", .high, false, true,
    "I/O error while reading file", "Check storage health and retry"⟩),
  (.pathInvalid, ⟨"FileProcessing", .medium, false, true,
    "Path does not name a regular file", "Pass a path to a regular file"⟩),
  (.tooManyLines, ⟨"FileProcessing", .medium, false, true,
    "File exceeds maximum line count", "Split the input or build with a larger profile limit"⟩),
  (.sourceUnavailable, ⟨"Lexical", .high, false, true,
    "Source text could not be obtained", "Resolve the underlying file processing error"⟩),
  (.regionUnterminated, ⟨"Lexical", .low, true, false,
    "Input ended inside a delimited region", "Close the region or check the combining rules"⟩),
  (.manyTokens, ⟨"Lexical", .low, true, false,
    "Token count crossed the warning threshold", "Consider splitting the input"⟩),
  (.longRegion, ⟨"Lexical", .low, true, false,
    "Captured region crossed the length warning threshold",
    "Check for a missing end delimiter"⟩),
  (.rulesUnreadable, ⟨"Configuration", .high, false, true,
    "Tokenizer configuration file could not be read", "Check the --config path"⟩),
  (.rulesInvalid, ⟨"Configuration", .high, false, true,
    "Tokenizer configuration file is not valid TOML", "Fix the configuration syntax"⟩),
  (.cursorOutOfRange, ⟨"TokenStream", .high, false, true,
    "Cursor moved past either end of the stream",
    "Compare against end() or rend() before stepping"⟩),
  (.lineOutOfRange, ⟨"TokenStream", .medium, false, true,
    "Line index beyond the number of records", "Check line_count() before indexing"⟩),
  (.recordWithoutTokens, ⟨"TokenStream", .medium, true, false,
    "Line record without tokens cannot be stored", "Drop the record instead of storing it"⟩),
  (.runCompleted, ⟨"Success", .low, true, false,
    "Operation completed successfully", "No action required"⟩),
  (.loggingReady, ⟨"Success", .low, true, false,
    "Logging initialized", "No action required"⟩),
  (.fileRead, ⟨"FileProcessing", .low, true, false,
    "File read and validated", "Continue to tokenization"⟩),
  (.tokenized, ⟨"Lexical", .low, true, false,
    "Tokenization completed", "No action required"⟩),
  (.rulesLoaded, ⟨"Configuration", .low, true, false,
    "Tokenizer configuration loaded", "No action required"⟩)]

namespace Code

/-- What is known about the code, if it is listed. -/
def classification? (code : Code) : Option Classification :=
  registry.lookup code

/-- What holds of a code that is not listed. -/
def unlisted : Classification :=
  ⟨"Unknown", .medium, true, false, "Unknown error", "No specific action available"⟩

def classification (code : Code) : Classification :=
  code.classification?.getD unlisted

def isListed (code : Code) : Bool :=
  code.classification?.isSome

end Code

end Lineation.Diagnostics
