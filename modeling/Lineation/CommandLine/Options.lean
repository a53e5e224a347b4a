import Lineation.RuleSet

/-!
# Options

What a user writes after the name of the program. Options and files may be mixed; each option is
given at most once; after `--` everything is a file. Arguments are read from left to right, and the
first one that asks for help, asks for the version or is not understood decides.

Main definitions:
* `Options`: what a run is asked to do;
* `Request.parse`: what the arguments ask for.
-/

namespace Lineation.CommandLine

/-- What the program is for, and its options. -/
def usage : String :=
  "Split files into line-grouped tokens\n\n" ++
    "Usage: linelex [OPTIONS] <FILES>...\n\n" ++
    "Options:\n" ++
    "  -c, --config <CONFIG>   Tokenizer rules as TOML; takes precedence over --preset\n" ++
    "      --preset <PRESET>   c-like (default) or plain\n" ++
    "  -f, --format <FORMAT>   text (default), json or tokens\n" ++
    "      --reverse           Walk tokens from last to first (tokens format)\n" ++
    "      --structured-logs   Emit log events as JSON on stderr\n" ++
    "  -h, --help              Print help\n" ++
    "  -V, --version           Print version\n"

/-- How tokens are shown. -/
inductive Format where
  | text
  | json
  | tokens
deriving Repr, DecidableEq, Inhabited

def Format.parse? : String → Option Format
  | "text" => some .text
  | "json" => some .json
  | "tokens" => some .tokens
  | _ => none

/-- The built-in rule sets. -/
inductive Preset where
  | cLike
  | plain
deriving Repr, DecidableEq, Inhabited

namespace Preset

def parse? : String → Option Preset
  | "c-like" => some .cLike
  | "plain" => some .plain
  | _ => none

def rules : Preset → RuleSet
  | cLike => .cLike
  | plain => .plain

end Preset

/-- What a run is asked to do. -/
structure Options where
  files : List String := []
  /-- A file with rules, which counts before the preset. -/
  config : Option String := none
  preset : Option Preset := none
  format : Option Format := none
  /-- Show tokens from the last to the first. -/
  reverse : Bool := false
  /-- Write events as JSON. -/
  structuredLogs : Bool := false
deriving Repr, DecidableEq, Inhabited

/-- What the arguments ask for. -/
inductive Request where
  | run (options : Options)
  | help
  | version
  /-- The arguments are not understood. -/
  | invalid
deriving Repr, DecidableEq, Inhabited

/-- The exit code of a request that is answered without a run. -/
def Request.exitCode : Request → Nat
  | invalid => 2
  | _ => 0

/-- The options by name. -/
inductive OptionName where
  | config
  | preset
  | format
  | reverse
  | structuredLogs
  | help
  | version
deriving Repr, DecidableEq, Inhabited

namespace OptionName

/-- The option with a long name. -/
def ofLong? : String → Option OptionName
  | "config" => some .config
  | "preset" => some .preset
  | "format" => some .format
  | "reverse" => some .reverse
  | "structured-logs" => some .structuredLogs
  | "help" => some .help
  | "version" => some .version
  | _ => none

/-- The option with a name of one letter. -/
def ofShort? : Char → Option OptionName
  | 'c' => some .config
  | 'f' => some .format
  | 'h' => some .help
  | 'V' => some .version
  | _ => none

/-- Whether the option has a value. -/
def takesValue : OptionName → Bool
  | config | preset | format => true
  | _ => false

end OptionName

namespace Options

/-- Adds a file. The empty text names none. -/
def addFile? (options : Options) (file : String) : Option Options :=
  if file.isEmpty then none else some { options with files := options.files ++ [file] }

/-- Adds files in order. -/
def addFiles? (options : Options) (files : List String) : Option Options :=
  files.foldlM addFile? options

/-- Sets an option that has a value, once. -/
def setValue? (options : Options) (name : OptionName) (value : String) : Option Options :=
  match name with
  | .config =>
    if options.config.isSome || value.isEmpty then none
    else some { options with config := some value }
  | .preset =>
    if options.preset.isSome then none
    else (Preset.parse? value).map fun preset => { options with preset := some preset }
  | .format =>
    if options.format.isSome then none
    else (Format.parse? value).map fun format => { options with format := some format }
  | _ => none

/-- Sets an option that has no value, once. -/
def setFlag? (options : Options) (name : OptionName) : Option Options :=
  match name with
  | .reverse => if options.reverse then none else some { options with reverse := true }
  | .structuredLogs =>
    if options.structuredLogs then none else some { options with structuredLogs := true }
  | _ => none

/-- The rules that apply if no file with rules is given. -/
def presetRules (options : Options) : RuleSet :=
  (options.preset.getD .cLike).rules

/-- Whether each file is shown under a heading. -/
def headings (options : Options) : Bool :=
  options.files.length > 1

end Options

namespace Request

/-- What reading one argument gives. -/
inductive Step where
  | next (options : Options)
  /-- The option waits for its value. -/
  | awaits (name : OptionName)
  | done (request : Request)

/-- Goes on with options, if there are any. -/
def Step.ofOption : Option Options → Step
  | some options => .next options
  | none => .done .invalid

/-- An option without a value beside it. -/
def option (options : Options) : OptionName → Step
  | .help => .done .help
  | .version => .done .version
  | name => if name.takesValue then .awaits name else .ofOption (options.setFlag? name)

/-- An argument after two dashes: a name, or a name and a value. -/
def long (options : Options) (argument : List Char) : Step :=
  let name := argument.takeWhile (· != '=')
  match OptionName.ofLong? (String.ofList name), argument.drop name.length with
  | none, _ => .done .invalid
  | some name, [] => option options name
  | some name, _ :: value => .ofOption (options.setValue? name (String.ofList value))

/-- The letters after one dash. What follows a letter whose option has a value is that value, an
equals sign apart. -/
def cluster (options : Options) : List Char → Step
  | [] => .next options
  | letter :: rest =>
    match OptionName.ofShort? letter with
    | none => .done .invalid
    | some name =>
      if name.takesValue then
        match rest with
        | [] => .awaits name
        | '=' :: value => .ofOption (options.setValue? name (String.ofList value))
        | value => .ofOption (options.setValue? name (String.ofList value))
      else
        match option options name with
        | .next options => cluster options rest
        | step => step

/-- Whether an argument is written like an option. -/
def isOption (argument : String) : Bool :=
  argument.startsWith "-" && argument != "-"

/-- The end of the arguments: some file must have been given. -/
def finish (options : Options) : Request :=
  if options.files.isEmpty then .invalid else .run options

/-- Reads the arguments, with the option that waits for a value if there is one. -/
def read (options : Options) (awaiting : Option OptionName) : List String → Request
  | [] => if awaiting.isSome then .invalid else finish options
  | argument :: rest =>
    match awaiting with
    | some name =>
      if isOption argument then .invalid
      else
        match options.setValue? name argument with
        | some options => read options none rest
        | none => .invalid
    | none =>
      if argument = "--" then
        match options.addFiles? rest with
        | some options => finish options
        | none => .invalid
      else if isOption argument then
        let step := match argument.toList with
          | '-' :: '-' :: name => long options name
          | _ :: letters => cluster options letters
          | [] => .done .invalid
        match step with
        | .next options => read options none rest
        | .awaits name => read options (some name) rest
        | .done request => request
      else
        match options.addFile? argument with
        | some options => read options none rest
        | none => .invalid

/-- What the arguments ask for. -/
def parse (arguments : List String) : Request :=
  read {} none arguments

end Request

end Lineation.CommandLine
