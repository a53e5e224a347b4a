import Lineation.Environment
import Lineation.Files.FileSystem
import Lineation.Limits.Profile

/-!
# Constants from a profile

Before the program is built, the limits of the chosen profile are checked and written out as
constants. Which profile is taken, and from which folder, is chosen by environment variables.

Main definitions:
* `Limits.constants`: the constants as source text;
* `Limits.generate`: from the workspace to the constants.
-/

namespace Lineation.Limits

/-- A named group of constants, each with its type and its value. -/
structure ConstantGroup where
  name : String
  constants : List (String × String × Nat)

/-- The groups of constants. -/
def groups (limits : Limits) : List ConstantGroup := [
  ⟨"file_processing", [
    ("MAX_FILE_SIZE", "u64", limits.maxFileSize),
    ("LARGE_FILE_THRESHOLD", "u64", limits.largeFileThreshold),
    ("MAX_LINE_COUNT", "usize", limits.maxLineCount)]⟩,
  ⟨"lexical", [
    ("TOKEN_COUNT_WARNING_THRESHOLD", "usize", limits.tokenCountWarning),
    ("REGION_LENGTH_WARNING_THRESHOLD", "usize", limits.regionLengthWarning),
    ("MAX_TRACKED_RULES", "usize", limits.maxTrackedRules)]⟩,
  ⟨"logging", [
    ("LOG_BUFFER_SIZE", "usize", limits.logBufferSize),
    ("MAX_LOG_MESSAGE_LENGTH", "usize", limits.maxMessageLength),
    ("MAX_LOG_EVENTS_PER_FILE", "usize", limits.maxEventsPerFile)]⟩]

/-- One constant on a line. -/
def constantLine : String × String × Nat → String
  | (name, type, value) =>
    "        pub const " ++ name ++ ": " ++ type ++ " = " ++ toString value ++ ";\n"

/-- One group of constants. -/
def groupText (group : ConstantGroup) : String :=
  "    pub mod " ++ group.name ++ " \x7b\n" ++ String.join (group.constants.map constantLine) ++
    "    \x7d\n"

/-- The constants as source text. -/
def constants (profile : String) (limits : Limits) : String :=
  "\n// Generated compile-time constants from TOML configuration\n// Profile: " ++ profile ++
    "\n// DO NOT EDIT - Generated by build.rs\n\npub mod compile_time \x7b\n" ++
    "\n".intercalate (limits.groups.map groupText) ++ "\x7d\n"

/-- What generating constants gives: what is printed, and the constants or the reason why there are
none. -/
structure Generation where
  printed : String
  result : Except String String

/-- Generates the constants of the profile that the environment chooses. -/
def generate (environment : Environment) (files : FileSystem) (workspace : Path) : Generation :=
  let profile := (environment.get? "LINELEX_BUILD_PROFILE").getD Limits.profile
  let folder := (environment.get? "LINELEX_CONFIG_DIR").getD Limits.folder
  let path := (workspace.join folder).join (profile ++ ".toml")
  let result : Except String String :=
    if !files.pathExists path then
      .error ("Configuration file not found: " ++ path.text ++ "\nWorkspace root: " ++
        workspace.text ++ "\nLooking for: " ++ workspace.text ++ "/" ++ folder ++ "/" ++ profile ++
        ".toml")
    else
      match files.readText path with
      | .error fault => .error ("Failed to read " ++ path.text ++ ": " ++ fault.message)
      | .ok text =>
        match ofToml text with
        | .error reason => .error ("Invalid TOML in " ++ path.text ++ ": " ++ reason)
        | .ok limits =>
          match limits.fault? profile with
          | some fault => .error fault
          | none => .ok (limits.constants profile)
  { printed :=
      "cargo:rerun-if-changed=build.rs\n" ++
        "cargo:rerun-if-env-changed=LINELEX_BUILD_PROFILE\n" ++
        "cargo:rerun-if-env-changed=LINELEX_CONFIG_DIR\n" ++
        "cargo:rerun-if-changed=" ++ path.text ++ "\n"
    result }

end Lineation.Limits
