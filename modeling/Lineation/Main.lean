import Lineation.CommandLine.Run
import Std.Time.DateTime.Timestamp

/-!
# The program

The outer layer: it takes in the arguments, the environment and the files that the arguments name,
hands them to the run, and writes what the run gives.
-/

namespace Lineation.Main

open Diagnostics CommandLine

/-- The fault that an error of the system stands for. -/
def faultOf : IO.Error → SystemFault
  | .noFileOrDirectory _ code details => .numbered .notFound details code.toNat
  | .permissionDenied _ code details => .numbered .permissionDenied details code.toNat
  | .inappropriateType _ code details => .numbered .other details code.toNat
  | .invalidArgument _ code details => .numbered .other details code.toNat
  | .resourceExhausted _ code details => .numbered .other details code.toNat
  | .hardwareFault code details => .numbered .other details code.toNat
  | .otherError code details => .numbered .other details code.toNat
  | other => ⟨.other, toString other⟩

/-- What stands at a path. -/
def inspect (path : String) : IO Entry := do
  try
    let place ← IO.FS.realPath path
    let data ← place.metadata
    match data.type with
    | .file =>
      let content ←
        try
          pure (Except.ok (← IO.FS.readBinFile place))
        catch fault => pure (Except.error (faultOf fault))
      return .regular {
        canonical := .ok ⟨place.toString⟩, size := .ok data.byteSize.toNat, content }
    | _ => return .directory
  catch fault => return .missing (faultOf fault)

/-- What stands at a path, and how long it took to find out, in nanoseconds. -/
def timed (path : String) : IO (String × Entry × Nat) := do
  let start ← IO.monoNanosNow
  let entry ← if path.isEmpty then pure (.missing .notFound) else inspect path
  return (path, entry, (← IO.monoNanosNow) - start)

/-- The variables that choices are read from. -/
def environment : IO Environment := do
  let values ← Preferences.variableNames.mapM fun name => return (name, ← IO.getEnv name)
  return ⟨values.filterMap fun (name, value) => value.map (name, ·)⟩

/-- The world that a run sees. -/
def host (options : Options) : IO Host := do
  let known ← (options.files ++ options.config.toList).mapM timed
  return {
    environment := ← environment
    files := ⟨fun path => ((known.lookup path.text).map Prod.fst).getD (.missing .notFound)⟩
    readingTime := fun path => ((known.lookup path.text).map Prod.snd).getD 0
    runningTime := known.foldl (fun total (_, _, time) => total + time) 0 / 1000000 }

/-- The present moment. -/
def now : IO Stamp := do
  let moment ← Std.Time.Timestamp.now
  return { seconds := moment.val.second.val, nanoseconds := moment.val.nano.val.toNat }

/-- Writes a piece of output. -/
def write : Emission → IO Unit
  | .out text => IO.print text
  | .err text => IO.eprint text
  | .record event => do IO.eprintln (event.toJson (← now)).compact

/-- Runs the program on its arguments and gives its exit code. -/
def run (arguments : List String) : IO UInt32 := do
  let request := Request.parse arguments
  match request with
  | .help => IO.print usage
  | .version => IO.print versionText
  | .invalid => IO.eprint usage
  | .run options =>
    let outcome := CommandLine.run (← host options) options
    outcome.session.outlets.emissions.forM write
    return outcome.exitCode.toUInt32
  return request.exitCode.toUInt32

end Lineation.Main

def main (arguments : List String) : IO UInt32 :=
  Lineation.Main.run arguments
