/-
ExportControl.Main — the command line.

Files are read and written where the program is started. The program prepares the
service but does not listen by itself.
-/
import ExportControl.CommandLine.Run

namespace ExportControl

/-- The reason that an error of the file system gives. -/
def fileReason : IO.Error → String
  | .noFileOrDirectory .. => PathError.missing.message
  | .inappropriateType .. => PathError.isFolder.message
  | .permissionDenied .. => "Permission denied (os error 13)"
  | e => toString e

/-- The files of the file system. -/
def systemFiles : FileAccess IO where
  read path := do
    try
      return .content (Text.Glyph.ofBytes (← IO.FS.readBinFile path))
    catch
      | .inappropriateType .. => return .unreadable
      | e => return .refused (fileReason e)
  write path content := do
    try
      IO.FS.writeFile path content
      return none
    catch e => return some (fileReason e)

/-- The variables that the program looks at. -/
def variableNames : List String :=
  ["APP_ENV", "APP_HOST", "APP_PORT", "APP_LOG_LEVEL", "APP_SEED_PATH", "APP_CASE_BASE_URL",
   "RUST_LOG", "HOME", "PWD", "USER"]

/-- The environment that the program is started in. -/
def readEnvironment : IO Environment := do
  let pairs ← variableNames.mapM fun name => do
    return (← IO.getEnv name).map fun value => (name, value)
  return Environment.ofPairs (pairs.filterMap id)

/-- A summary of the commands. -/
def usage : String :=
  "Usage: goods-review [serve | suggest-summaries]\n\n" ++
  "  serve               --host HOST --port PORT --seed FILE\n" ++
  "  suggest-summaries   --output FILE --unmatched FILE --remap FILE --base-url URL --seed FILE"

end ExportControl

open ExportControl in
/-- Does what the arguments ask for, and gives the exit code. -/
def main (arguments : List String) : IO UInt32 := do
  let ending ← CommandLine.run systemFiles (← readEnvironment) arguments
  match ending with
  | .done => pure ()
  | .help => IO.println usage
  | .version => IO.println "goods-review 0.1.0"
  | .misuse => IO.eprintln usage
  | .failed e => IO.eprintln (CommandLine.complaint e)
  | .serving socket _ => IO.println ("ready to listen on " ++ socket.render)
  return UInt32.ofNat ending.exitCode
