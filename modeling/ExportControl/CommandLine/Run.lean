/-
ExportControl.CommandLine.Run — what the program does.

* `suggestSummaries` writes the suggestions for a catalog to files.
* `prepareService` reads all that the service needs, and gives the address to listen
  on.
* `run` does what the arguments ask for.

All of it works with any file system that can be read and written.
-/
import ExportControl.Catalog.Document
import ExportControl.CommandLine.Arguments
import ExportControl.CommandLine.Files
import ExportControl.Failure
import ExportControl.Settings.EnvFile
import ExportControl.Suggestion.Corrections
import ExportControl.Suggestion.Report

namespace ExportControl.CommandLine

open Text (Glyph)
open Suggestion (Suggester Row)

/-- How the program ends. -/
inductive Ending where
  /-- There is nothing left to do. -/
  | done
  | help
  | version
  /-- The arguments make no sense. -/
  | misuse
  | failed (e : AppError)
  /-- The service is to answer at an address from now on. -/
  | serving (socket : Socket) (catalog : Catalog)

section

variable {m : Type → Type} [Monad m] (files : FileAccess m)

/-- The characters before the first stray byte, without the line it stands in. -/
def soundLines (gs : List Glyph) : List Char :=
  match Glyph.toChars? gs with
  | some cs => cs
  | none =>
    let sound := gs.takeWhile fun g => (Glyph.toChars? [g]).isSome
    ((((Glyph.toChars? sound).getD []).reverse).dropWhile (· ≠ '\n')).reverse

/-- The environment with the variables of the file `.env`. -/
def withEnvFile (environment : Environment) : m Environment := do
  match ← files.read ".env" with
  | .content gs => return EnvFile.run environment (String.ofList (soundLines gs))
  | _ => return environment

/-- The catalog of a file; without a file it is empty. -/
def loadCatalog : Option String → ExceptT AppError m Catalog
  | none => return .ofSeed .empty
  | some path => do
    match ← files.read path with
    | .refused reason => throw (.file reason)
    | .unreadable => throw (.seed .malformed)
    | .content gs =>
      match Seed.read gs with
      | .ok seed => return .ofSeed seed
      | .error defect => throw (.seed defect)

/-- The corrections of a file; without a file there are none. -/
def loadRemap : Option String → ExceptT AppError m Remap
  | none => return .empty
  | some path => do
    match ← files.read path with
    | .refused reason => throw (.suggestion (.file reason))
    | .unreadable => throw (.suggestion .unreadableTable)
    | .content gs =>
      match Remap.ofCsv gs with
      | .ok remap => return remap
      | .error fault => throw (.suggestion (.table fault))

/-- Writes rows to a file. -/
def writeRows (path : String) (rows : List Row) : ExceptT AppError m Unit := do
  match ← files.write path (Row.csv rows) with
  | none => return ()
  | some reason => throw (.file reason)

/-- The settings. -/
def settings (environment : Environment) : Except AppError Config :=
  (Config.load environment).mapError .config

/-- The address to listen on: as the arguments have it, or else the settings. -/
def serviceSocket (config : Config) (options : ServeOptions) : Except AppError Socket :=
  (Config.socketOf (options.host.getD config.host) (options.port.getD config.port)).mapError
    .config

/-- Fails where the log filter cannot be read. -/
def checkFilter (environment : Environment) (config : Config) : Except AppError Unit :=
  match config.logFilter environment with
  | .ok _ => .ok ()
  | .error e => .error (.telemetry e)

/-- Writes the suggestions for a catalog to files. -/
def suggestSummaries (environment : Environment) (options : SuggestOptions) :
    ExceptT AppError m Unit := do
  let config ← settings environment
  checkFilter environment config
  let catalog ← loadCatalog files (options.seed <|> config.seedPath)
  let remap ← loadRemap files options.remap
  let suggester := Suggester.ofCatalog catalog remap (options.baseUrl <|> config.caseBaseUrl)
  let report := suggester.report catalog.candidates
  writeRows files options.output report.matched
  match options.unmatched with
  | some path => writeRows files path report.unmatched
  | none => return ()

/-- Reads all that the service needs. -/
def prepareService (environment : Environment) (options : ServeOptions) :
    ExceptT AppError m (Socket × Catalog) := do
  let config ← settings environment
  checkFilter environment config
  let catalog ← loadCatalog files (options.seed <|> config.seedPath)
  let socket ← serviceSocket config options
  return (socket, catalog)

/-- Does what the arguments ask for. -/
def run (environment : Environment) (arguments : List String) : m Ending := do
  match Invocation.ofArguments arguments with
  | .showHelp => return .help
  | .showVersion => return .version
  | .misuse => return .misuse
  | .suggest options =>
    let environment ← withEnvFile files environment
    match ← (suggestSummaries files environment options).run with
    | .ok () => return .done
    | .error e => return .failed e
  | .serve options =>
    let environment ← withEnvFile files environment
    match ← (prepareService files environment options).run with
    | .ok (socket, catalog) => return .serving socket catalog
    | .error e => return .failed e

end

/-- The exit code of the program; a service never ends by itself. -/
def Ending.exitCode : Ending → Nat
  | failed _ => 1
  | misuse => 2
  | done | help | version | serving .. => 0

/-- What is said about a failure. -/
def complaint (e : AppError) : String := "application error: " ++ e.message

end ExportControl.CommandLine
