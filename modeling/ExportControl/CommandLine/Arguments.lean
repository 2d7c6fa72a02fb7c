/-
ExportControl.CommandLine.Arguments — what the program is asked to do.

The first argument names a command; without one the service is started. A command
takes options, each at most once, with the value behind an equals sign or in the
next argument.

* `Invocation.ofArguments` reads the arguments from left to right and stops at the
  first that asks for help or makes no sense.
-/
import ExportControl.Text.Digit

namespace ExportControl.CommandLine

/-- What `serve` is told. -/
structure ServeOptions where
  host : Option String
  port : Option UInt16
  seed : Option String
  deriving DecidableEq, Repr

/-- What `suggest-summaries` is told. -/
structure SuggestOptions where
  output : String
  unmatched : Option String
  remap : Option String
  baseUrl : Option String
  seed : Option String
  deriving DecidableEq, Repr

/-- What the program is asked to do. -/
inductive Invocation where
  | serve (options : ServeOptions)
  | suggest (options : SuggestOptions)
  | showHelp
  | showVersion
  /-- The arguments make no sense. -/
  | misuse
  deriving DecidableEq, Repr

/-! ## Values -/

/-- A port: a number with an optional sign, from 0 to 65535. -/
def port? (s : String) : Option UInt16 :=
  let bounded (n : Nat) : Option UInt16 := if n < UInt16.size then some (UInt16.ofNat n) else none
  match s.toList with
  | '+' :: digits => (Text.natOfDigits? digits).bind bounded
  | '-' :: digits => ((Text.natOfDigits? digits).filter (· = 0)).bind bounded
  | digits => (Text.natOfDigits? digits).bind bounded

/-- A value that is not empty. -/
def isPath (s : String) : Bool := s != ""

/-! ## Options -/

/-- An option by name, and which values it takes. -/
structure OptionRule where
  name : String
  accepts : String → Bool

/-- The options that are given, with their values. -/
abbrev Given := List (String × String)

/-- What the arguments behind a command say. -/
inductive Reading where
  | options (given : Given)
  | help
  | misuse
  deriving DecidableEq, Repr

/-- Whether an argument can be the value of the option before it. -/
def isValue (arg : String) : Bool := arg = "-" || !arg.startsWith "-"

/-- The text behind two dashes, as a name and the value behind an equals sign. -/
def long? (arg : String) : Option (String × Option String) :=
  match arg.toList with
  | '-' :: '-' :: cs =>
    let name := cs.takeWhile (· ≠ '=')
    some (String.ofList name,
      if name.length < cs.length then some (String.ofList (cs.drop (name.length + 1))) else none)
  | _ => none

/-- One more option, unless it is unknown, given before or of a wrong value. -/
def take? (rules : List OptionRule) (given : Given) (name value : String) : Option Given :=
  if (rules.any fun rule => rule.name = name && rule.accepts value) && (given.lookup name).isNone
  then some (given ++ [(name, value)])
  else none

/-- Reads the arguments behind a command. -/
def readOptions (rules : List OptionRule) (given : Given) : List String → Reading
  | [] => .options given
  | arg :: rest =>
    if arg = "--" then if rest.isEmpty then .options given else .misuse
    else if arg.startsWith "-h" then .help
    else
      match long? arg, rest with
      | none, _ => .misuse
      | some ("help", none), _ => .help
      | some (name, some value), rest =>
        match take? rules given name value with
        | some given => readOptions rules given rest
        | none => .misuse
      | some (_, none), [] => .misuse
      | some (name, none), value :: rest =>
        if isValue value then
          match take? rules given name value with
          | some given => readOptions rules given rest
          | none => .misuse
        else .misuse

/-! ## Commands -/

/-- The options of `serve`. -/
def serveRules : List OptionRule :=
  [⟨"host", fun _ => true⟩, ⟨"port", fun s => (port? s).isSome⟩, ⟨"seed", isPath⟩]

/-- The options of `suggest-summaries`. -/
def suggestRules : List OptionRule :=
  [⟨"output", isPath⟩, ⟨"unmatched", isPath⟩, ⟨"remap", isPath⟩, ⟨"base-url", fun _ => true⟩,
   ⟨"seed", isPath⟩]

/-- The options of `serve` from those given. -/
def serveOf (given : Given) : Invocation :=
  .serve
    { host := given.lookup "host"
      port := (given.lookup "port").bind port?
      seed := given.lookup "seed" }

/-- The options of `suggest-summaries` from those given; there has to be an output. -/
def suggestOf (given : Given) : Invocation :=
  match given.lookup "output" with
  | some output =>
    .suggest
      { output
        unmatched := given.lookup "unmatched"
        remap := given.lookup "remap"
        baseUrl := given.lookup "base-url"
        seed := given.lookup "seed" }
  | none => .misuse

/-- What a command is asked to do. -/
def Reading.invoke (make : Given → Invocation) : Reading → Invocation
  | .options given => make given
  | .help => .showHelp
  | .misuse => .misuse

/-- The commands that there is help about. -/
def commands : List String := ["serve", "suggest-summaries", "help"]

/-- What the arguments of the program ask for. -/
def Invocation.ofArguments : List String → Invocation
  | [] | ["--"] => serveOf []
  | "serve" :: rest => (readOptions serveRules [] rest).invoke serveOf
  | "suggest-summaries" :: rest => (readOptions suggestRules [] rest).invoke suggestOf
  | ["help"] => .showHelp
  | ["help", command] => if command ∈ commands then .showHelp else .misuse
  | arg :: _ =>
    if arg = "--help" ∨ arg.startsWith "-h" then .showHelp
    else if arg = "--version" ∨ arg.startsWith "-V" then .showVersion
    else .misuse

end ExportControl.CommandLine
