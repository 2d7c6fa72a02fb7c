/-
ExportControl.Settings.EnvFile — variables that a file sets.

A line sets one variable, as in `NAME=value`, with `export` in front or not. A
value may stand between quotes, in which case it may run over several lines, and
it may refer to variables that are set already. A number sign behind a blank
starts a comment. Reading stops at the first line that makes no sense.

* `EnvFile.statements` cuts a text into statements.
* `EnvFile.evaluate?` computes a value.
* `EnvFile.run` sets the variables of a text; those that are set already keep their
  values (`value?_run`).
-/
import ExportControl.Settings.Environment
import ExportControl.Text.Alphanumeric
import ExportControl.Text.Blank

namespace ExportControl.EnvFile

open Text (isBlank isAlphanumeric trimStart trimEnd)

/-! ## Statements -/

/-- Where in a statement the reader stands. -/
inductive Place where
  | plain
  | blank
  | escaped
  | single
  | singleEscaped
  | double
  | doubleEscaped
  deriving DecidableEq, Repr

/-- The place behind a character that starts no comment. -/
def Place.next (place : Place) (c : Char) : Place :=
  let opening : Place :=
    if c = '\\' then .escaped
    else if c = '"' then .double
    else if c = '\'' then .single
    else .plain
  match place with
  | .plain => if isBlank c && c != '\n' && c != '\r' then .blank else opening
  | .blank => opening
  | .escaped => .plain
  | .single => if c = '\\' then .singleEscaped else if c = '\'' then .plain else .single
  | .singleEscaped => .single
  | .double => if c = '\\' then .doubleEscaped else if c = '"' then .plain else .double
  | .doubleEscaped => .double

/-- The place at the end of a line, or the text of the line up to a comment. -/
def Place.atEnd (place : Place) (before : List Char) : List Char → Place ⊕ List Char
  | [] => .inl place
  | c :: rest =>
    if place = .blank ∧ c = '#' then .inr before.reverse
    else Place.atEnd (place.next c) (c :: before) rest

/-- The lines of a text with their line ends. -/
def lines : List Char → List (List Char)
  | [] => []
  | '\n' :: rest => ['\n'] :: lines rest
  | c :: rest =>
    match lines rest with
    | line :: others => (c :: line) :: others
    | [] => [[c]]

/-- The text of a statement, or none where the file breaks off inside it. -/
abbrev Statement := Option (List Char)

/-- The statements of a list of lines; `begun` holds the lines of a statement that has begun.
What has begun is dropped if it turns out to be a comment. -/
def statementsFrom (place : Place) (begun : List Char) : List (List Char) → List Statement
  | [] => if place = .plain then [] else [none]
  | line :: rest =>
    if (trimStart (begun ++ line)).head? = some '#' then
      some [] :: statementsFrom .plain [] rest
    else
      match Place.atEnd place [] line with
      | .inr text => some (begun ++ text) :: statementsFrom .plain [] rest
      | .inl .plain => some (begun ++ line) :: statementsFrom .plain [] rest
      | .inl place => statementsFrom place (begun ++ line) rest

/-- The statements of a text. -/
def statements (cs : List Char) : List Statement := statementsFrom .plain [] (lines cs)

/-! ## Values -/

/-- Where in a value the reader stands. -/
inductive Mode where
  | bare
  | single
  | double
  /-- Behind a backslash. -/
  | escaped (inDouble : Bool)
  /-- In the name of a variable behind a dollar sign; the letters read so far. -/
  | reference (inDouble : Bool) (name : List Char)
  /-- In the name of a variable between braces. -/
  | braced (inDouble : Bool) (name : List Char)
  /-- Behind the value, where only a comment may follow. -/
  | ended
  deriving DecidableEq, Repr

/-- Inside double quotes or outside all quotes. -/
def Mode.quotes (inDouble : Bool) : Mode := if inDouble then .double else .bare

/-- The value of a variable, nothing where it is not set. -/
def refer (environment : Environment) (name : List Char) : List Char :=
  ((environment.value? (String.ofList name)).getD "").toList

/-- The character that an escaped one stands for. -/
def unescape? (c : Char) : Option Char :=
  if c = '\\' ∨ c = '\'' ∨ c = '"' ∨ c = '$' ∨ c = ' ' then some c
  else if c = 'n' then some '\n'
  else none

/-- The rest of a value. Quotes have to be closed, and a name that is not between braces ends at
the first character that is no letter or number; that character stands for itself. -/
def evaluateFrom? (environment : Environment) : Mode → List Char → Option (List Char)
  | .bare, [] | .escaped false, [] | .ended, [] => some []
  | .reference false name, [] => some (refer environment name)
  | _, [] => none
  | .ended, c :: rest =>
    if c = ' ' ∨ c = '\t' then evaluateFrom? environment .ended rest
    else if c = '#' then some []
    else none
  | .escaped inDouble, c :: rest => do
    return (← unescape? c) :: (← evaluateFrom? environment (.quotes inDouble) rest)
  | .single, c :: rest =>
    if c = '\'' then evaluateFrom? environment .bare rest
    else (evaluateFrom? environment .single rest).map (c :: ·)
  | .reference inDouble name, c :: rest =>
    if isAlphanumeric c then evaluateFrom? environment (.reference inDouble (name ++ [c])) rest
    else if c = '\x7b' ∧ name = [] then evaluateFrom? environment (.braced inDouble []) rest
    else if c = '$' then
      (evaluateFrom? environment (.reference inDouble []) rest).map (refer environment name ++ ·)
    else
      (evaluateFrom? environment (.quotes inDouble) rest).map
        (refer environment name ++ c :: ·)
  | .braced inDouble name, c :: rest =>
    if c = '\x7d' then
      (evaluateFrom? environment (.quotes inDouble) rest).map (refer environment name ++ ·)
    else evaluateFrom? environment (.braced inDouble (name ++ [c])) rest
  | .double, c :: rest =>
    if c = '$' then evaluateFrom? environment (.reference true []) rest
    else if c = '"' then evaluateFrom? environment .bare rest
    else if c = '\\' then evaluateFrom? environment (.escaped true) rest
    else (evaluateFrom? environment .double rest).map (c :: ·)
  | .bare, c :: rest =>
    if c = '$' then evaluateFrom? environment (.reference false []) rest
    else if c = '\'' then evaluateFrom? environment .single rest
    else if c = '"' then evaluateFrom? environment .double rest
    else if c = '\\' then evaluateFrom? environment (.escaped false) rest
    else if c = ' ' ∨ c = '\t' then evaluateFrom? environment .ended rest
    else (evaluateFrom? environment .bare rest).map (c :: ·)

/-- The value that a text stands for, none where it makes no sense. -/
def evaluate? (environment : Environment) (cs : List Char) : Option (List Char) :=
  evaluateFrom? environment .bare cs

/-! ## Assignments -/

/-- A letter of ASCII or an underscore. -/
def startsName (c : Char) : Bool := c.isAlpha || c = '_'

/-- A character of a name. -/
def isNameChar (c : Char) : Bool := c.isAlphanum || c = '_' || c = '.'

/-- A name and what follows it and blanks. -/
def name? (cs : List Char) : Option (String × List Char) :=
  if (cs.head?.map startsName).getD false then
    some (String.ofList (cs.takeWhile isNameChar), trimStart (cs.dropWhile isNameChar))
  else none

/-- A name, an equals sign, and what follows them and blanks. -/
def target? (cs : List Char) : Option (String × List Char) := do
  match ← name? cs with
  | (name, '=' :: rest) => some (name, trimStart rest)
  | ("export", rest) =>
    match ← name? rest with
    | (name, '=' :: rest) => some (name, trimStart rest)
    | _ => none
  | _ => none

/-- Whether there is nothing but a comment. -/
def isVoid (cs : List Char) : Bool := cs.isEmpty || cs.head? == some '#'

/-- The variable that a statement sets, if it sets one; none where it makes no sense. -/
def assignment? (environment : Environment) (statement : List Char) : Option (Option Variable) :=
  let cs := trimStart (trimEnd statement)
  if isVoid cs then some none
  else do
    let (name, value) ← target? cs
    if isVoid value then return some { name, value := "" }
    return some { name, value := String.ofList (← evaluate? environment value) }

/-- Sets the variables of a list of statements that are not set yet, up to the first statement
that makes no sense. -/
def runAll (environment : Environment) : List Statement → Environment
  | [] => environment
  | none :: _ => environment
  | some statement :: rest =>
    match assignment? environment statement with
    | none => environment
    | some none => runAll environment rest
    | some (some v) => runAll (environment.add v) rest

/-- Sets the variables of a text that are not set yet. A byte order mark in front does not
count. -/
def run (environment : Environment) (text : String) : Environment :=
  let cs := text.toList
  runAll environment (statements (if cs.head? = some '\ufeff' then cs.drop 1 else cs))

theorem value?_runAll {environment : Environment} {name value : String}
    (h : environment.value? name = some value) (statements : List Statement) :
    (runAll environment statements).value? name = some value := by
  fun_induction runAll environment statements with
  | case1 => exact h
  | case2 => exact h
  | case3 => exact h
  | case4 environment statement rest _ ih => exact ih h
  | case5 environment statement rest v _ ih => exact ih (Environment.value?_add h v)

/-- What is set when a text is read counts before the text. -/
theorem value?_run {environment : Environment} {name value : String}
    (h : environment.value? name = some value) (text : String) :
    (run environment text).value? name = some value :=
  value?_runAll h _

end ExportControl.EnvFile
