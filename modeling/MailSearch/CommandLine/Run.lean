import MailSearch.CommandLine.Arguments
import MailSearch.CommandLine.Repl

/-!
# Running a command

`run` says what a call of the program prints and with which status it ends, given what surrounds it:
files, an environment variable, the clock and the standard input. Only compiling needs settings; a
command that does not compile never looks at them, so a broken file of settings does not hinder it.
-/

namespace MailSearch.CommandLine

/-- A file of settings. -/
structure SettingsFile where
  /-- How the file is called in messages. -/
  path : String
  /-- What it holds, or the reason why it cannot be read. -/
  contents : Except FileFault String

/-- What surrounds a call of the program. -/
structure Surroundings where
  /-- What the file at a path holds, or the reason why it cannot be read. -/
  contents : String → Except FileFault String
  /-- The file of settings that the environment names. -/
  environmentFile : Option String
  /-- The file of settings at the usual place, if there is one. -/
  usualFile : Option SettingsFile
  /-- The present. -/
  clock : Instant
  /-- The standard input. -/
  input : String

/-- What a call of the program prints and how it ends. -/
structure Outcome where
  status : Nat := 0
  out : String := ""
  err : String := ""
deriving DecidableEq, Repr

/-- The call fails, with an explanation from the outside in. -/
def failure (reasons : List String) : Outcome :=
  { status := 1, err := "Error: " ++ String.intercalate ": " reasons ++ "\n" }

/-- What is printed if help is wanted, or if the arguments make no sense. -/
def usageText : String :=
  "Usage: mailq <QUERY> [OPTIONS]\n"

/-- The file that holds the settings: the one named, or the one at the usual place. -/
def Settings.file? (s : Settings) (w : Surroundings) : Option SettingsFile :=
  (s.config.map fun path => ⟨path, w.contents path⟩) <|> w.usualFile

/-- The compiler for a call. -/
def Settings.compiler (s : Settings) (config : Config) : Compiler :=
  let c := Compiler.ofConfig config s.entity
  { c with dialect := s.dialect.getD c.dialect }

/-- The settings of the compiler. There need not be a file of them. -/
def loadConfig : Option SettingsFile → Except Error Config
  | none => .ok {}
  | some file => Config.ofFile file.path file.contents

/-- Compiles a search and prints the SQL. -/
def compileTask (s : Settings) (c : Compiler) (now : Instant) (query : String) : Outcome :=
  match c.explain query now with
  | .error e => failure e.chain
  | .ok e =>
    match s.format with
    | some .json => { out := jsonText e.summary }
    | _ => { out := e.sql ++ "\n", err := if s.verbose then "Input: " ++ query ++ "\n" else "" }

/-- Compiles a search and prints every stage. -/
def explainTask (s : Settings) (c : Compiler) (now : Instant) (query : String) : Outcome :=
  match c.explain query now with
  | .error e => failure e.chain
  | .ok e =>
    match s.format with
    | some .json => { out := jsonText e.toJson }
    | _ => { out := explanationText e }

/-- Prints the lexemes of a search. -/
def tokensTask (s : Settings) (query : String) : Outcome :=
  match tokenize query with
  | .error e => failure e.chain
  | .ok lexemes =>
    match s.format with
    | some .json => { out := jsonText (.array (lexemes.map Lexeme.toJson)) }
    | _ => { out := tokensText lexemes }

/-- Answers the lines of a text. -/
def replTask (c : Compiler) (now : Instant) (input : String) : Outcome :=
  let (out, err) := Repl.transcript c now (Text.lines input.toList)
  { out := Repl.greeting c ++ out, err }

/-- Performs a task. -/
def perform (w : Surroundings) (s : Settings) (task : Task) : Outcome :=
  let now := s.now.getD w.clock
  let compiling (work : Compiler → Outcome) : Outcome :=
    match loadConfig (s.file? w) with
    | .error e => failure ("failed to load configuration" :: e.chain)
    | .ok config => work (s.compiler config)
  match task with
  | .banner => { out := bannerText }
  | .syntaxTable => { out := syntaxText }
  | .tokens query => tokensTask s query
  | .compile query => compiling fun c => compileTask s c now query
  | .explain query => compiling fun c => explainTask s c now query
  | .repl => compiling fun c => replTask c now w.input

/-- What the program does with what it is asked for. -/
def respond (w : Surroundings) : Invocation → Outcome
  | .version => { out := versionText }
  | .help => { out := usageText }
  | .misuse => { status := 2, err := usageText }
  | .run settings task => perform w settings task

/-- What a call of the program with these arguments does. -/
def run (w : Surroundings) (args : List String) : Outcome :=
  respond w (Invocation.read w.environmentFile args)

end MailSearch.CommandLine
