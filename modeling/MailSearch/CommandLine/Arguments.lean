import MailSearch.Calendar.Timestamp
import MailSearch.Sql.Dialect

/-!
# Command-line arguments

    mailq [QUERY] [OPTIONS]
    mailq explain QUERY | tokens QUERY | repl | syntax | help [COMMAND]

Options may stand before or after a command, and each may be given once on either side; the one
after the command counts. A value is attached (`-eX`, `-e=X`, `--entity=X`) or is the next argument,
which must not look like an option. Short flags can be joined (`-vfjson`). After `--` everything is
an operand. A query in front of a command is ignored. After `help` there are no options and no
operands, only the name of a command that help is wanted on.

`Invocation.read` goes through the arguments from left to right and stops at the first that is
wrong, or at a request for the version or for help.
-/

namespace MailSearch.CommandLine

/-- How results are printed. -/
inductive Format where
  | text
  | json
deriving DecidableEq, Repr

/-- The format of a name. -/
def Format.ofName? : String → Option Format
  | "text" => some .text
  | "json" => some .json
  | _ => none

/-- What the options say. -/
structure Settings where
  entity : Option String := none
  dialect : Option Dialect := none
  now : Option Instant := none
  /-- The file that holds the settings of the compiler. -/
  config : Option String := none
  format : Option Format := none
  verbose : Bool := false
deriving DecidableEq, Repr

/-- Options after a command win over those before it. -/
def Settings.over (inner outer : Settings) : Settings where
  entity := inner.entity <|> outer.entity
  dialect := inner.dialect <|> outer.dialect
  now := inner.now <|> outer.now
  config := inner.config <|> outer.config
  format := inner.format <|> outer.format
  verbose := inner.verbose || outer.verbose

/-- The commands. -/
inductive Command where
  | explain
  | tokens
  | repl
  | syntaxTable
  | help
deriving DecidableEq, Repr

/-- The command of a name. -/
def Command.ofName? : String → Option Command
  | "explain" => some .explain
  | "tokens" => some .tokens
  | "repl" => some .repl
  | "syntax" => some .syntaxTable
  | "help" => some .help
  | _ => none

/-- What is to be done. -/
inductive Task where
  /-- Nothing was asked for. -/
  | banner
  | compile (query : String)
  | explain (query : String)
  | tokens (query : String)
  | repl
  | syntaxTable
deriving DecidableEq, Repr

/-- What the arguments ask for. -/
inductive Invocation where
  | version
  | help
  /-- The arguments make no sense. -/
  | misuse
  | run (settings : Settings) (task : Task)
deriving DecidableEq, Repr

/-- The options that take a value. -/
inductive Parameter where
  | entity
  | dialect
  | now
  | config
  | format
deriving DecidableEq, Repr

/-- The option of a long name. -/
def Parameter.ofName? : String → Option Parameter
  | "entity" => some .entity
  | "dialect" => some .dialect
  | "now" => some .now
  | "config" => some .config
  | "format" => some .format
  | _ => none

/-- The option of a short name; `now` has none. -/
def Parameter.ofLetter? : Char → Option Parameter
  | 'e' => some .entity
  | 'd' => some .dialect
  | 'c' => some .config
  | 'f' => some .format
  | _ => none

/-- Why reading stops before the last argument. -/
inductive Stop where
  | version
  | help
  | misuse
deriving DecidableEq, Repr

/-- Fills a place that has to be empty with a value that has to be there. -/
def fill {α : Type} (place value : Option α) : Except Stop (Option α) :=
  match place, value with
  | none, some v => .ok (some v)
  | _, _ => .error .misuse

/-- Sets an option that was not set before to a value that it can have. -/
def Settings.assign (s : Settings) (value : String) : Parameter → Except Stop Settings
  | .entity => do return { s with entity := ← fill s.entity (some value) }
  | .dialect => do return { s with dialect := ← fill s.dialect (Dialect.parse value).toOption }
  | .now => do return { s with now := ← fill s.now (Timestamp.read? value.toList) }
  | .config => do
    return { s with config := ← fill s.config (if value.isEmpty then none else some value) }
  | .format => do return { s with format := ← fill s.format (Format.ofName? value) }

/-- How far the arguments have been read. -/
structure Progress where
  /-- The command, once it was read. -/
  command : Option Command := none
  /-- The options before the command. -/
  outer : Settings := {}
  /-- The options since the command, or since the beginning if there is none yet. -/
  settings : Settings := {}
  /-- The operand since the command, or since the beginning. -/
  operand : Option String := none
  /-- The option whose value is the next argument. -/
  pending : Option Parameter := none
  /-- The argument `--` was read. -/
  operandsOnly : Bool := false
deriving DecidableEq, Repr

namespace Progress

/-- Takes an argument as operand. Two commands have none, everything else has at most one. That of
`help` names a command. -/
def takeOperand (p : Progress) (arg : String) : Except Stop Progress :=
  match p.command with
  | some .repl | some .syntaxTable => .error .misuse
  | some .help => do
    return { p with operand := ← fill p.operand ((Command.ofName? arg).map fun _ => arg) }
  | _ => do return { p with operand := ← fill p.operand (some arg) }

/-- Sets an option. -/
def assign (p : Progress) (o : Parameter) (value : String) : Except Stop Progress := do
  return { p with settings := ← p.settings.assign value o, pending := none }

/-- Sets the flag, which may be given once. -/
def setVerbose (p : Progress) : Except Stop Progress :=
  if p.settings.verbose then .error .misuse
  else .ok { p with settings := { p.settings with verbose := true } }

/-- The version is asked for before a command only. -/
def askVersion (p : Progress) : Stop :=
  if p.command.isNone then .version else .misuse

/-- Reads a long option, whose name and value come after the two dashes. -/
def takeLong (p : Progress) (cs : List Char) : Except Stop Progress :=
  let name := String.ofList (cs.takeWhile (· != '='))
  let value? :=
    match cs.dropWhile (· != '=') with
    | [] => none
    | _ :: value => some (String.ofList value)
  match Parameter.ofName? name, value? with
  | some o, some value => p.assign o value
  | some o, none => .ok { p with pending := some o }
  | none, none =>
    if name == "verbose" then p.setVerbose
    else if name == "version" then .error p.askVersion
    else if name == "help" then .error .help
    else .error .misuse
  | none, some _ => .error .misuse

/-- Reads short options after one dash. The first that takes a value takes what is left. -/
def takeShort (p : Progress) : List Char → Except Stop Progress
  | [] => .ok p
  | 'v' :: cs => do (← p.setVerbose).takeShort cs
  | 'V' :: _ => .error p.askVersion
  | 'h' :: _ => .error .help
  | c :: cs =>
    match Parameter.ofLetter? c, cs with
    | none, _ => .error .misuse
    | some o, [] => .ok { p with pending := some o }
    | some o, '=' :: value => p.assign o (String.ofList value)
    | some o, value => p.assign o (String.ofList value)

/-- Reads one argument. A single dash is not an option, and after `help` nothing is. -/
def take (p : Progress) (arg : String) : Except Stop Progress :=
  if p.operandsOnly || p.command = some .help then p.takeOperand arg
  else
    match p.pending, arg.toList with
    | some _, '-' :: _ :: _ => .error .misuse
    | some o, _ => p.assign o arg
    | none, ['-', '-'] => .ok { p with operandsOnly := true }
    | none, '-' :: '-' :: cs => p.takeLong cs
    | none, '-' :: c :: cs => p.takeShort (c :: cs)
    | none, _ =>
      match if p.command.isNone then Command.ofName? arg else none with
      | some c => .ok { command := some c, outer := p.settings }
      | none => p.takeOperand arg

/-- What was asked for, once all arguments are read. -/
def task (p : Progress) : Except Stop Task :=
  match p.command, p.operand with
  | none, none => .ok .banner
  | none, some query => .ok (.compile query)
  | some .explain, some query => .ok (.explain query)
  | some .tokens, some query => .ok (.tokens query)
  | some .explain, none | some .tokens, none => .error .misuse
  | some .repl, _ => .ok .repl
  | some .syntaxTable, _ => .ok .syntaxTable
  | some .help, _ => .error .help

/-- The settings that were given. `environmentFile` is the environment's file of settings. It stands
in on each side of a command that gives none; then it must not be empty. Help needs no settings. -/
def finish (p : Progress) (environmentFile : Option String) : Except Stop Invocation := do
  let standsIn := p.settings.config.isNone || (p.command.isSome && p.outer.config.isNone)
  if p.command = some .help then .error .help
  else if p.pending.isSome || (standsIn && environmentFile == some "") then .error .misuse
  else
    let settings := p.settings.over p.outer
    let task ← p.task
    return .run { settings with config := settings.config <|> environmentFile } task

end Progress

/-- The invocation that a stop amounts to. -/
def Stop.invocation : Stop → Invocation
  | version => .version
  | help => .help
  | misuse => .misuse

/-- What the arguments ask for. -/
def Invocation.read (environmentFile : Option String) (args : List String) : Invocation :=
  match args.foldlM Progress.take {} >>= fun p => p.finish environmentFile with
  | .error stop => stop.invocation
  | .ok invocation => invocation

end MailSearch.CommandLine
