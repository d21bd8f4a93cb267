import MailSearch.CommandLine.Run
import Std.Time.DateTime.Timestamp

/-!
# The program

Collects what surrounds the call, lets `MailSearch.CommandLine` decide, and prints. Only the
interactive mode is driven from here, one line at a time, so that each answer comes at once.
-/

namespace MailSearch.Program

open CommandLine

/-- The present. The range of instants covers every clock. -/
def clock : IO Instant := do
  let elapsed := (← Std.Time.Timestamp.now).toDurationSinceUnixEpoch
  match Instant.ofParts? elapsed.second.val elapsed.nano.val.toNat with
  | some now => return now
  | none => throw (IO.userError "the clock is out of range")

/-- The number of a failure. Some calls report it with a minus sign. -/
def failureNumber (code : UInt32) : Nat :=
  min code.toNat (0 - code).toNat

/-- The fault behind a failure to read. -/
def fileFault (e : IO.Error) : FileFault :=
  match e with
  | .noFileOrDirectory .. => .missing
  | .permissionDenied .. => .denied
  | .inappropriateType _ code _ => if failureNumber code = 20 then .notDirectory else .isDirectory
  | .invalidArgument _ code _ =>
    if failureNumber code = 36 then .nameTooLong else .other (toString e)
  | .userError _ => .notText
  | _ => .other (toString e)

/-- What a file holds, or why it cannot be read. -/
def fileContents (path : String) : IO (Except FileFault String) := do
  try
    return .ok (← IO.FS.readFile path)
  catch e => return .error (fileFault e)

/-- The file of settings at the usual place, if there is one. -/
def usualFile : IO (Option SettingsFile) := do
  let home ← IO.getEnv "HOME"
  let directory := (← IO.getEnv "XDG_CONFIG_HOME") <|> home.map (· ++ "/.config")
  match directory.map (· ++ "/mailq/config.toml") with
  | none => return none
  | some path =>
    match ← fileContents path with
    | .error .missing | .error .notDirectory | .error .isDirectory => return none
    | contents => return some ⟨path, contents⟩

/-- Answers lines until one ends the mode or there are no more. -/
partial def converse (c : Compiler) (now : Option Instant) : IO Unit := do
  let line ← (← IO.getStdin).getLine
  unless line.isEmpty do
    let a := Repl.answer c (now.getD (← clock)) line.toList
    IO.print a.out
    IO.eprint a.err
    unless a.ends do
      converse c now

/-- Prints an outcome and gives its status. -/
def conclude (o : Outcome) : IO UInt32 := do
  IO.print o.out
  IO.eprint o.err
  return o.status.toUInt32

end MailSearch.Program

open MailSearch MailSearch.CommandLine MailSearch.Program in
/-- The command line. -/
def main (args : List String) : IO UInt32 := do
  let environmentFile ← IO.getEnv "MAILQ_CONFIG"
  let invocation := Invocation.read environmentFile args
  let named :=
    match invocation with
    | .run settings _ => settings.config
    | _ => none
  let contents ← named.mapM fileContents
  let w : Surroundings :=
    { contents := fun _ => contents.getD (.error .missing)
      environmentFile, usualFile := ← usualFile, clock := ← clock, input := "" }
  match invocation with
  | .run settings .repl =>
    match loadConfig (settings.file? w) with
    | .ok config =>
      let c := settings.compiler config
      IO.print (Repl.greeting c)
      converse c settings.now
      return 0
    | .error _ => conclude (respond w invocation)
  | _ => conclude (respond w invocation)
