import MailSearch.CommandLine.Output
import MailSearch.Text.Backspace

/-!
# The interactive mode

Each line is a search, an instruction, or blank. `Repl.answer` says what a line prints and whether
it is the last one; `Repl.transcript` puts together what all lines of a text print.
-/

namespace MailSearch.CommandLine.Repl

/-- What a line prints, on the two output streams, and whether it ends the mode. -/
structure Answer where
  out : String := ""
  err : String := ""
  ends : Bool := false
deriving DecidableEq, Repr

/-- What is printed at the beginning. -/
def greeting (c : Compiler) : String :=
  unlines ["mailq REPL - Interactive Mode", "Compiling for " ++ c.entity.name,
    "  .exit          - Exit the REPL", "  .help          - Show the search syntax",
    "  .explain <query> - Show every stage for <query>", ""]

/-- The text after a beginning, if it begins so. -/
def after? (beginning : List Char) (cs : List Char) : Option (List Char) :=
  if beginning.isPrefixOf cs then some (cs.drop beginning.length) else none

/-- Compiles a search, and shows the trees if `trees` says so. -/
def search (c : Compiler) (now : Instant) (text : String) (trees : Bool) : Answer :=
  match c.explain text now with
  | .error e => { err := "✗ " ++ e.message ++ "\n" }
  | .ok e =>
    let stages :=
      if trees then
        ["  parsed    " ++ e.parsed.display, "  condensed " ++ e.condensed.display]
      else []
    { out := unlines (stages ++ ["→ " ++ e.sql, ""]) }

/-- What a line prints, after its backspaces and without the blanks at its ends. `.explain` is an
instruction even if no blank follows it. -/
def answer (c : Compiler) (now : Instant) (line : List Char) : Answer :=
  let line := Text.trim (Text.applyBackspaces line)
  match String.ofList line with
  | "" => {}
  | ".exit" | ".quit" | "exit" | "quit" => { ends := true }
  | ".help" | "help" => { out := syntaxText }
  | ".clear" | "clear" => { out := "\x1b[2J\x1b[1;1H" }
  | text =>
    match after? ".explain".toList line with
    | some rest => search c now (String.ofList (Text.trim rest)) true
    | none => search c now text false

/-- What lines print, up to the one that ends the mode. -/
def transcript (c : Compiler) (now : Instant) : List (List Char) → String × String
  | [] => ("", "")
  | line :: rest =>
    let a := answer c now line
    if a.ends then (a.out, a.err)
    else
      let (out, err) := transcript c now rest
      (a.out ++ out, a.err ++ err)

end MailSearch.CommandLine.Repl
