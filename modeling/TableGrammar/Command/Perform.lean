import TableGrammar.Command.Arguments
import TableGrammar.Regex.Compile
import TableGrammar.Text.Blank

/-!
What the program prints.

A command is a function from its arguments and its input to the text on both outputs and the exit
code.
-/

namespace TableGrammar.Command

/-- What a command leaves behind. -/
structure Output where
  code : Nat := 0
  /-- Standard output. -/
  printed : String := ""
  /-- Standard error. -/
  complaints : String := ""
  deriving DecidableEq, Repr

/-- Pads a text on the right to a width. -/
def padRight (width : Nat) (text : String) : String :=
  text ++ String.ofList (List.replicate (width - text.length) ' ')

/-- A text in which every line after the first is indented. -/
def indentLines (text : String) : String :=
  "\n    ".intercalate (text.splitOn "\n")

/-- An event as a line of the log. -/
def logLine (event : Event) : String :=
  "[" ++ padRight 5 event.level.name ++ " " ++ event.origin ++ "] "
    ++ indentLines event.message ++ "\n"

/-- The lines of the log that a verbosity shows. -/
def logText (verbosity : Nat) (events : List Event) : String :=
  String.join ((events.filter fun event => event.level.verbosity ≤ verbosity).map logLine)

/-- The line for a token: its kind and its value. -/
def tokenLine (token : Token) : String :=
  padRight 10 token.kind.name ++ " " ++ token.value ++ "\n"

/-- The lexer that is asked for, and what is reported when it is made. -/
def Lexing.lexer : Lexing → Lexer × List Event
  | .standard => ({}, [])
  | .special characters => ({ special := characters.toList }, [])
  | .grammar name => (name.grammar.lexer, [name.builtEvent])

/-- The lines of an input: each ends with a line feed, which a carriage return may precede. What
follows the last one is a line of its own, unless it is empty. -/
def inputLines (bytes : List UInt8) : List (List UInt8) :=
  let lines := go [] bytes
  match lines.reverse with
  | [] :: others => others.reverse
  | _ => lines
where
  go (current : List UInt8) : List UInt8 → List (List UInt8)
    | [] => [current.reverse]
    | byte :: rest =>
      if byte == 10 then
        let line := match current with
          | 13 :: others => others
          | _ => current
        line.reverse :: go [] rest
      else
        go (byte :: current) rest

/-- What is printed and reported for one line of the input. A line that is no text is complained
about, and a blank one is passed over. -/
def replyToLine (name : GrammarName) (line : List UInt8) : String × List Event :=
  match String.fromUTF8? ⟨line.toArray⟩ with
  | none => ("stream did not contain valid UTF-8\n  (press control-d to exit)\n", [])
  | some text =>
    if Text.isAllBlank text then ("", [])
    else
      let printed := match name.grammar.parse text with
        | .ok result => "//> " ++ result ++ "\n"
        | .error failure => "error: " ++ failure.message ++ "\n"
      (printed, name.grammar.grammar.events text)

/-- Carries out a task. -/
def Task.perform (verbosity : Nat) (input : List UInt8) : Task → Output
  | .table name =>
    { printed := name.grammar.tableText, complaints := logText verbosity [name.builtEvent] }
  | .parse name text =>
    let log := logText verbosity (name.builtEvent :: name.grammar.grammar.events text)
    match name.grammar.parse text with
    | .ok result => { printed := result ++ "\n", complaints := log }
    | .error failure =>
      { code := 1, complaints := log ++ "Error: " ++ failure.message ++ "\n" }
  | .tokens lexing text =>
    let (lexer, events) := lexing.lexer
    let cursor := lexer.tokenize text
    { printed := String.join (cursor.tokens.map tokenLine)
      complaints := logText verbosity (events ++ [cursor.lexedEvent]) }
  | .repl name =>
    let replies := (inputLines input).map (replyToLine name)
    { printed := String.join (replies.map Prod.fst)
      complaints := logText verbosity (name.builtEvent :: replies.flatMap Prod.snd) }

/-- The name and version of the program. -/
def versionText : String := "tableparse 0.1.0\n"

/-- The exit code of a command line that makes no sense. -/
def usageCode : Nat := 2

/-- Runs a command line on an input. -/
def run (arguments : List String) (input : List UInt8) : Output :=
  match readRequest 0 arguments with
  | none => { code := usageCode }
  | some .version => { printed := versionText }
  | some (.perform verbosity task) => task.perform verbosity input

end TableGrammar.Command
