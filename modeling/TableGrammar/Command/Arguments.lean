import TableGrammar.Grammar.Catalog

/-!
The arguments of the command line.

An argument that starts with a hyphen and has more characters is an option or a cluster of
one-letter options; two hyphens alone make everything after them a plain argument. An option's value
may be attached to it, with or without an equals sign, or follow it as the next argument, which then
must not look like an option itself.
-/

namespace TableGrammar.Command

/-- An option that takes a value. -/
inductive Setting where
  | special
  | grammar
  deriving DecidableEq, Repr

/-- The letter of a setting. -/
def Setting.ofLetter? (c : Char) : Option Setting :=
  match c with
  | 's' => some .special
  | 'g' => some .grammar
  | _ => none

/-- The word of a setting. -/
def Setting.ofWord? (word : String) : Option Setting :=
  if word == "special" then some .special
  else if word == "grammar" then some .grammar
  else none

/-- What has been read of the arguments of a command. -/
structure Options where
  verbosity : Nat := 0
  special : Option String := none
  grammar : Option String := none
  /-- The plain arguments, the latest first. -/
  plain : List String := []

/-- Gives a setting its value, unless it has one. -/
def Options.set? (options : Options) (setting : Setting) (value : String) : Option Options :=
  match setting with
  | .special =>
    if options.special.isSome then none else some { options with special := some value }
  | .grammar =>
    if options.grammar.isSome then none else some { options with grammar := some value }

/-- Does an argument look like an option? -/
def isOption (argument : String) : Bool :=
  match argument.toList with
  | '-' :: _ :: _ => true
  | _ => false

/-- Reads a cluster of letters. If the last one is a setting without an attached value, the setting
is returned too: its value is the next argument. -/
def readCluster (withSettings : Bool) :
    Options → List Char → Option (Options × Option Setting)
  | options, [] => some (options, none)
  | options, c :: rest =>
    if c == 'v' then
      readCluster withSettings { options with verbosity := options.verbosity + 1 } rest
    else if !withSettings then none
    else
      match Setting.ofLetter? c, rest with
      | none, _ => none
      | some setting, [] => some (options, some setting)
      | some setting, '=' :: value =>
        (options.set? setting (String.ofList value)).map fun options => (options, none)
      | some setting, value =>
        (options.set? setting (String.ofList value)).map fun options => (options, none)

/-- Reads an option written as a word. -/
def readWord (withSettings : Bool) (options : Options) (word : List Char) :
    Option (Options × Option Setting) :=
  let name := String.ofList (word.takeWhile (· != '='))
  match word.dropWhile (· != '=') with
  | [] =>
    if name == "verbose" then some ({ options with verbosity := options.verbosity + 1 }, none)
    else if withSettings then (Setting.ofWord? name).map fun setting => (options, some setting)
    else none
  | _ :: value =>
    if withSettings then do
      let setting ← Setting.ofWord? name
      return (← options.set? setting (String.ofList value), none)
    else none

/-- Reads the arguments of a command. `pending` is the setting whose value is due. -/
def readOptions (withSettings : Bool) : Option Setting → Options → List String → Option Options
  | none, options, [] => some options
  | some _, _, [] => none
  | some setting, options, argument :: rest =>
    if isOption argument then none
    else (options.set? setting argument).bind fun options =>
      readOptions withSettings none options rest
  | none, options, argument :: rest =>
    match argument.toList with
    | ['-', '-'] => some { options with plain := rest.reverse ++ options.plain }
    | '-' :: '-' :: word =>
      (readWord withSettings options word).bind fun (options, pending) =>
        readOptions withSettings pending options rest
    | '-' :: letter :: letters =>
      (readCluster withSettings options (letter :: letters)).bind fun (options, pending) =>
        readOptions withSettings pending options rest
    | _ => readOptions withSettings none { options with plain := argument :: options.plain } rest

/-- How a text is to be cut and classified. -/
inductive Lexing where
  | standard
  | special (characters : String)
  | grammar (name : GrammarName)
  deriving DecidableEq, Repr

/-- What the program is asked to do. -/
inductive Task where
  /-- Show the table of a grammar. -/
  | table (name : GrammarName)
  /-- Parse a text. -/
  | parse (name : GrammarName) (text : String)
  /-- Show the tokens of a text. -/
  | tokens (lexing : Lexing) (text : String)
  /-- Parse each line of the input. -/
  | repl (name : GrammarName)
  deriving DecidableEq, Repr

/-- What a command line asks for. -/
inductive Request where
  | version
  | perform (verbosity : Nat) (task : Task)
  deriving DecidableEq, Repr

/-- How the options of the command that shows tokens say to cut the text; at most one of them may be
given. -/
def Options.lexing? (options : Options) : Option Lexing :=
  match options.special, options.grammar with
  | none, none => some .standard
  | some characters, none => some (.special characters)
  | none, some name => (GrammarName.ofText? name).map Lexing.grammar
  | some _, some _ => none

/-- The task of a command with its options. -/
def Options.task? (options : Options) (command : String) : Option Task :=
  match command, options.plain.reverse with
  | "table", [name] => (GrammarName.ofText? name).map Task.table
  | "parse", [name, text] => (GrammarName.ofText? name).map fun name => .parse name text
  | "tokens", [text] => options.lexing?.map fun lexing => .tokens lexing text
  | "repl", [name] => (GrammarName.ofText? name).map Task.repl
  | _, _ => none

/-- Reads a cluster of letters before the command: how often the verbose flag stands in it, or that
the version is asked for. -/
def readLeadingCluster : Nat → List Char → Option (Option Nat)
  | verbosity, [] => some (some verbosity)
  | verbosity, c :: rest =>
    if c == 'v' then readLeadingCluster (verbosity + 1) rest
    else if c == 'V' then some none
    else none

/-- Reads a command line. The verbose flag counts where it stands after the command, and before it
only if there is none after. Nothing is returned for a command line that makes no sense. -/
def readRequest (verbosity : Nat) : List String → Option Request
  | [] => none
  | argument :: rest =>
    match argument.toList with
    | '-' :: '-' :: word =>
      let word := String.ofList word
      if word == "verbose" then readRequest (verbosity + 1) rest
      else if word == "version" then some .version
      else none
    | '-' :: letter :: letters =>
      match readLeadingCluster verbosity (letter :: letters) with
      | none => none
      | some none => some .version
      | some (some verbosity) => readRequest verbosity rest
    | _ => do
      let options ← readOptions (argument == "tokens") none {} rest
      let task ← options.task? argument
      return .perform (if options.verbosity = 0 then verbosity else options.verbosity) task

end TableGrammar.Command
