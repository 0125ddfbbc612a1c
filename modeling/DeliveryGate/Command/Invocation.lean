/-!
# Command lines

What a command line asks for: a task on a file, a text about the program, or nothing that the
program knows. Arguments are taken in order, so that a question for help counts if it comes before a
mistake.
-/

namespace DeliveryGate

namespace Command

/-- What is done with a file. -/
inductive Action where
  | evaluate
  | summarize
  deriving DecidableEq

/-- What a command line asks for. -/
inductive Invocation where
  | run (action : Action) (file : String)
  | explain (text : String)
  | misuse
  deriving DecidableEq

/-! ### Texts about the program -/

def lines (texts : List String) : String := String.join (texts.map (· ++ "\n"))

def versionText : String := lines ["stepfilter 0.1.0"]

def helpText : String :=
  lines ["Usage: stepfilter <COMMAND>", "", "Commands:",
    "  evaluate   Evaluate a step's filters from a fixture file",
    "  summarize  Summarize a list of evaluated conditions by filter kind",
    "  help       Print this message or the help of the given subcommand(s)", "", "Options:",
    "  -h, --help     Print help", "  -V, --version  Print version"]

def helpHelpText : String :=
  lines ["Print this message or the help of the given subcommand(s)", "",
    "Usage: stepfilter help [COMMAND]...", "", "Arguments:",
    "  [COMMAND]...  Print help for the subcommand(s)"]

namespace Action

/-- The help of an action. -/
def helpText : Action → String
  | .evaluate =>
    lines ["Evaluate a step's filters from a fixture file", "",
      "Usage: stepfilter evaluate --file <FILE>", "", "Options:",
      "  -f, --file <FILE>  Path to the fixture (YAML or JSON)",
      "  -h, --help         Print help"]
  | .summarize =>
    lines ["Summarize a list of evaluated conditions by filter kind", "",
      "Usage: stepfilter summarize --file <FILE>", "", "Options:",
      "  -f, --file <FILE>  Path to a JSON or YAML list of conditions",
      "  -h, --help         Print help"]

/-- The actions by name. -/
def names : List (String × Action) := [("evaluate", .evaluate), ("summarize", .summarize)]

end Action

/-! ### Arguments -/

/-- An argument by its form. -/
inductive Argument where
  /-- The mark behind which there are no options. -/
  | stop
  | long (name : String) (value : Option String)
  /-- Letters behind one hyphen. -/
  | short (letter : Char) (rest : List Char)
  | plain (text : String)

namespace Argument

/-- The form of an argument. A lone hyphen is a plain text. -/
def ofText (text : String) : Argument :=
  match text.toList with
  | ['-', '-'] => .stop
  | '-' :: '-' :: cs =>
    match cs.dropWhile (· ≠ '=') with
    | _ :: value => .long (String.ofList (cs.takeWhile (· ≠ '='))) (some (String.ofList value))
    | [] => .long (String.ofList cs) none
  | '-' :: letter :: rest => .short letter rest
  | _ => .plain text

/-- The value that the letters behind that of an option give; an equals sign does not belong to it.
-/
def attached? : List Char → Option String
  | [] => none
  | '=' :: value => some (String.ofList value)
  | value => some (String.ofList value)

end Argument

namespace Invocation

/-- What the arguments of an action ask for, given the file that is known already; `waiting` says
whether the option for the file waits for its value. The file is given once. -/
def ofOptions (action : Action) (waiting : Bool) (file : Option String) : List String → Invocation
  | [] => if waiting then .misuse else (file.map (.run action ·)).getD .misuse
  | text :: rest =>
    match waiting, Argument.ofText text with
    | true, .plain value =>
      if file.isSome then .misuse else ofOptions action false (some value) rest
    | true, _ => .misuse
    | false, .long "file" none => ofOptions action true file rest
    | false, .long "file" (some value) =>
      if file.isSome then .misuse else ofOptions action false (some value) rest
    | false, .short 'f' letters =>
      match Argument.attached? letters with
      | some value => if file.isSome then .misuse else ofOptions action false (some value) rest
      | none => ofOptions action true file rest
    | false, .long "help" none => .explain action.helpText
    | false, .short 'h' _ => .explain action.helpText
    | false, .stop => if rest.isEmpty then ofOptions action false file rest else .misuse
    | false, _ => .misuse

/-- What a question for the help of some commands asks for. -/
def ofHelp : List String → Invocation
  | [] => .explain helpText
  | ["help"] => .explain helpHelpText
  | [name] => ((Action.names.lookup name).map fun action => .explain action.helpText).getD .misuse
  | _ => .misuse

/-- What a command line asks for. -/
def ofArguments : List String → Invocation
  | [] => .misuse
  | text :: rest =>
    match Argument.ofText text with
    | .long "help" none => .explain helpText
    | .long "version" none => .explain versionText
    | .short 'h' _ => .explain helpText
    | .short 'V' _ => .explain versionText
    | .plain "help" => ofHelp rest
    | .plain name =>
      ((Action.names.lookup name).map fun action => ofOptions action false none rest).getD .misuse
    | _ => .misuse

end Invocation

end Command

end DeliveryGate
