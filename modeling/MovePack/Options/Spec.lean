/-
# Options of commands

A command has options, and it either does something itself or has sub commands, one of which must
be chosen.  An option has a long name, perhaps a short one, and takes no word, one word, or all
words up to the next option.
-/
import MovePack.Account.Checksummed
import MovePack.Number.Numeral
import MovePack.Text.Quoted

namespace MovePack.Options

/-- How many words an option takes. -/
inductive Arity where
  /-- None: the option is given or not. -/
  | none
  /-- Exactly one. -/
  | one
  /-- All up to the next option. -/
  | many
deriving DecidableEq, Repr

/-- What a word of an option has to be. -/
inductive ValueKind where
  /-- Any text. -/
  | text
  /-- The checksummed form of an account. -/
  | account
  /-- A natural number up to a bound, of a named type. -/
  | unsigned (bound : Nat) (typeName : String)
deriving Repr

/-- The value of a word. -/
inductive Value where
  /-- A text as it was given. -/
  | text (t : Text)
  /-- A number. -/
  | number (n : Nat)
deriving DecidableEq, Repr

/-- An option of a command. -/
structure OptionSpec where
  /-- The short name, which follows one hyphen. -/
  short? : Option Char := none
  /-- The long name, which follows two hyphens. -/
  long : String
  /-- How many words it takes. -/
  arity : Arity := .one
  /-- What these words have to be. -/
  kind : ValueKind := .text
  /-- The command cannot do without it. -/
  isRequired : Bool := false
deriving Repr

namespace OptionSpec

/-- The names of an option as they are written. -/
def names (o : OptionSpec) : List Text :=
  (o.short?.map fun c => [.scalar '-', .scalar c]).toList ++ ["--" ++ Text.ofString o.long]

/-- The text that names an option in messages. -/
def title (o : OptionSpec) : Text := Text.join "/" o.names

/-- The option that asks for help, which every command has. -/
def help : OptionSpec := { short? := some 'h', long := "help", arity := .none }

end OptionSpec

/-- The options that have been given, with their values, in the order in which they were given. -/
abbrev Settings := List (String × List Value)

namespace Settings

/-- The option has been given. -/
def has (s : Settings) (long : String) : Bool := s.any fun entry => entry.1 = long

/-- How often an option has been given. -/
def count (s : Settings) (long : String) : Nat := (s.filter fun entry => entry.1 = long).length

/-- The values that an option has been given last. -/
def last? (s : Settings) (long : String) : Option (List Value) :=
  (s.reverse.find? fun entry => entry.1 = long).map Prod.snd

/-- The texts that an option has been given last. -/
def texts (s : Settings) (long : String) : List Text :=
  ((s.last? long).getD []).filterMap fun
    | .text t => some t
    | .number _ => none

/-- The text that an option has been given last, if there is one. -/
def text? (s : Settings) (long : String) : Option Text := (s.texts long).head?

/-- The number that an option has been given last, if there is one. -/
def number? (s : Settings) (long : String) : Option Nat :=
  match s.last? long with
  | some [.number n] => some n
  | _ => none

end Settings

/-- A command whose settings come to a value of the given type. -/
inductive CommandSpec (α : Type) where
  /-- A command that does something itself. -/
  | action (options : List OptionSpec) (build : Settings → α)
  /-- A command with sub commands; the title stands for their names in messages. -/
  | group (options : List OptionSpec) (title : String) (choices : List (String × CommandSpec α))

/-! ## Faults -/

/-- What is wrong with the words of a command. -/
inductive Problem where
  /-- A word begins the names of several options. -/
  | ambiguous (word : Text) (names : List Text)
  /-- An option that takes a word has none. -/
  | expectedArgument (option : Text)
  /-- A text is attached to an option that takes no word. -/
  | ignoredArgument (option text : Text)
  /-- A word is no number of the named type within its bound. -/
  | invalidNumber (option : Text) (typeName : String) (word : Text)
  /-- A word is no account. -/
  | invalidAccount (option : Text) (fault : Address.Fault)
  /-- There is no sub command of this name. -/
  | invalidChoice (title : String) (word : Text) (choices : List String)
  /-- What is required has not been given. -/
  | missing (titles : List Text)
  /-- Words are left over. -/
  | unrecognized (words : List Text)
  /-- One of two options that belong together is missing. -/
  | unpaired (first second : String)
deriving Repr

/-- The words for a problem. -/
def Problem.message : Problem → Text
  | .ambiguous word names =>
    "ambiguous option: " ++ word ++ " could match " ++ Text.join ", " names
  | .expectedArgument option => "argument " ++ option ++ ": expected one argument"
  | .ignoredArgument option text =>
    "argument " ++ option ++ ": ignored explicit argument " ++ text.quoted
  | .invalidNumber option typeName word =>
    "argument " ++ option ++ ": invalid " ++ Text.ofString typeName ++ " value: " ++ word.quoted
  | .invalidAccount option fault => "argument " ++ option ++ ": " ++ fault.message
  | .invalidChoice title word choices =>
    "argument " ++ Text.ofString title ++ ": invalid choice: " ++ word.quoted ++ " (choose from "
      ++ Text.join ", " (choices.map fun name => (Text.ofString name).quoted) ++ ")"
  | .missing titles => "the following arguments are required: " ++ Text.join ", " titles
  | .unrecognized words => "unrecognized arguments: " ++ Text.join " " words
  | .unpaired first second =>
    "--" ++ Text.ofString first ++ " and --" ++ Text.ofString second ++ " must be given together"

/-- Why reading the words of a command stops. -/
inductive Stop where
  /-- Something is wrong with the words of the named command. -/
  | misused (command : Text) (problem : Problem)
  /-- Help has been asked for. -/
  | help
deriving Repr

/-- The message of a misuse. -/
def usageMessage (command : Text) (problem : Problem) : Text :=
  command ++ ": error: " ++ problem.message

end MovePack.Options
