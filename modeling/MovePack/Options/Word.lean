/-
# The words of a command line

A word that begins with a hyphen names an option: in full, by a beginning of a long name that no
other name shares, or by a short name with more text attached.  A text follows an equals sign or,
after a short name, comes at once.  Negative numbers and words with spaces name no options, and
after the word `--`, the separator, no word does.
-/
import MovePack.Options.Spec
import MovePack.Text.DecimalDigit

namespace MovePack.Options

/-- What a word is. -/
inductive WordKind where
  /-- A value. -/
  | value
  /-- The word after which all words are values. -/
  | separator
  /-- An option, as the given name of it, perhaps with a text that is attached to the name. -/
  | option (o : OptionSpec) (name : Text) (attached? : Option Text)
  /-- An option that there is not. -/
  | unknown
deriving Repr

/-- The hyphen. -/
def hyphen : CodePoint := .scalar '-'

/-- The word after which all words are values. -/
def separator : Text := [hyphen, hyphen]

/-- The names of options, each with its option. -/
def namesOf (options : List OptionSpec) : List (Text × OptionSpec) :=
  options.flatMap fun o => o.names.map fun name => (name, o)

/-- The option with the given name. -/
def named? (options : List OptionSpec) (name : Text) : Option OptionSpec :=
  (namesOf options).lookup name

/-- The word is a negative number; a line feed may follow it. -/
def looksNegative (word : Text) : Bool :=
  let body := word.drop 1
  let body := if body.getLast? = some (.scalar '\n') then body.dropLast else body
  let areDigits (t : Text) : Bool := t.all (·.decimalDigit?.isSome)
  match Text.splitFirst? '.' body with
  | none => areDigits body && !body.isEmpty
  | some (whole, fraction) => areDigits whole && areDigits fraction && !fraction.isEmpty

/-- The options that a word may stand for which is no name in full. -/
def candidates (options : List OptionSpec) (word : Text) :
    List (OptionSpec × Text × Option Text) :=
  if word.startsWith "--" then
    let (beginning, attached?) : Text × Option Text :=
      match Text.splitFirst? '=' word with
      | some (beginning, text) => (beginning, some text)
      | none => (word, none)
    (namesOf options).filterMap fun (name, o) =>
      if beginning.isPrefixOf name then some (o, name, attached?) else none
  else
    (namesOf options).filterMap fun (name, o) =>
      if name = word.take 2 then some (o, name, some (word.drop 2))
      else if word.isPrefixOf name then some (o, name, none)
      else none

/-- The option with which a word begins before an equals sign. -/
def beforeEquals? (options : List OptionSpec) (word : Text) : Option WordKind := do
  let (name, text) ← Text.splitFirst? '=' word
  let o ← named? options name
  return .option o name (some text)

/-- What a word is that begins with a hyphen and is no name in full. -/
def classifyPartial (options : List OptionSpec) (word : Text) : Except Problem WordKind :=
  match beforeEquals? options word with
  | some kind => .ok kind
  | none =>
    match candidates options word with
    | [(o, name, attached?)] => .ok (.option o name attached?)
    | [] =>
      if looksNegative word || word.contains (.scalar ' ') then .ok .value else .ok .unknown
    | several => .error (.ambiguous word (several.map fun c => c.2.1))

/-- What a word is. -/
def classify (options : List OptionSpec) (word : Text) : Except Problem WordKind :=
  if word.head? ≠ some hyphen then .ok .value
  else
    match named? options word with
    | some o => .ok (.option o word none)
    | none => if word = [hyphen] then .ok .value else classifyPartial options word

/-- What words are. -/
def classifyAll (options : List OptionSpec) : List Text → Except Problem (List (Text × WordKind))
  | [] => .ok []
  | word :: rest =>
    if word = separator then .ok ((word, .separator) :: rest.map fun w => (w, .value))
    else do
      let kind ← classify options word
      return (word, kind) :: (← classifyAll options rest)

end MovePack.Options
