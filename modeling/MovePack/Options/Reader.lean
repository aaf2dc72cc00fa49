/-
# Reading a command line

The words of a command are read from the left.  Options take the values after them, or the text
attached to them; an option to which the separator is attached is given without a word.  The first
word of a command with sub commands that no option takes chooses one, which reads all words after
it.  Words that nobody takes are reported at the very end, after everything else has been found in
order.
-/
import MovePack.Options.Word

namespace MovePack.Options

/-! ## Values -/

/-- The value of a word of an option. -/
def OptionSpec.valueOf (o : OptionSpec) (word : Text) : Except Problem Value :=
  match o.kind with
  | .text => .ok (.text word)
  | .account =>
    match Address.ofChecksummed word with
    | .ok _ => .ok (.text word)
    | .error fault => .error (.invalidAccount o.title fault)
  | .unsigned bound typeName =>
    match Numeral.integer? word with
    | some (.ofNat n) =>
      if n ≤ bound then .ok (.number n) else .error (.invalidNumber o.title typeName word)
    | _ => .error (.invalidNumber o.title typeName word)

/-- The settings after an option has been given with words. -/
def OptionSpec.give (o : OptionSpec) (command : Text) (words : List Text) (s : Settings) :
    Except Stop Settings :=
  if o.long = OptionSpec.help.long then .error .help
  else
    match words.mapM o.valueOf with
    | .ok values => .ok (s ++ [(o.long, values)])
    | .error problem => .error (.misused command problem)

/-! ## Options in one word -/

/-- The options in one word: those without words, and the last one, whose words may be attached
to it. -/
structure Joined where
  /-- The options before the last one, which take no words. -/
  flags : List OptionSpec
  /-- The last option. -/
  last : OptionSpec
  /-- What is attached to the last option. -/
  attached? : Option Text

/-- The options that a text attached to an option without words stands for: single characters are
short names, and what follows the name of an option with words is attached to that one. -/
def spread (options : List OptionSpec) (o : OptionSpec) : Text → Except Problem Joined
  | [] => .error (.ignoredArgument o.title [])
  | c :: rest =>
    match named? options [hyphen, c] with
    | none => .error (.ignoredArgument o.title (c :: rest))
    | some next =>
      if rest.isEmpty then .ok ⟨[o], next, none⟩
      else if next.arity ≠ .none then .ok ⟨[o], next, some rest⟩
      else (spread options next rest).map fun joined => { joined with flags := o :: joined.flags }

/-- The options in one word that begins with the given name of an option. -/
def optionsIn (options : List OptionSpec) (o : OptionSpec) (name : Text) :
    Option Text → Except Problem Joined
  | none => .ok ⟨[], o, none⟩
  | some attached =>
    if o.arity ≠ .none then .ok ⟨[], o, some attached⟩
    else if name.startsWith "--" then .error (.ignoredArgument o.title attached)
    else spread options o attached

/-- The words that an attached text stands for: a separator stands for none. -/
def attachedWords (attached : Text) : List Text :=
  if attached = separator then [] else [attached]

/-! ## The words of one command -/

/-- What has been read of the words of a command. -/
structure Progress where
  /-- The options that have been given. -/
  settings : Settings := []
  /-- The words that nobody takes. -/
  extras : List Text := []

/-- The word is a value. -/
def isValue (word : Text × WordKind) : Bool :=
  match word.2 with
  | .value => true
  | _ => false

/-- The words that an option takes from those after it. -/
def OptionSpec.take (o : OptionSpec) (rest : List (Text × WordKind)) : Except Problem (List Text) :=
  match o.arity with
  | .none => .ok []
  | .many => .ok ((rest.takeWhile isValue).map Prod.fst)
  | .one =>
    match rest with
    | (word, .value) :: _ => .ok [word]
    | _ => .error (.expectedArgument o.title)

/-- The outcome, with a problem as a misuse of the command. -/
def inCommand {α : Type} (command : Text) : Except Problem α → Except Stop α
  | .ok a => .ok a
  | .error problem => .error (.misused command problem)

/-- Gives options without words, one after the other. -/
def giveAll (os : List OptionSpec) (command : Text) (s : Settings) : Except Stop Settings :=
  os.foldlM (fun s o => o.give command [] s) s

/-- Reads words up to the one that chooses a sub command, if there are sub commands.  Returns what
has been read and the words from there on. -/
def scan (command : Text) (options : List OptionSpec) (isGroup : Bool) :
    List (Text × WordKind) → Progress → Except Stop (Progress × List Text)
  | [], p => .ok (p, [])
  | (word, .value) :: rest, p =>
    if isGroup then .ok (p, word :: rest.map Prod.fst)
    else scan command options isGroup rest { p with extras := p.extras ++ [word] }
  | (word, .separator) :: rest, p =>
    if isGroup ∧ rest ≠ [] then .ok (p, word :: rest.map Prod.fst)
    else scan command options isGroup rest { p with extras := p.extras ++ [word] }
  | (word, .unknown) :: rest, p =>
    scan command options isGroup rest { p with extras := p.extras ++ [word] }
  | (_, .option o name attached?) :: rest, p => do
    let joined ← inCommand command (optionsIn options o name attached?)
    match joined.attached? with
    | some attached =>
      let settings ← giveAll joined.flags command p.settings
      let settings ← joined.last.give command (attachedWords attached) settings
      scan command options isGroup rest { p with settings }
    | none =>
      let words ← inCommand command (joined.last.take rest)
      let settings ← giveAll joined.flags command p.settings
      let settings ← joined.last.give command words settings
      scan command options isGroup (rest.drop words.length) { p with settings }
termination_by words => words.length
decreasing_by all_goals grind

/-- The required options that have not been given. -/
def missing (options : List OptionSpec) (s : Settings) : List Text :=
  (options.filter fun o => o.isRequired && !s.has o.long).map OptionSpec.title

/-! ## Commands -/

/-- What the words of a command come to. -/
structure Reading (α : Type) where
  /-- The value for the settings of the command and those around it. -/
  build : Settings → α
  /-- The options that have been given. -/
  settings : Settings
  /-- The words that nobody takes. -/
  extras : List Text

mutual

/-- Reads the words of a command with the given full name. -/
def CommandSpec.read {α : Type} (spec : CommandSpec α) (command : Text) (words : List Text) :
    Except Stop (Reading α) :=
  match spec with
  | .action options build => do
    let options := OptionSpec.help :: options
    let classified ← inCommand command (classifyAll options words)
    let (p, _) ← scan command options false classified {}
    match missing options p.settings with
    | [] => return ⟨build, p.settings, p.extras⟩
    | titles => throw (.misused command (.missing titles))
  | .group options title choices => do
    let options := OptionSpec.help :: options
    let classified ← inCommand command (classifyAll options words)
    let (p, rest) ← scan command options true classified {}
    match rest with
    | [] =>
      throw (.misused command (.missing (missing options p.settings ++ [Text.ofString title])))
    | name :: rest =>
      let chosen ← readChoice choices command title (choices.map Prod.fst) name rest
      match missing options p.settings with
      | [] => return ⟨chosen.build, p.settings ++ chosen.settings, p.extras ++ chosen.extras⟩
      | titles => throw (.misused command (.missing titles))

/-- Reads the words of the chosen one of sub commands. -/
def readChoice {α : Type} (choices : List (String × CommandSpec α)) (command : Text)
    (title : String) (names : List String) (name : Text) (words : List Text) :
    Except Stop (Reading α) :=
  match choices with
  | [] => .error (.misused command (.invalidChoice title name names))
  | (known, spec) :: others =>
    if Text.ofString known = name then spec.read (command ++ " " ++ name) words
    else readChoice others command title names name words

end

end MovePack.Options
