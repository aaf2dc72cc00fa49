/-
# Reading TOML documents

A document is read statement by statement: headers of tables and of arrays of tables, and keys
with their values.  The grammar is that of TOML 1.1.
-/
import MovePack.Toml.Scalar

namespace MovePack.Toml

/-! ## Keys -/

/-- A character of a key without quotes: an ASCII letter or digit, an underscore or a hyphen. -/
def isBareKeyCharacter : CodePoint → Bool
  | .scalar c => c.isAlphanum || c = '_' || c = '-'
  | .surrogate _ => false

/-- A part of a key: a string on one line, or characters without quotes. -/
def keyPart (t : Text) : Except Fault (Text × Text) :=
  match t with
  | .scalar '\x22' :: rest => basicString rest
  | .scalar '\x27' :: rest => literalString rest
  | _ =>
    match t.takeWhile isBareKeyCharacter with
    | [] => .error .malformed
    | part => .ok (part, t.drop part.length)

/-- The parts of a key before its last one, the last part, and the text after the key and the
spaces that follow it, when `room` more parts may come. -/
def keyParts : (room : Nat) → Text → Except Fault (List Text × Text × Text)
  | room, t => do
    let (part, rest) ← keyPart t
    match room with
    | 0 => throw (.tooMuch .keyParts)
    | room + 1 =>
      match skipSpace rest with
      | .scalar '.' :: rest =>
        let (path, last, rest) ← keyParts room (skipSpace rest)
        return (part :: path, last, rest)
      | rest => return ([], part, rest)

/-- A key: its parts before the last one, the last part, and the text after it. -/
def key (t : Text) : Except Fault (List Text × Text × Text) := keyParts maxKeyParts t

/-! ## Values -/

/-- The text after a comment, which ends before the end of the line. -/
def skipComment (t : Text) : Except Fault Text :=
  match t with
  | .scalar '#' :: rest =>
    let comment := rest.takeWhile (· ≠ newline)
    if comment.any isControl then .error .malformed else .ok (rest.drop comment.length)
  | _ => .ok t

/-- The text after spaces, line ends and comments, of which there are at most `fuel`. -/
def skipLines : (fuel : Nat) → Text → Except Fault Text
  | 0, t => .ok t
  | fuel + 1, t =>
    match t.dropWhile isSpaceOrNewline with
    | .scalar '#' :: rest => do skipLines fuel (← skipComment (.scalar '#' :: rest))
    | rest => .ok rest

/-- The text after what may stand between the elements of an array or the members of an inline
table. -/
def skipBetween (t : Text) : Except Fault Text :=
  match t.dropWhile isSpaceOrNewline with
  | .scalar '#' :: rest => skipLines (rest.length + 2) (.scalar '#' :: rest)
  | rest => .ok rest

mutual

/-- A value inside of `depth` arrays and inline tables.  Of two steps in a row one takes a
character, so that `fuel` above twice the number of characters does not run out. -/
def value (fuel depth : Nat) (t : Text) : Except Fault (Value × Text) :=
  if maxNesting < depth then .error (.tooMuch .nesting)
  else
    match fuel with
    | 0 => .error .malformed
    | fuel + 1 =>
      match t with
      | .scalar '[' :: rest => do
        let (found, rest) ← elements fuel (depth + 1) (← skipBetween rest)
        return (.array found, rest)
      | .scalar '\x7b' :: rest => do
        let (found, rest) ← inlineMembers fuel (depth + 1) [] (← skipBetween rest)
        return (.table (membersToValues found), rest)
      | t => scalar t

/-- The elements of an array up to its end; a comma may follow the last one. -/
def elements (fuel depth : Nat) (t : Text) : Except Fault (List Value × Text) :=
  match fuel with
  | 0 => .error .malformed
  | fuel + 1 =>
    match t with
    | .scalar ']' :: rest => .ok ([], rest)
    | _ => do
      let (first, rest) ← value fuel depth t
      match ← skipBetween rest with
      | .scalar ']' :: rest => return ([first], rest)
      | .scalar ',' :: rest =>
        let (others, rest) ← elements fuel depth (← skipBetween rest)
        return (first :: others, rest)
      | _ => throw .malformed

/-- The members of an inline table up to its end, after those `before` them; a comma may follow the
last one. -/
def inlineMembers (fuel depth : Nat) (before : Members) (t : Text) :
    Except Fault (Members × Text) :=
  match fuel with
  | 0 => .error .malformed
  | fuel + 1 =>
    match t with
    | .scalar '\x7d' :: rest => .ok (before, rest)
    | _ => do
      let (path, last, rest) ← key t
      match rest with
      | .scalar '=' :: rest =>
        let (v, rest) ← value fuel depth (skipSpace rest)
        let known ← before.assign path last v
        match ← skipBetween rest with
        | .scalar '\x7d' :: rest => return (known, rest)
        | .scalar ',' :: rest => inlineMembers fuel depth known (← skipBetween rest)
        | _ => throw .malformed
      | _ => throw .malformed

end

/-! ## Statements -/

/-- A document under construction: its members, and the path of the last header. -/
structure Draft where
  /-- The members of the whole document. -/
  members : Members := []
  /-- The path of the table to which keys are added. -/
  header : List Text := []

/-- The draft after the statement at the beginning of a text. -/
def Draft.statement (draft : Draft) (t : Text) : Except Fault (Draft × Text) := do
  match t with
  | .scalar '[' :: .scalar '[' :: rest =>
    let (path, last, rest) ← key (skipSpace rest)
    match rest with
    | .scalar ']' :: .scalar ']' :: rest =>
      return (⟨← draft.members.append path last, path ++ [last]⟩, rest)
    | _ => throw .malformed
  | .scalar '[' :: rest =>
    let (path, last, rest) ← key (skipSpace rest)
    match rest with
    | .scalar ']' :: rest =>
      return (⟨← draft.members.declare path last, path ++ [last]⟩, rest)
    | _ => throw .malformed
  | _ =>
    let (path, last, rest) ← key t
    match rest with
    | .scalar '=' :: rest =>
      let rest := skipSpace rest
      let (v, rest) ← value (2 * rest.length + 2) 0 rest
      let members ← draft.members.within draft.header (·.assign path last v)
      return ({ draft with members }, rest)
    | _ => throw .malformed

/-- The draft after all lines of a text, of which there are fewer than `fuel`. -/
def Draft.lines (draft : Draft) : (fuel : Nat) → Text → Except Fault Draft
  | 0, _ => .error .malformed
  | fuel + 1, t => do
    let t := skipSpace t
    let (draft, rest) ←
      match t.head? with
      | none | some (.scalar '\n') | some (.scalar '#') => pure (draft, t)
      | _ => draft.statement t
    match ← skipComment (skipSpace rest) with
    | [] => return draft
    | .scalar '\n' :: rest => draft.lines fuel rest
    | _ => throw .malformed

/-- The text with every carriage return before a line feed left out. -/
def joinLineEnds : Text → Text
  | .scalar '\r' :: .scalar '\n' :: rest => .scalar '\n' :: joinLineEnds rest
  | c :: rest => c :: joinLineEnds rest
  | [] => []

/-- The table that a TOML document denotes. -/
def Value.ofDocument (t : Text) : Except Fault Value := do
  let draft ← Draft.lines {} (t.length + 1) (joinLineEnds t)
  return .table (membersToValues draft.members)

end MovePack.Toml
