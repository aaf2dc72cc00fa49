/-
# Types in signatures

A type in the signature of a function is a vector or a reference of another type, or a leaf.
Reading one never fails: what is no primitive type and no vector of such becomes a leaf that
keeps the text as it stood, so that one odd parameter does not keep the rest of a signature from
being shown.  The types without references whose leaf is primitive are those that have a type
tag.
-/
import MovePack.Types.Token
import MovePack.Types.TypeTag

namespace MovePack

open MovePack.Types (Token)

namespace TypeTag

/-- The tag of the tokens that follow the opening of `depth` vectors: more vectors, or the name
of a primitive type and as many closing brackets as vectors have been opened. -/
def ofTokens (depth : Nat) : List Token → Option TypeTag
  | .name name :: .opening :: rest =>
    if name = Text.ofString "vector" then ofTokens (depth + 1) rest else none
  | .name name :: rest =>
    if rest = List.replicate depth .closing then
      (Primitive.ofName? name).map fun element => ⟨depth, element⟩
    else none
  | _ => none

/-- The tag that a text names, up to white space between tokens. -/
def ofText? (t : Text) : Option TypeTag := ofTokens 0 (Token.scan t)

end TypeTag

/-- A type in a signature. -/
inductive MoveType where
  /-- A primitive type. -/
  | primitive (p : Primitive)
  /-- A type known by its name alone. -/
  | named (name : Text)
  /-- A type that is kept as the text it was read from. -/
  | unparsable (raw : Text)
  /-- A vector. -/
  | vector (element : MoveType)
  /-- A reference, through which the target may or may not be changed. -/
  | reference (isMutable : Bool) (target : MoveType)
deriving DecidableEq, Repr

namespace MoveType

/-- A layer around a type. -/
inductive Layer where
  /-- A vector of the type. -/
  | vector
  /-- A reference to the type. -/
  | reference (isMutable : Bool)
deriving DecidableEq, Repr

/-- The text of a layer on its own. -/
def Layer.name : Layer → String
  | .vector => "vector"
  | .reference true => "&mut"
  | .reference false => "&"

/-- The type of a name: the primitive type of this name, if there is one. -/
def ofName (name : Text) : MoveType :=
  match Primitive.ofName? name with
  | some p => .primitive p
  | none => .named name

/-- The type inside one more layer. -/
def inLayer (t : MoveType) : Layer → MoveType
  | .vector => .vector t
  | .reference isMutable => .reference isMutable t

/-- The type inside the given layers, the outermost first. -/
def ofLayers (layers : List Layer) (leaf : MoveType) : MoveType :=
  layers.foldr (fun layer t => t.inLayer layer) leaf

/-- The layers, the outermost first, and the type inside them. -/
def layers : MoveType → List Layer × MoveType
  | .vector element => let (rest, leaf) := element.layers; (.vector :: rest, leaf)
  | .reference isMutable target =>
    let (rest, leaf) := target.layers; (.reference isMutable :: rest, leaf)
  | leaf => ([], leaf)

/-- The text of a type. -/
def toText : MoveType → Text
  | .primitive p => Text.ofString p.name
  | .named name => name
  | .unparsable raw => "unparsable<" ++ raw ++ ">"
  | .vector element => "vector<" ++ element.toText ++ ">"
  | .reference true target => "&mut " ++ target.toText
  | .reference false target => "&" ++ target.toText

/-- The text of a type where it stands among other values. -/
def display (t : MoveType) : Text := "MoveType(" ++ t.toText ++ ")"

/-- The type of a tag. -/
def ofTypeTag (tag : TypeTag) : MoveType :=
  ofLayers (List.replicate tag.depth .vector) (.primitive tag.element)

/-- Reads a type without reference. -/
def ofValueText (t : Text) : MoveType :=
  match TypeTag.ofText? t with
  | some tag => ofTypeTag tag
  | none => .unparsable t

/-- Reads a type, which may be a reference to another.  The mark `&` comes first, and then, for a
reference through which the target may be changed, the word `mut` and a space. -/
def ofText (t : Text) : MoveType :=
  match t.dropPrefix? "&" with
  | none => ofValueText t
  | some target =>
    match target.dropPrefix? "mut " with
    | none => .reference false (ofValueText target)
    | some target => .reference true (ofValueText target)

/-- The type tag of vectors around a primitive type; other types have none. -/
def toTypeTag? : MoveType → Option TypeTag
  | .primitive p => some ⟨0, p⟩
  | .vector element => element.toTypeTag?.map fun tag => { tag with depth := tag.depth + 1 }
  | _ => none

/-- A type that has no type tag although one is asked for. -/
structure ConversionFault where
  /-- The type. -/
  type : MoveType
deriving DecidableEq, Repr

/-- The message of a type without a type tag. -/
def ConversionFault.message (f : ConversionFault) : Text :=
  "Invalid move type for converting into `TypeTag`: " ++ f.type.toText

/-- The type tag of a type. -/
def toTypeTag (t : MoveType) : Except ConversionFault TypeTag :=
  match t.toTypeTag? with
  | some tag => .ok tag
  | none => .error ⟨t⟩

end MoveType

end MovePack
