/-
# Normal texts

A text is normal if no other text that means the same is preferred to it: no character in it is
given up for others, marks stand in ascending order of their classes, and whatever can be one
composite is one.  This is found out by taking the composites apart, putting the marks in order and
composing anew.
-/
import MovePack.Text.CharacterRange
import MovePack.Text.CombiningClass
import MovePack.Text.Composite

namespace MovePack

/-- The ranges of the characters that are always given up for others (version 14.0 of Unicode). -/
def abandonedRanges : List (Nat × Nat) :=
  [(0x340, 0x341), (0x343, 0x344), (0x374, 0x374), (0x37E, 0x37E), (0x387, 0x387), (0x958, 0x95F),
   (0x9DC, 0x9DD), (0x9DF, 0x9DF), (0xA33, 0xA33), (0xA36, 0xA36), (0xA59, 0xA5B), (0xA5E, 0xA5E),
   (0xB5C, 0xB5D), (0xF43, 0xF43), (0xF4D, 0xF4D), (0xF52, 0xF52), (0xF57, 0xF57), (0xF5C, 0xF5C),
   (0xF69, 0xF69), (0xF73, 0xF73), (0xF75, 0xF76), (0xF78, 0xF78), (0xF81, 0xF81), (0xF93, 0xF93),
   (0xF9D, 0xF9D), (0xFA2, 0xFA2), (0xFA7, 0xFA7), (0xFAC, 0xFAC), (0xFB9, 0xFB9),
   (0x1F71, 0x1F71), (0x1F73, 0x1F73), (0x1F75, 0x1F75), (0x1F77, 0x1F77), (0x1F79, 0x1F79),
   (0x1F7B, 0x1F7B), (0x1F7D, 0x1F7D), (0x1FBB, 0x1FBB), (0x1FBE, 0x1FBE), (0x1FC9, 0x1FC9),
   (0x1FCB, 0x1FCB), (0x1FD3, 0x1FD3), (0x1FDB, 0x1FDB), (0x1FE3, 0x1FE3), (0x1FEB, 0x1FEB),
   (0x1FEE, 0x1FEF), (0x1FF9, 0x1FF9), (0x1FFB, 0x1FFB), (0x1FFD, 0x1FFD), (0x2000, 0x2001),
   (0x2126, 0x2126), (0x212A, 0x212B), (0x2329, 0x232A), (0x2ADC, 0x2ADC), (0xF900, 0xFA0D),
   (0xFA10, 0xFA10), (0xFA12, 0xFA12), (0xFA15, 0xFA1E), (0xFA20, 0xFA20), (0xFA22, 0xFA22),
   (0xFA25, 0xFA26), (0xFA2A, 0xFA6D), (0xFA70, 0xFAD9), (0xFB1D, 0xFB1D), (0xFB1F, 0xFB1F),
   (0xFB2A, 0xFB36), (0xFB38, 0xFB3C), (0xFB3E, 0xFB3E), (0xFB40, 0xFB41), (0xFB43, 0xFB44),
   (0xFB46, 0xFB4E), (0x1D15E, 0x1D164), (0x1D1BB, 0x1D1C0), (0x2F800, 0x2FA1D)]

namespace Text

/-- The number of times a composite can be taken apart. -/
def compositeDepth : Nat := 3

/-- The characters that a character stands for, when composites are taken apart `depth` times. -/
def partsOf : (depth : Nat) → CodePoint → Text
  | 0, c => [c]
  | depth + 1, c =>
    match c.parts? with
    | some (first, mark) => partsOf depth first ++ [mark]
    | none => [c]

/-- The text with a mark at its beginning moved behind the marks of lower classes. -/
def insertMark (c : CodePoint) : Text → Text
  | [] => [c]
  | d :: rest =>
    if 0 < d.combiningClass ∧ d.combiningClass < c.combiningClass then d :: insertMark c rest
    else c :: d :: rest

/-- The text with marks in ascending order of their classes; marks of one class stay in order. -/
def sortMarks (t : Text) : Text := t.foldr insertMark []

/-- The text of `base`, the marks after it that did not combine with it, the last one first, and
what follows, with all composites that can be made.  A mark combines unless one of its class or a
higher one stands before it. -/
def composeAfter (base : CodePoint) (marks : Text) : Text → Text
  | [] => base :: marks.reverse
  | c :: rest =>
    let isFree :=
      match marks with
      | [] => true
      | mark :: _ => mark.combiningClass < c.combiningClass
    match if isFree then base.composite? c else none with
    | some both => composeAfter both marks rest
    | none =>
      if c.combiningClass = 0 then base :: marks.reverse ++ composeAfter c [] rest
      else composeAfter base (c :: marks) rest

/-- The text with all composites that can be made. -/
def compose : Text → Text
  | [] => []
  | c :: rest => composeAfter c [] rest

/-- The text is the preferred one of all that mean the same. -/
def isNormal (t : Text) : Bool :=
  t.all (fun c => !CharacterRange.contains c.toNat abandonedRanges) &&
    compose (sortMarks (t.flatMap (partsOf compositeDepth))) = t

end Text

end MovePack
