/-
# Writing directions

The bidirectional class of a character says how it takes part in text that runs in both directions
(version 14.0 of Unicode).  The classes here are those of the characters of domain names.
-/
import MovePack.Text.Mark

namespace MovePack

/-- The bidirectional class of a character of domain names. -/
inductive Direction where
  /-- A letter written from left to right. -/
  | leftToRight
  /-- A letter written from right to left. -/
  | rightToLeft
  /-- A letter of Arabic and similar scripts. -/
  | arabicLetter
  /-- An Arabic digit. -/
  | arabicNumber
  /-- A European digit. -/
  | europeanNumber
  /-- A sign between European digits. -/
  | europeanSeparator
  /-- A mark without space of its own, which follows the character before it. -/
  | nonspacingMark
  /-- A character without direction that is not shown. -/
  | boundaryNeutral
  /-- Another character without direction. -/
  | otherNeutral
deriving DecidableEq, Repr

/-- Ranges that hold, of the characters of domain names, just the right-to-left letters. -/
def rightToLeftRanges : List (Nat × Nat) :=
  [(0x5D0, 0x5F4), (0x7C0, 0x7EA), (0x7F4, 0x7F5), (0x800, 0x815), (0x81A, 0x81A), (0x824, 0x824),
   (0x828, 0x828), (0x840, 0x858), (0x10800, 0x10A00), (0x10A10, 0x10A35), (0x10A60, 0x10AE4),
   (0x10B00, 0x10CF2), (0x10E80, 0x10EA9), (0x10EB0, 0x10F27), (0x10F70, 0x10F81),
   (0x10FB0, 0x10FF6), (0x1E800, 0x1E8C4), (0x1E922, 0x1E943), (0x1E94B, 0x1E959)]

/-- Ranges that hold, of the characters of domain names, just the Arabic letters. -/
def arabicLetterRanges : List (Nat × Nat) :=
  [(0x620, 0x64A), (0x66E, 0x66F), (0x671, 0x6D5), (0x6E5, 0x6E6), (0x6EE, 0x6EF), (0x6FA, 0x710),
   (0x712, 0x72F), (0x74D, 0x7A5), (0x7B1, 0x7B1), (0x860, 0x88E), (0x8A0, 0x8C9),
   (0xFE73, 0xFE73), (0x10D00, 0x10D23), (0x10F30, 0x10F45)]

/-- The ranges of the Arabic digits. -/
def arabicNumberRanges : List (Nat × Nat) := [(0x660, 0x669), (0x10D30, 0x10D39)]

/-- The ranges of the European digits. -/
def europeanNumberRanges : List (Nat × Nat) := [(0x30, 0x39), (0x6F0, 0x6F9)]

/-- The ranges of the characters of domain names without direction. -/
def otherNeutralRanges : List (Nat × Nat) :=
  [(0xB7, 0xB7), (0x2B9, 0x2BA), (0x2C6, 0x2CF), (0x2EC, 0x2EC), (0x375, 0x375), (0x2E2F, 0x2E2F),
   (0x30FB, 0x30FB), (0xA67F, 0xA67F), (0xA717, 0xA71F), (0xA788, 0xA788)]

/-- The ranges of the invisible joiners. -/
def joinerRanges : List (Nat × Nat) := [(0x200C, 0x200D)]

/-- The ranges of marks of domain names that are transparent but written from left to right. -/
def leftToRightMarkRanges : List (Nat × Nat) :=
  [(0xCBF, 0xCBF), (0xCC6, 0xCC6), (0x11A07, 0x11A08), (0x11C3F, 0x11C3F)]

/-- The ranges of marks without space of their own that are not transparent. -/
def opaqueMarkRanges : List (Nat × Nat) := [(0x1171E, 0x1171E)]

/-- The bidirectional class of a character of domain names, unless it is not assigned. -/
def CodePoint.direction? (c : CodePoint) : Option Direction :=
  let lies (ranges : List (Nat × Nat)) : Bool := CharacterRange.contains c.toNat ranges
  if lies joinerRanges then some .boundaryNeutral
  else if !c.isPrintable then none
  else if lies rightToLeftRanges then some .rightToLeft
  else if lies arabicLetterRanges then some .arabicLetter
  else if lies arabicNumberRanges then some .arabicNumber
  else if lies europeanNumberRanges then some .europeanNumber
  else if c = .scalar '-' then some .europeanSeparator
  else if lies otherNeutralRanges then some .otherNeutral
  else if lies leftToRightMarkRanges then some .leftToRight
  else if c.isTransparent || lies opaqueMarkRanges then some .nonspacingMark
  else some .leftToRight

end MovePack
