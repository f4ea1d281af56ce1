import LookingGlass.Text.Mark
import LookingGlass.Text.Printable

/-
  This file defines in which direction the characters that can
  stand in names are written. The directions of those that are
  newer than the tables here are not known.

  Key definitions include:
    * `Direction`
    * `Direction.isKnown`
    * `Direction.ofPoint?`
-/

namespace LookingGlass.Text

/- The direction of a character. -/
inductive Direction
  | leftToRight
  | rightToLeft
  | arabicLetter
  | arabicNumber
  | europeanNumber
  | separator
  | neutral
  | mark
deriving DecidableEq, Repr

namespace Direction

/- The letters from right to left, Arabic ones apart. -/
def rightToLeftLetters : Ranges :=
  [
    (0x5D0, 0x5F4), (0x7C0, 0x858), (0x10800, 0x10CF2),
    (0x10E80, 0x10F27), (0x10F70, 0x10FF6), (0x1E800, 0x1E959)
  ]

/- The letters of Arabic and scripts like it. -/
def arabicLetters : Ranges :=
  [
    (0x620, 0x64A), (0x66E, 0x6EF), (0x6FA, 0x7B1), (0x860, 0x8C9),
    (0xFE73, 0xFE73), (0x10D00, 0x10D23), (0x10F30, 0x10F45)
  ]

/- The digits that are ordered like Arabic ones. -/
def arabicNumbers : Ranges :=
  [
    (0x660, 0x669), (0x10D30, 0x10D39)
  ]

/- The digits that are ordered like European ones. -/
def europeanNumbers : Ranges :=
  [
    (0x30, 0x39), (0x6F0, 0x6F9)
  ]

/- The signs without a direction of their own. -/
def neutralSigns : Ranges :=
  [
    (0xB7, 0xB7), (0x2B9, 0x2BA), (0x2C6, 0x2CF), (0x2EC, 0x2EC),
    (0x375, 0x375), (0x200C, 0x200D), (0x2E2F, 0x2E2F),
    (0x30FB, 0x30FB), (0xA67F, 0xA67F), (0xA717, 0xA71F),
    (0xA788, 0xA788)
  ]

/- The marks that are ordered like letters. -/
def leftToRightMarks : Ranges :=
  [
    (0xCBF, 0xCBF), (0xCC6, 0xCC6), (0x11A07, 0x11A07),
    (0x11A08, 0x11A08), (0x11C3F, 0x11C3F)
  ]

/- The two joiners, which do not show themselves. -/
def joiners : Ranges :=
  [(0x200C, 0x200D)]

/- Whether a character that can stand in names is known. -/
def isKnown
    (point : Nat) : Bool :=
  joiners.has point || !hiddenRanges.has point

/- The direction of a known character. -/
def ofKnown
    (point : Nat) : Direction :=
  if point = 0x2D then .separator
  else if leftToRightMarks.has point then .leftToRight
  else if isNonspacingMark point then .mark
  else if rightToLeftLetters.has point then .rightToLeft
  else if arabicLetters.has point then .arabicLetter
  else if arabicNumbers.has point then .arabicNumber
  else if europeanNumbers.has point then .europeanNumber
  else if neutralSigns.has point then .neutral
  else .leftToRight

/- The direction of a character, if it is known. -/
def ofPoint?
    (point : Nat) : Option Direction :=
  if isKnown point then some (ofKnown point) else none

end Direction

end LookingGlass.Text
