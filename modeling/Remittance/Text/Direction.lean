import Remittance.Text.Mark

/-!
# Directions of writing

The direction in which each character of domain names is written, and the rule that a label with
letters from right to left is read in one way only. The ranges hold no other characters of domain
names.
-/

set_option autoImplicit false

namespace Remittance.Direction

/-- The letters that are written from right to left. -/
def rightToLeft : Ranges := [
  (0x5D0, 0x5F4), (0x620, 0x64A), (0x66E, 0x66F), (0x671, 0x6D5), (0x6E5, 0x6E6), (0x6EE, 0x6EF),
  (0x6FA, 0x710), (0x712, 0x72F), (0x74D, 0x7A5), (0x7B1, 0x7EA), (0x7F4, 0x7F5), (0x800, 0x815),
  (0x81A, 0x81A), (0x824, 0x824), (0x828, 0x828), (0x840, 0x858), (0x860, 0x88E), (0x8A0, 0x8C9),
  (0xFE73, 0xFE73), (0x10800, 0x10A00), (0x10A10, 0x10A35), (0x10A60, 0x10AE4), (0x10B00, 0x10D23),
  (0x10E80, 0x10EA9), (0x10EB0, 0x10F45), (0x10F70, 0x10F81), (0x10FB0, 0x10FF6),
  (0x1E800, 0x1E8C4), (0x1E922, 0x1E943), (0x1E94B, 0x1E959)]

/-- The digits that do not care for the direction of letters. -/
def europeanDigits : Ranges := [
  (0x30, 0x39), (0x6F0, 0x6F9)]

/-- The digits that go with letters from right to left. -/
def arabicDigits : Ranges := [
  (0x660, 0x669), (0x10D30, 0x10D39)]

/-- The signs that are written in either direction. -/
def neutral : Ranges := [
  (0x2D, 0x2D), (0xB7, 0xB7), (0x2B9, 0x2BA), (0x2C6, 0x2CF), (0x2EC, 0x2EC), (0x375, 0x375),
  (0x200C, 0x200D), (0x2E2F, 0x2E2F), (0x30FB, 0x30FB), (0xA67F, 0xA67F), (0xA717, 0xA71F),
  (0xA788, 0xA788)]

/-- How a character goes with the direction of writing. -/
inductive Kind where
  | leftToRight
  | rightToLeft
  | european
  | arabic
  | neutral
  | mark
deriving DecidableEq

/-- The kind of a character. -/
def kind (c : Char) : Kind :=
  if rightToLeft.hold c then .rightToLeft
  else if Mark.nonSpacing.hold c then .mark
  else if europeanDigits.hold c then .european
  else if arabicDigits.hold c then .arabic
  else if neutral.hold c then .neutral
  else .leftToRight

/-- Whether a label that begins with a letter from right to left is read in one way only: nothing
in it is written from left to right, its digits are of one kind, and but for marks it ends with a
letter or a digit. -/
def isReadOneWay (kinds : List Kind) : Bool :=
  kinds.head? == some .rightToLeft && !kinds.contains .leftToRight &&
    !(kinds.contains .european && kinds.contains .arabic) &&
    ((kinds.reverse.dropWhile (· == .mark)).head?.any fun k => k != .neutral)

/-- Whether the direction of writing does not change inside a label. Only letters and digits from
right to left can change it. -/
def isKept (cs : List Char) : Bool :=
  let kinds := cs.map kind
  if kinds.contains .rightToLeft || kinds.contains .arabic then isReadOneWay kinds else true

end Remittance.Direction
