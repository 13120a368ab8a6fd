import Remittance.Text.Composition
import Remittance.Text.Direction
import Remittance.Text.Form
import Remittance.Text.Joining
import Remittance.Text.LabelLetter
import Remittance.Text.LowerCase
import Remittance.Text.Punycode

/-!
# Internationalized domain names

The ASCII form of a domain name. Each label that is not ASCII is checked and then written in
Punycode behind a mark; a label that already is in Punycode is checked for what it stands for. A
name with a label that may not be, has none.
-/

set_option autoImplicit false

namespace Remittance.DomainName

/-- Whether a character parts the labels of a name. -/
def isDot (c : Char) : Bool := [0x2E, 0x3002, 0xFF0E, 0xFF61].contains c.toNat

/-- The Greek characters of domain names. -/
def greek : Ranges := [
  (0x371, 0x3E1), (0x3F3, 0x3FC), (0x1D26, 0x1D2A), (0x1F00, 0x1FF6), (0xAB65, 0xAB65)]

/-- The Hebrew characters of domain names. -/
def hebrew : Ranges := [(0x591, 0x5F4), (0xFB1E, 0xFB1E)]

/-- The kana and Han characters of domain names. -/
def kanaOrHan : Ranges := [
  (0x3005, 0x3005), (0x3007, 0x3007), (0x3041, 0x3096), (0x309D, 0x30FA), (0x30FD, 0x30FE),
  (0x31F0, 0x9FFF), (0xFA0E, 0xFA29), (0x16FE3, 0x16FE3), (0x16FF0, 0x16FF1), (0x1AFF0, 0x1B167),
  (0x20000, 0x3134A)]

/-- The Arabic digits. -/
def arabicDigits : Ranges := [(0x660, 0x669)]

/-- The eastern Arabic digits. -/
def easternDigits : Ranges := [(0x6F0, 0x6F9)]

/-- Whether a mark silences the vowel of the consonant before it. -/
def isVirama (c : Char) : Bool := Composition.classOf c == 9

/-- Whether a character that not every label may hold may stand between `before`, of which the last
character comes first, and `after`. -/
def isFitting (before : List Char) (c : Char) (after : List Char) : Bool :=
  let others := before ++ after
  match c.toNat with
  | 0xB7 => before.head? == some 'l' && after.head? == some 'l'
  | 0x375 => after.head?.any greek.hold
  | 0x5F3 => before.head?.any hebrew.hold
  | 0x5F4 => before.head?.any hebrew.hold
  | 0x30FB => others.any kanaOrHan.hold
  | 0x200C => before.head?.any isVirama || Joining.isJoint before after
  | 0x200D => before.head?.any isVirama
  | _ =>
    (arabicDigits.hold c && !others.any easternDigits.hold) ||
      (easternDigits.hold c && !others.any arabicDigits.hold)

/-- Whether all characters of the end of a label may stand where they do, behind `before`, of which
the last character comes first. -/
def allFit : (before : List Char) → List Char → Bool
  | _, [] => true
  | before, c :: rest =>
    (LabelLetter.isLabelLetter c || isFitting before c rest) && allFit (c :: before) rest

/-- Whether the hyphens of a label are not at its ends and not together at its third and fourth
places. -/
def hyphensFit (cs : List Char) : Bool :=
  cs.head? != some '-' && cs.getLast? != some '-' && (cs.drop 2).take 2 != ['-', '-']

/-- Whether a label may be. -/
def isLabel (cs : List Char) : Bool :=
  !cs.isEmpty && Composition.isNormal cs && hyphensFit cs && !cs.head?.any Mark.isMark &&
    allFit [] cs && Direction.isKept cs

/-- The mark of a label in Punycode. -/
def mark : List Char := ['x', 'n', '-', '-']

/-- Whether an ASCII label may be; behind the mark, this is asked of what it stands for. -/
def isAsciiLabel (cs : List Char) : Bool :=
  if mark.isPrefixOf cs then
    let written := cs.drop mark.length
    !written.isEmpty && written.getLast? != some '-' && (Punycode.decode? written).any isLabel
  else isLabel cs

/-- The most characters of a label. -/
def maxLabel : Nat := 63

/-- The most characters of a name, a dot at its end not counted. -/
def maxName : Nat := 253

/-- The ASCII form of a label. -/
def labelToAscii? (cs : List Char) : Option (List Char) :=
  let isAscii := cs.all fun c => c.toNat < 0x80
  let written := if isAscii then cs else mark ++ Punycode.encode cs
  let mayBe := if isAscii then isAsciiLabel cs else isLabel cs
  if mayBe && decide (written.length ≤ maxLabel) then some written else none

/-- The ASCII form of a name, whose last label may be empty. -/
def toAscii? (name : List Char) : Option (List Char) :=
  let labels := Form.splitAt '.' ((LowerCase.lower name).map fun c => if isDot c then '.' else c)
  let dotted := labels.length > 1 && labels.getLast? == some []
  let labels := if dotted then labels.dropLast else labels
  (labels.mapM labelToAscii?).bind fun written =>
    let body := ['.'].intercalate written
    if body.length ≤ maxName then some (if dotted then body ++ ['.'] else body) else none

end Remittance.DomainName
