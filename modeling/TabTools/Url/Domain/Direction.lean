import TabTools.Url.Domain.Mark

/-!
# Direction of writing

Names in scripts that run from right to left must not be shown in an order that misleads. When a
name has such a character, every label of it must be written in one direction all through: it starts
with a letter of that direction, holds no letter of the other, and ends with a letter or a number.
A label that runs from right to left has European or Arabic numbers, not both.

The ranges are in ascending order and run across characters that names may not have and across
nonspacing marks, which take the direction of what they attach to.
-/

namespace TabTools.Url.Domain

/-- How a character behaves in a line. -/
inductive Direction where
  /-- A letter that runs from left to right. -/
  | left
  /-- A letter that runs from right to left. -/
  | right
  | europeanNumber
  | arabicNumber
  /-- A sign that takes its direction from what is around it. -/
  | neutral
  | mark
deriving DecidableEq, Repr

def rightRanges : List (Nat × Nat) :=
  [(0x5BE, 0x5F4), (0x608, 0x608), (0x60B, 0x60B), (0x60D, 0x60D), (0x61B, 0x64A), (0x66D, 0x6D5),
   (0x6E5, 0x6E6), (0x6EE, 0x6EF), (0x6FA, 0x7F5), (0x7FA, 0x8C9), (0xFBB2, 0xFBD2),
   (0xFD90, 0xFDCE), (0xFE73, 0xFE73), (0x10800, 0x1091B), (0x10920, 0x10B35), (0x10B40, 0x10D23),
   (0x10D40, 0x10D8F), (0x10E80, 0x10FF6), (0x1E800, 0x1ED3D)]

def arabicNumberRanges : List (Nat × Nat) :=
  [(0x660, 0x669), (0x66B, 0x66C), (0x10D30, 0x10D39), (0x10E60, 0x10E7E)]

def europeanNumberRanges : List (Nat × Nat) :=
  [(0x30, 0x39), (0x6F0, 0x6F9), (0x102E1, 0x102FB)]

def neutralRanges : List (Nat × Nat) :=
  [(0x0, 0x8), (0xE, 0x1B), (0x21, 0x2F), (0x3A, 0x60), (0x7B, 0xD7), (0xF7, 0xF7), (0x2B9, 0x2BA),
   (0x2C2, 0x2CF), (0x2D2, 0x2ED), (0x2EF, 0x2FF), (0x375, 0x375), (0x3F6, 0x3F6), (0x58A, 0x58F),
   (0x606, 0x607), (0x609, 0x60A), (0x60C, 0x60C), (0x60E, 0x60F), (0x66A, 0x66A), (0x6DE, 0x6DE),
   (0x6E9, 0x6E9), (0x7F6, 0x7F9), (0x9F2, 0x9F3), (0x9FB, 0x9FB), (0xAF1, 0xAF1), (0xBF3, 0xBFA),
   (0xC78, 0xC7E), (0xE3F, 0xE3F), (0xF3A, 0xF3D), (0x1390, 0x1399), (0x1400, 0x1400),
   (0x169B, 0x169C), (0x17DB, 0x17DB), (0x17F0, 0x180A), (0x1940, 0x1945), (0x19DE, 0x19FF),
   (0x200C, 0x214D), (0x218A, 0x2335), (0x237B, 0x2394), (0x2396, 0x2426), (0x2440, 0x26AB),
   (0x26AD, 0x27FF), (0x2900, 0x2B95), (0x2B97, 0x2BFF), (0x2CE5, 0x2CEA), (0x2CF9, 0x2CFF),
   (0x2E00, 0x3004), (0x3008, 0x3020), (0x3030, 0x3030), (0x3037, 0x3037), (0x303D, 0x303F),
   (0x30A0, 0x30A0), (0x30FB, 0x30FB), (0x31C0, 0x31E3), (0x4DC0, 0x4DFF), (0xA490, 0xA4C6),
   (0xA60D, 0xA60F), (0xA673, 0xA67F), (0xA700, 0xA721), (0xA788, 0xA788), (0xA828, 0xA82B),
   (0xA838, 0xA839), (0xA874, 0xA877), (0xAB6A, 0xAB6B), (0xFD3E, 0xFD4F), (0xFDCF, 0xFE46),
   (0x10101, 0x10101), (0x10140, 0x1018C), (0x10190, 0x101A0), (0x1091F, 0x1091F),
   (0x10B39, 0x10B3F), (0x11052, 0x11065), (0x11660, 0x1166C), (0x11FD5, 0x11FF1),
   (0x16FE2, 0x16FE2), (0x1D1E9, 0x1D245), (0x1D300, 0x1D356), (0x1E2FF, 0x1E2FF),
   (0x1EEF0, 0x1F12F), (0x1F16D, 0x1F16F), (0x1F1AD, 0x1F1AD), (0x1F260, 0x1F6D7),
   (0x1F6DC, 0x1F776), (0x1F77B, 0x1F8B1), (0x1F900, 0x1FA53), (0x1FA60, 0x1FA88),
   (0x1FA90, 0x1FABD), (0x1FABF, 0x1FAC5), (0x1FACE, 0x1FADB), (0x1FAE0, 0x1FAE8),
   (0x1FAF0, 0x1FBCA)]

/-- Nonspacing marks that run from left to right. -/
def leftMarks : List Nat := [0xCBF, 0xCC6, 0x11A07, 0x11A08, 0x11C3F]

def direction (c : Char) : Direction :=
  if leftMarks.contains c.toNat then .left
  else if isNonspacing c then .mark
  else if Text.within rightRanges c then .right
  else if Text.within arabicNumberRanges c then .arabicNumber
  else if Text.within europeanNumberRanges c then .europeanNumber
  else if Text.within neutralRanges c then .neutral
  else .left

/-- Whether a label has characters that run from right to left. -/
def runsRight (label : List Char) : Bool :=
  label.any fun c => [Direction.right, .arabicNumber].contains (direction c)

/-- Whether a label that starts with a letter that runs from right to left is in order. `last` is
its last character that is no mark. -/
def fitsRight (all : List Direction) (last : Direction) : Bool :=
  !all.contains .left && last ≠ .neutral &&
    !(all.contains .europeanNumber && all.contains .arabicNumber)

/-- Whether a label that starts with a letter that runs from left to right is in order. -/
def fitsLeft (all : List Direction) (last : Direction) : Bool :=
  !all.contains .right && !all.contains .arabicNumber && last ≠ .neutral

/-- Whether a label is written in one direction. An empty label is. -/
def oneDirection (label : List Char) : Bool :=
  let all := label.map direction
  let last := (all.reverse.find? (· ≠ .mark)).getD .mark
  match all with
  | [] => true
  | .right :: _ => fitsRight all last
  | .left :: _ => fitsLeft all last
  | _ => false

end TabTools.Url.Domain
