import TabTools.Url.Domain.Direction
import TabTools.Url.Domain.Joiner
import TabTools.Url.Domain.Mapping
import TabTools.Url.Punycode

/-!
# Domain names

A domain name is a sequence of labels with dots between. The name that is looked up is in ASCII: its
letters are lowercase, and a label with other characters is written as `xn--` and the label in ASCII
(`Punycode`).

**Labels.** The characters of a name are replaced and composed before it is cut into labels. A label
must not start with a mark, joiners must make a difference in it, and if a label of the name runs
from right to left then all labels are written in one direction. A label that comes with `xn--` must
stand for one that has a character outside ASCII and whose characters are not replaced or composed.
-/

namespace TabTools.Url.Domain

/-- The characters of ASCII that no domain name may have. -/
def isForbidden (c : Char) : Bool :=
  c.toNat ≤ 0x20 || c.toNat = 0x7F ||
    ['%', '#', '/', ':', '<', '>', '?', '@', '[', '\\', ']', '^', '|'].contains c

def isAscii (label : List Char) : Bool := label.all fun c => c.toNat < 0x80

/-- What a label in ASCII starts with that stands for another one. -/
def encodedStart : List Char := ['x', 'n', '-', '-']

/-- Labels that are longer are not encoded. -/
def longestLabel : Nat := 1000

/-- Labels that are longer are not decoded. -/
def longestEncoded : Nat := 2000

/-- A label as it is shown and as it is looked up. -/
structure Label where
  shown : List Char
  ascii : List Char

/-- The label that an encoded one stands for. -/
def decodeLabel? (text : List Char) : Option (List Char) := do
  guard (isAscii text && text.length ≤ longestEncoded)
  let label ← Punycode.decode? text
  guard (!isAscii label && label.all isValid && composed label == label)
  return label

def readLabel? (text : List Char) : Option Label :=
  match Text.afterPrefix? encodedStart text with
  | some encoded => (decodeLabel? encoded).map fun label => ⟨label, text⟩
  | none =>
    if isAscii text then some ⟨text, text⟩
    else if longestLabel < text.length then none
    else some ⟨text, encodedStart ++ Punycode.encode text⟩

/-- Whether a label of a name is in order. -/
def Label.isFit (label : Label) : Bool :=
  !label.shown.head?.any isMark && joinersFit [] label.shown

/-- The name in ASCII, if it is one. -/
def toAscii? (name : List Char) : Option (List Char) := do
  let text := composed (← map? name)
  guard (!text.any isForbidden)
  let labels ← (Text.pieces (· == '.') text).mapM readLabel?
  guard (labels.all Label.isFit)
  guard (!labels.any (fun label => runsRight label.shown) ||
    labels.all fun label => oneDirection label.shown)
  return List.intercalate ['.'] (labels.map Label.ascii)

end TabTools.Url.Domain
