import TabTools.Text.Digits
import TabTools.Text.Utf8

/-!
# Percent encoding

A character that must not stand in a part of a URL is written as its UTF-8 bytes, each as a percent
sign and two hexadecimal digits. Which characters those are depends on the part (`Reserved`); all
control characters and all characters beyond ASCII are always among them. A percent sign stays as
it is, so that a text may be encoded in advance.
-/

namespace TabTools.Url

/-- The characters that must be encoded in a part of a URL. -/
abbrev Reserved := Char → Bool

namespace Reserved

def controls : Reserved := fun c => c.toNat < 0x20 || 0x7F ≤ c.toNat

def fragment : Reserved := fun c => controls c || [' ', '"', '<', '>', '`'].contains c

/-- A query. In a URL of a special scheme the apostrophe is reserved too. -/
def query (special : Bool) : Reserved := fun c =>
  controls c || [' ', '"', '#', '<', '>'].contains c || special && c == '\''

def path : Reserved := fun c =>
  fragment c || ['#', '?', Char.ofNat 0x7B, Char.ofNat 0x7D].contains c

def userinfo : Reserved := fun c =>
  path c || ['/', ':', ';', '=', '@', '[', '\\', ']', '^', '|'].contains c

end Reserved

def hexDigit (n : Nat) : Char := if n < 10 then Char.ofNat (48 + n) else Char.ofNat (55 + n)

def encodeByte (b : UInt8) : List Char :=
  ['%', hexDigit (b.toNat / 16), hexDigit (b.toNat % 16)]

/-- Encodes the reserved characters of a text. -/
def percentEncode (reserved : Reserved) (text : List Char) : List Char :=
  text.flatMap fun c => if reserved c then (Text.encode [c]).flatMap encodeByte else [c]

/-- The bytes that a text stands for. A percent sign without two digits stands for itself. -/
def percentDecode : List Char → List UInt8
  | [] => []
  | '%' :: a :: b :: rest =>
    match Text.hexValue? a, Text.hexValue? b with
    | some high, some low => (high * 16 + low).toUInt8 :: percentDecode rest
    | _, _ => Text.encode ['%'] ++ percentDecode (a :: b :: rest)
  | c :: rest => Text.encode [c] ++ percentDecode rest

end TabTools.Url
