import TabTools.Json.Basic

/-!
# Compact JSON text

The text has no spaces. Inside strings only quotes, backslashes and the control characters below
the space are escaped, the latter by their short form if they have one. Doubles are written with
the fewest digits, positionally for decimal exponents from -5 to 15.
-/

namespace TabTools.Json

/-- Notation of doubles in JSON text. -/
def doubleNotation : Notation64 := ⟨-5, 16⟩

def hexDigit (n : Nat) : Char :=
  if n < 10 then Char.ofNat (48 + n) else Char.ofNat (87 + n)

/-- One character as it stands in a JSON string. -/
def escapeChar (c : Char) : List Char :=
  if c = '"' then ['\\', '"']
  else if c = '\\' then ['\\', '\\']
  else if c.toNat < 0x20 then
    if c = '\n' then ['\\', 'n']
    else if c = '\r' then ['\\', 'r']
    else if c = '\t' then ['\\', 't']
    else if c.toNat = 8 then ['\\', 'b']
    else if c.toNat = 12 then ['\\', 'f']
    else ['\\', 'u', '0', '0', hexDigit (c.toNat / 16), hexDigit (c.toNat % 16)]
  else [c]

def renderString (s : String) : List Char :=
  ['"'] ++ s.toList.flatMap escapeChar ++ ['"']

/-- Decimal text of an integer. -/
def renderInt (n : Int) : List Char :=
  if n < 0 then '-' :: Nat.toDigits 10 n.natAbs else Nat.toDigits 10 n.natAbs

def renderNumber : JsonNumber → List Char
  | .int n => renderInt n
  | .double x => doubleNotation.write x

mutual

/-- The characters of the compact text of a value. -/
def render : Json → List Char
  | .null => ['n', 'u', 'l', 'l']
  | .bool true => ['t', 'r', 'u', 'e']
  | .bool false => ['f', 'a', 'l', 's', 'e']
  | .num n => renderNumber n
  | .str s => renderString s
  | .arr items => '[' :: renderItems items
  | .obj fields => '{' :: renderFields fields

/-- The items of an array with the closing bracket. -/
def renderItems : List Json → List Char
  | [] => [']']
  | [v] => render v ++ [']']
  | v :: w :: rest => render v ++ ',' :: renderItems (w :: rest)

/-- The fields of an object with the closing brace. -/
def renderFields : List (String × Json) → List Char
  | [] => ['}']
  | [(k, v)] => renderString k ++ ':' :: (render v ++ ['}'])
  | (k, v) :: w :: rest => renderString k ++ ':' :: (render v ++ ',' :: renderFields (w :: rest))

end

/-- The compact text of a value. -/
def text (v : Json) : String := String.ofList v.render

end TabTools.Json
