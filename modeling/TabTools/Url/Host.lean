import TabTools.Url.Domain
import TabTools.Url.HostNumber
import TabTools.Url.Percent

/-!
# Hosts

The host of a special URL is a host number or a domain name; a name whose last label is a number is
read as a short host number, of which up to three bytes may be run together and every number may be
written in octal or in hexadecimal. The host of any other URL is kept as it is, unless it is a host
number in brackets.
-/

namespace TabTools.Url

/-- Why a text is no URL. -/
inductive UrlError where
  | noScheme
  | emptyHost
  | badDomain
  | badShortNumber
  | badLongNumber
  | badHostCharacter
  | badPort
deriving DecidableEq, Repr

def UrlError.message : UrlError → String
  | .noScheme => "relative URL without a base"
  | .emptyHost => "empty host"
  | .badDomain => "invalid international domain name"
  | .badShortNumber => "invalid IPv4 address"
  | .badLongNumber => "invalid IPv6 address"
  | .badHostCharacter => "invalid domain character"
  | .badPort => "invalid port number"

inductive Host where
  | name (text : List Char)
  | short (number : Nat)
  | long (words : List Nat)
deriving DecidableEq, Repr

/-! ## Host numbers of the short kind -/

/-- A number in a base. -/
def numberIn (base : Nat) (digits : List Nat) : Nat := digits.foldl (fun n d => n * base + d) 0

/-- The digits of a number in a base, if all of them are such. -/
def digitsIn? (base : Nat) (cs : List Char) : Option (List Nat) :=
  cs.mapM fun c => (Text.hexValue? c).filter (· < base)

/-- A number in octal, decimal or hexadecimal. -/
def looseNumber? (cs : List Char) : Option Nat :=
  match cs with
  | [] => none
  | '0' :: 'x' :: rest => (digitsIn? 16 rest).map (numberIn 16)
  | '0' :: 'X' :: rest => (digitsIn? 16 rest).map (numberIn 16)
  | '0' :: c :: rest => (digitsIn? 8 (c :: rest)).map (numberIn 8)
  | cs => (digitsIn? 10 cs).map (numberIn 10)

/-- The labels of a name. A dot at the end adds none. -/
def labels (name : List Char) : List (List Char) :=
  match (Text.pieces (· == '.') name).reverse with
  | [] :: before => before.reverse
  | all => all.reverse

/-- Whether the last label of a name is a number. -/
def endsInNumber (name : List Char) : Bool :=
  match (labels name).getLast? with
  | none => false
  | some label => !label.isEmpty && label.all Char.isDigit || (looseNumber? label).isSome

/-- The number that the numbers of the labels make: the last one fills the bytes that the others
leave. -/
def joinNumbers? : (place : Nat) → List Nat → Option Nat
  | _, [] => none
  | place, [last] => if last < place then some last else none
  | place, n :: rest =>
    if 255 < n then none
    else (joinNumbers? (place / 256) rest).map (n * (place / 256) + ·)

def shortNumber? (name : List Char) : Option Nat := do
  let numbers ← (labels name).mapM looseNumber?
  if 4 < numbers.length then none else joinNumbers? 0x100000000 numbers

/-! ## Reading -/

/-- The host number inside brackets. -/
def bracketed? (cs : List Char) : Except UrlError Host :=
  match cs.getLast? with
  | some ']' =>
    match HostNumber.longHost? cs.dropLast with
    | some words => .ok (.long words)
    | none => .error .badLongNumber
  | _ => .error .badLongNumber

/-- The host of a special URL. -/
def Host.read (cs : List Char) : Except UrlError Host :=
  match cs with
  | '[' :: rest => bracketed? rest
  | _ =>
    match (Text.decode? (percentDecode cs)).bind Domain.toAscii? with
    | none => .error .badDomain
    | some [] => .error .emptyHost
    | some domain =>
      if endsInNumber domain then
        match shortNumber? domain with
        | some n => .ok (.short n)
        | none => .error .badShortNumber
      else .ok (.name domain)

/-- The characters that no host may have. -/
def isForbidden (c : Char) : Bool :=
  c.toNat = 0 || ['\t', '\n', '\r', ' ', '#', '/', ':', '<', '>', '?', '@', '[', '\\', ']', '^',
    '|'].contains c

/-- The host of a URL that is not special. -/
def Host.readOpaque (cs : List Char) : Except UrlError Host :=
  match cs with
  | '[' :: rest => bracketed? rest
  | _ =>
    if cs.any isForbidden then .error .badHostCharacter
    else .ok (.name (percentEncode .controls cs))

/-! ## Writing -/

/-- The length of the run of zeros at the start of a list. -/
def zeroRun (words : List Nat) : Nat := (words.takeWhile (· == 0)).length

/-- Where the longest run of at least two zeros starts, and its length. Of several the first counts.
-/
def longestGap (words : List Nat) : Option (Nat × Nat) :=
  (List.range words.length).foldl (fun best i =>
    let run := zeroRun (words.drop i)
    match best with
    | some (_, n) => if n < run then some (i, run) else best
    | none => if 1 < run then some (i, run) else none) none

def hexWords (words : List Nat) : List Char :=
  List.intercalate [':'] (words.map (Nat.toDigits 16))

def longText (words : List Nat) : List Char :=
  match longestGap words with
  | none => hexWords words
  | some (start, size) =>
    hexWords (words.take start) ++ [':', ':'] ++ hexWords (words.drop (start + size))

def shortText (n : Nat) : List Char :=
  List.intercalate ['.']
    ([n / 0x1000000, n / 0x10000 % 256, n / 0x100 % 256, n % 256].map (Nat.toDigits 10))

def Host.text : Host → List Char
  | .name text => text
  | .short n => shortText n
  | .long words => '[' :: longText words ++ [']']

end TabTools.Url
