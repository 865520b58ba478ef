import TabTools.Json.Parser
import TabTools.Json.Printer
import TabTools.Text.Blank
import TabTools.Text.Utf8

/-!
# Framed messages

A message travels as a block of header lines, an empty line and a body of exactly as many bytes as
the header `Content-Length` says. The body is JSON text.

**Writing.** `frame` writes the one header that is needed.

**Reading.** `read` takes one message off the front of the bytes and returns what follows it, also
when it fails: a failure has consumed the header lines up to the faulty one, or the whole frame when
its body is no JSON text. Header lines that are not known are skipped, and of several lengths the
last counts.
-/

namespace TabTools.Wire

/-- Why a text is no size. -/
inductive SizeError where
  | empty
  | badDigit
  | tooLarge
deriving DecidableEq, Repr

def SizeError.message : SizeError → String
  | .empty => "cannot parse integer from empty string"
  | .badDigit => "invalid digit found in string"
  | .tooLarge => "number too large to fit in target type"

/-- Why no message could be read. -/
inductive ReadError where
  | closed
  | missingLength
  | badLength (cause : SizeError)
  | truncated
  | notUtf8
  | badJson
deriving DecidableEq, Repr

def ReadError.message : ReadError → String
  | .closed => "DAP connection closed"
  | .missingLength => "Missing Content-Length header"
  | .badLength cause => cause.message
  | .truncated => "failed to fill whole buffer"
  | .notUtf8 => "stream did not contain valid UTF-8"
  | .badJson => "invalid JSON"

/-! ## Sizes -/

/-- Reads digits from left to right; the first bad or overflowing one decides. -/
def digitsSize (limit : Nat) : (size : Nat) → List Char → Except SizeError Nat
  | size, [] => .ok size
  | size, c :: rest =>
    if !c.isDigit then .error .badDigit
    else if limit < size * 10 + (c.toNat - 48) then .error .tooLarge
    else digitsSize limit (size * 10 + (c.toNat - 48)) rest

/-- Reads a size of at most `limit`: decimal digits, perhaps behind a plus sign. -/
def parseSize (limit : Nat) : List Char → Except SizeError Nat
  | [] => .error .empty
  | ['+'] => .error .badDigit
  | '+' :: rest => digitsSize limit 0 rest
  | cs => digitsSize limit 0 cs

/-- The largest length of a body. -/
def maxLength : Nat := 0xFFFFFFFFFFFFFFFF

/-! ## Writing -/

def lengthHeader : List Char := "Content-Length:".toList

/-- The bytes of a framed body. -/
def frameBody (body : List UInt8) : List UInt8 :=
  Text.encode (lengthHeader ++ ' ' :: Nat.toDigits 10 body.length ++ "\r\n\r\n".toList) ++ body

/-- The bytes of a framed message. -/
def frame (message : Json) : List UInt8 := frameBody (Text.encode message.render)

/-! ## Reading -/

/-- The next line with its line feed, and what follows. -/
def takeLine : List UInt8 → List UInt8 × List UInt8
  | [] => ([], [])
  | b :: rest =>
    if b = 10 then ([b], rest)
    else
      let line := takeLine rest
      (b :: line.1, line.2)

/-- A header line without its ending. -/
def dropEnding (line : List Char) : List Char :=
  (line.reverse.dropWhile fun c => c == '\r' || c == '\n').reverse

/-- What a header line means. -/
inductive Header where
  | blank
  | length (size : Nat)
  | other
deriving DecidableEq, Repr

def parseHeader (line : List UInt8) : Except ReadError Header :=
  match Text.decode? line with
  | none => .error .notUtf8
  | some text =>
    let text := dropEnding text
    if text.isEmpty then .ok .blank
    else
      match Text.afterPrefix? lengthHeader text with
      | none => .ok .other
      | some rest =>
        match parseSize maxLength (Text.trim rest) with
        | .ok size => .ok (.length size)
        | .error e => .error (.badLength e)

theorem takeLine_length (bytes : List UInt8) : (takeLine bytes).2.length ≤ bytes.length := by
  induction bytes with
  | nil => simp [takeLine]
  | cons b rest ih =>
    simp only [takeLine]
    split
    · simp
    · simp only [List.length_cons]; omega

theorem takeLine_cons_length (b : UInt8) (rest : List UInt8) :
    (takeLine (b :: rest)).2.length < (b :: rest).length := by
  have := takeLine_length rest
  simp only [takeLine]
  split
  · simp
  · simp only [List.length_cons]; omega

/-- Reads header lines up to the empty one: the last length among them, and what follows. -/
def readHeaders (length : Option Nat) (bytes : List UInt8) :
    Except ReadError (Option Nat) × List UInt8 :=
  match bytes with
  | [] => (.error .closed, [])
  | b :: rest =>
    let line := takeLine (b :: rest)
    match parseHeader line.1 with
    | .error e => (.error e, line.2)
    | .ok .blank => (.ok length, line.2)
    | .ok (.length size) => readHeaders (some size) line.2
    | .ok .other => readHeaders length line.2
termination_by bytes.length
decreasing_by all_goals exact takeLine_cons_length b rest

/-- The value of a body. -/
def parseBody (body : List UInt8) : Except ReadError Json :=
  match (Text.decode? body).bind Json.parse? with
  | none => .error .badJson
  | some v => .ok v

/-- Takes one message off the front. -/
def read (bytes : List UInt8) : Except ReadError Json × List UInt8 :=
  match readHeaders none bytes with
  | (.error e, rest) => (.error e, rest)
  | (.ok none, rest) => (.error .missingLength, rest)
  | (.ok (some size), rest) =>
    if rest.length < size then (.error .truncated, [])
    else (parseBody (rest.take size), rest.drop size)

end TabTools.Wire
