import TabTools.Assembly.Listing
import TabTools.Editor.Settings
import TabTools.Json.Basic
import TabTools.Source
import TabTools.Text.Upper

/-!
# Documents in an editor

A document is a text together with its listing. From both of them come the findings that are shown
in the text, the text that is shown at a position, and the place where the name at a position is
defined.

Positions count lines and characters from zero. The numbers are 32-bit words.
-/

namespace TabTools.Editor

open Assembly

structure Position where
  line : Nat
  character : Nat
deriving DecidableEq, Repr

/-- The characters from `start` up to, not including, `stop`. -/
structure Range where
  start : Position
  stop : Position
deriving DecidableEq, Repr

/-- A number of a position. -/
def word (n : Nat) : Nat := n % 0x100000000

/-- The range of a span. -/
def Range.ofSpan (span : Span) : Range :=
  ⟨⟨word span.line, word span.start⟩, ⟨word span.line, word span.stop⟩⟩

/-- Something to say about a part of a document. -/
structure Finding where
  range : Range
  severity : Severity
  message : String
deriving DecidableEq, Repr

/-- Text to show for a range, in Markdown. -/
structure Hover where
  text : String
  range : Range
deriving DecidableEq, Repr

structure Document where
  source : Source
  listing : Listing
deriving DecidableEq

namespace Document

def ofText (text : List Char) : Document := ⟨.ofText text, assemble text⟩

def tokenAt (doc : Document) (position : Position) : Option Token :=
  doc.listing.tokenAt position.line position.character

/-! ## Findings -/

def ofDiagnostic (d : Diagnostic) : Finding := ⟨.ofSpan d.span, d.severity, d.message⟩

/-- Whether a token is not in uppercase and should be. -/
def wantsUppercase (settings : Settings) (t : Token) : Bool :=
  settings.prefersUppercase t.tag && t.text.toList != Text.upper t.text.toList

def caseFinding (t : Token) : Finding :=
  ⟨.ofSpan t.span, .warning, t.tag.name ++ " `" ++ t.text ++ "` should be uppercase"⟩

/-- What the assembler found, then a warning for every token that should be in uppercase. -/
def findings (doc : Document) (settings : Settings) : List Finding :=
  doc.listing.diagnostics.map ofDiagnostic ++
    (doc.listing.tokens.filter (wantsUppercase settings)).map caseFinding

/-! ## Names -/

/-- The label that defines the name at a position. -/
def definitionAt (doc : Document) (position : Position) : Option Token := do
  let t ← doc.tokenAt position
  doc.listing.definitionOf (← t.symbolName)

/-- The range that defines the name at a position. -/
def definition (doc : Document) (position : Position) : Option Range :=
  (doc.definitionAt position).map fun label => .ofSpan label.span

/-- What is shown for a name: its class, and the line that defines it. -/
def nameText (doc : Document) (t label : Token) : String :=
  let line := String.ofList ((doc.source.trimmed? label.span.line).getD [])
  let number := label.span.line + 1
  "**" ++ t.text ++ "** (" ++ t.tag.name ++ ")\n\nDefined on line " ++ toString number ++
    ":\n```tabasm\n" ++ line ++ "\n```"

/-- What is shown for an instruction. -/
def instructionText (t : Token) : String :=
  "`" ++ String.ofList (Text.upper t.text.toList) ++ "` (" ++ t.tag.name ++ ")"

/-- What is shown for a token. -/
def tokenText (doc : Document) (t : Token) : Option String :=
  match t.tag with
  | .label => (doc.listing.definitionOf t.text).map (doc.nameText t)
  | .symbol => (doc.listing.definitionOf t.text).map (doc.nameText t)
  | .mnemonic => some (instructionText t)
  | .directive => some (instructionText t)
  | .register => none
  | .number => none

def hover (doc : Document) (position : Position) : Option Hover := do
  let t ← doc.tokenAt position
  return ⟨← doc.tokenText t, .ofSpan t.span⟩

end Document

/-! ## As JSON -/

def Position.toJson (p : Position) : Json :=
  .object [("line", .nat p.line), ("character", .nat p.character)]

def Range.toJson (r : Range) : Json :=
  .object [("start", r.start.toJson), ("end", r.stop.toJson)]

/-- The number of a severity. -/
def severityCode : Severity → Nat
  | .error => 1
  | .warning => 2

def Finding.toJson (f : Finding) : Json :=
  .object [("range", f.range.toJson), ("severity", .nat (severityCode f.severity)),
    ("source", .str "tabasm"), ("message", .str f.message)]

def Hover.toJson (h : Hover) : Json :=
  .object [("contents", .object [("kind", .str "markdown"), ("value", .str h.text)]),
    ("range", h.range.toJson)]

/-- A range in the document with the given URI. -/
def Range.locationJson (uri : String) (r : Range) : Json :=
  .object [("uri", .str uri), ("range", r.toJson)]

end TabTools.Editor
