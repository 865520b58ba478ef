import TabTools.Assembly.Token
import TabTools.Assembly.Word
import TabTools.Text.Lines

/-!
# Listings

A line reads `[label:] [mnemonic|.directive] [operand[, operand]...] [; comment]`. Assembling a text
classifies the words of every line and checks the names: a label must be an identifier and be
defined once, and a symbol must be some label of the text, before or after it.

The result is a `Listing`: the tokens in source order, the diagnostics sorted by position, and the
place of every definition among the tokens.
-/

namespace TabTools.Assembly

/-! ## One line -/

def startsIdentifier (c : Char) : Bool := c.isAlpha || c == '_'

def continuesIdentifier (c : Char) : Bool := c.isAlphanum || c == '_'

def isIdentifier : List Char → Bool
  | [] => false
  | c :: rest => startsIdentifier c && rest.all continuesIdentifier

/-- Characters that may stand before an operand. -/
def decoratesOperand (c : Char) : Bool := c == '#' || c == '<' || c == '>' || c == '('

def belongsToOperand (c : Char) : Bool := c.isAlphanum || c == '_' || c == '$' || c == '%'

def isRegister (operand : List Char) : Bool :=
  [['a'], ['x'], ['y']].contains (operand.map Char.toLower)

def startsNumber (c : Char) : Bool := c.isDigit || c == '$' || c == '%'

/-- The class of an operand, if it has one. -/
def operandClass : List Char → Option TokenClass
  | [] => none
  | c :: rest =>
    if startsNumber c then some .number
    else if isRegister (c :: rest) then some .register
    else if isIdentifier (c :: rest) then some .symbol
    else none

def makeToken (line column : Nat) (text : List Char) (tag : TokenClass) : Token :=
  ⟨⟨line, column, column + text.length⟩, String.ofList text, tag⟩

/-- The token of an operand word. A quoted string is none, and neither is a word without an operand
behind its decoration. -/
def operandToken? (line : Nat) (word : Word) : Option Token :=
  if word.text.head? = some '"' then none
  else
    let skipped := (word.text.takeWhile decoratesOperand).length
    let operand := (word.text.drop skipped).takeWhile belongsToOperand
    (operandClass operand).map (makeToken line (word.column + skipped) operand)

/-- What one line contributes. -/
structure LineScan where
  tokens : List Token
  diagnostics : List Diagnostic

/-- The name before the colon of a label word. -/
def labelName? (word : Word) : Option (List Char) :=
  if word.text.getLast? = some ':' then some word.text.dropLast else none

/-- Scans a label word with the given name. -/
def scanLabel (line : Nat) (word : Word) (name : List Char) : LineScan :=
  if isIdentifier name then ⟨[makeToken line word.column name .label], []⟩
  else
    let fault := if name.isEmpty then Fault.namelessLabel else .invalidLabel (String.ofList name)
    ⟨[], [⟨⟨line, word.column, word.column + word.text.length⟩, .error, fault⟩]⟩

/-- The tokens of an instruction: its name, then its operands. -/
def instructionTokens (line : Nat) : List Word → List Token
  | [] => []
  | name :: operands =>
    let tag := if name.text.head? = some '.' then TokenClass.directive else .mnemonic
    makeToken line name.column name.text tag :: operands.filterMap (operandToken? line)

def scanWords (line : Nat) : List Word → LineScan
  | [] => ⟨[], []⟩
  | first :: rest =>
    match labelName? first with
    | none => ⟨instructionTokens line (first :: rest), []⟩
    | some name =>
      let label := scanLabel line first name
      ⟨label.tokens ++ instructionTokens line rest, label.diagnostics⟩

def scanLine (line : Nat) (text : List Char) : LineScan := scanWords line (words text)

/-! ## A whole text -/

/-- What the assembler makes of a text. -/
structure Listing where
  tokens : List Token
  diagnostics : List Diagnostic
  /-- The names that are defined, each with the place of its label among the tokens. -/
  definitions : List (String × Nat)
deriving DecidableEq

def isLabel (t : Token) : Bool := t.tag == .label

/-- Adds the names that tokens define, the first of which stands at `place`. A name that is known
keeps its place. -/
def defineFrom (place : Nat) (known : List (String × Nat)) : List Token → List (String × Nat)
  | [] => known
  | t :: rest =>
    if isLabel t && (known.lookup t.text).isNone then
      defineFrom (place + 1) ((t.text, place) :: known) rest
    else defineFrom (place + 1) known rest

/-- The listing of the given tokens: of several labels with one name the first defines it. -/
def Listing.ofTokens (tokens : List Token) (diagnostics : List Diagnostic) : Listing :=
  ⟨tokens, diagnostics, defineFrom 0 [] tokens⟩

/-- The labels whose name an earlier label has. -/
def repeatedLabels (seen : List String) : List Token → List Token
  | [] => []
  | t :: rest =>
    if !isLabel t then repeatedLabels seen rest
    else if seen.contains t.text then t :: repeatedLabels seen rest
    else repeatedLabels (t.text :: seen) rest

/-- The symbols that no label defines. -/
def undefinedSymbols (tokens : List Token) : List Token :=
  let defined := (tokens.filter isLabel).map (·.text)
  tokens.filter fun t => t.tag == .symbol && !defined.contains t.text

def nameDiagnostics (tokens : List Token) : List Diagnostic :=
  (repeatedLabels [] tokens).map (fun t => ⟨t.span, .error, .duplicateLabel t.text⟩) ++
    (undefinedSymbols tokens).map fun t => ⟨t.span, .error, .undefinedSymbol t.text⟩

def scanLines (text : List Char) : List LineScan :=
  (Text.lines text).zipIdx.map fun (line, number) => scanLine number line

/-- Assembles a text. -/
def assemble (text : List Char) : Listing :=
  let scans := scanLines text
  let tokens := scans.flatMap (·.tokens)
  let found := scans.flatMap (·.diagnostics) ++ nameDiagnostics tokens
  .ofTokens tokens (found.mergeSort fun a b => a.span.before b.span)

namespace Listing

/-- The label that defines a name. -/
def definitionOf (listing : Listing) (name : String) : Option Token :=
  (listing.definitions.lookup name).bind fun place => listing.tokens[place]?

/-- The token that a position touches. -/
def tokenAt (listing : Listing) (line column : Nat) : Option Token :=
  listing.tokens.find? fun t => t.span.touches line column

def hasErrors (listing : Listing) : Bool :=
  listing.diagnostics.any fun d => d.severity == .error

end Listing

end TabTools.Assembly
