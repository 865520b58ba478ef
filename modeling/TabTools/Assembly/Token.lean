/-!
# Tokens and diagnostics

A token is a classified piece of one source line. Positions count lines and characters from zero;
the end column of a span is the column after its last character.
-/

namespace TabTools.Assembly

/-- A piece of one line, from column `start` up to, not including, column `stop`. -/
structure Span where
  line : Nat
  start : Nat
  stop : Nat
deriving DecidableEq, Repr

/-- Whether a position lies on a span. The position behind the last character counts too, as a
cursor standing there touches the token. -/
def Span.touches (span : Span) (line column : Nat) : Bool :=
  span.line == line && span.start ≤ column && column ≤ span.stop

/-- Source order: by line, then by column. -/
def Span.before (a b : Span) : Bool :=
  a.line < b.line || (a.line == b.line && a.start ≤ b.start)

inductive TokenClass where
  | label
  | mnemonic
  | directive
  | register
  | symbol
  | number
deriving DecidableEq, Repr

def TokenClass.all : List TokenClass :=
  [.label, .mnemonic, .directive, .register, .symbol, .number]

def TokenClass.name : TokenClass → String
  | .label => "label"
  | .mnemonic => "mnemonic"
  | .directive => "directive"
  | .register => "register"
  | .symbol => "symbol"
  | .number => "number"

structure Token where
  span : Span
  text : String
  tag : TokenClass
deriving DecidableEq, Repr

/-- The name that a token defines or refers to. -/
def Token.symbolName (t : Token) : Option String :=
  match t.tag with
  | .label => some t.text
  | .symbol => some t.text
  | _ => none

inductive Severity where
  | error
  | warning
deriving DecidableEq, Repr

/-- What is wrong in a source text. -/
inductive Fault where
  | namelessLabel
  | invalidLabel (name : String)
  | duplicateLabel (name : String)
  | undefinedSymbol (name : String)
deriving DecidableEq, Repr

def Fault.message : Fault → String
  | .namelessLabel => "label without a name"
  | .invalidLabel name => s!"invalid label name `{name}`"
  | .duplicateLabel name => s!"duplicate label `{name}`"
  | .undefinedSymbol name => s!"undefined symbol `{name}`"

structure Diagnostic where
  span : Span
  severity : Severity
  fault : Fault
deriving DecidableEq, Repr

def Diagnostic.message (d : Diagnostic) : String := d.fault.message

end TabTools.Assembly
