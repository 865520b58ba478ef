import TabTools.Text.Blank

/-!
# Words of a source line

Words are separated by blanks and commas and end at a comment, which starts with a semicolon. Inside
double quotes none of these has a meaning: a quote switches quoting on or off before it is looked
at itself, so the opening quote is quoted and the closing one is not.
-/

namespace TabTools.Assembly

/-- A word and the column of its first character. -/
structure Word where
  column : Nat
  text : List Char
deriving DecidableEq, Repr

/-- Whether quoting is on at the character `c`, given whether it was on before. -/
def quotedAt (quoted : Bool) (c : Char) : Bool :=
  if c = '"' then !quoted else quoted

def startsComment (c : Char) : Bool := c == ';'

def separates (c : Char) : Bool := Text.isBlank c || c == ','

/-- Adds a character to the word in progress, or starts one. -/
def Word.extend (column : Nat) (c : Char) : Option Word → Word
  | none => ⟨column, [c]⟩
  | some w => { w with text := w.text ++ [c] }

/-- The words from `column` on. `quoted` says whether quoting was on before, and `open?` is the word
in progress. -/
def wordsFrom (column : Nat) (quoted : Bool) (open? : Option Word) : List Char → List Word
  | [] => open?.toList
  | c :: rest =>
    let quoted := quotedAt quoted c
    if !quoted && startsComment c then open?.toList
    else if !quoted && separates c then
      open?.toList ++ wordsFrom (column + 1) quoted none rest
    else wordsFrom (column + 1) quoted (some (Word.extend column c open?)) rest

/-- The words of a line, from left to right. -/
def words (line : List Char) : List Word := wordsFrom 0 false none line

end TabTools.Assembly
