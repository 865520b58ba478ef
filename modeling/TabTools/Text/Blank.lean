/-!
# Blank characters and pieces of text

A character is *blank* when it has the Unicode white-space property. Trimming removes blanks at
both ends, and the *words* of a text are its maximal runs of characters that are not blank.

Cutting a list at its separators (`pieces`) is the one loop underneath: lines, words and path
components are all read off its result.
-/

namespace TabTools.Text

/-- The code points of the white-space property, as inclusive ranges. -/
def blankRanges : List (Nat × Nat) :=
  [(0x09, 0x0D), (0x20, 0x20), (0x85, 0x85), (0xA0, 0xA0), (0x1680, 0x1680), (0x2000, 0x200A),
   (0x2028, 0x2029), (0x202F, 0x202F), (0x205F, 0x205F), (0x3000, 0x3000)]

/-- Whether a character is in one of several inclusive ranges of code points. -/
def within (ranges : List (Nat × Nat)) (c : Char) : Bool :=
  ranges.any fun r => r.1 ≤ c.toNat && c.toNat ≤ r.2

def isBlank (c : Char) : Bool := within blankRanges c

/-- Removes the blanks before and after a text. -/
def trim (text : List Char) : List Char :=
  ((text.dropWhile isBlank).reverse.dropWhile isBlank).reverse

/-- The pieces between separators, in order and with empty pieces kept: there is always one piece
more than there are separators. -/
def pieces {α : Type} (separator : α → Bool) : List α → List (List α)
  | [] => [[]]
  | c :: rest =>
    match separator c, pieces separator rest with
    | true, ps => [] :: ps
    | false, [] => [[c]]
    | false, p :: ps => (c :: p) :: ps

/-- The maximal runs of characters that are not blank. -/
def blankWords (text : List Char) : List (List Char) :=
  (pieces isBlank text).filter fun piece => !piece.isEmpty

/-- Whether `word` stands somewhere in `text`. -/
def mentions (word : List Char) : List Char → Bool
  | [] => word.isEmpty
  | c :: rest => word.isPrefixOf (c :: rest) || mentions word rest

/-- The rest of `text` after `start`, if `text` begins with it. -/
def afterPrefix? : (start text : List Char) → Option (List Char)
  | [], text => some text
  | _ :: _, [] => none
  | s :: start, c :: text => if s = c then afterPrefix? start text else none

theorem pieces_ne_nil {α : Type} (separator : α → Bool) (xs : List α) :
    pieces separator xs ≠ [] := by
  cases xs with
  | nil => simp [pieces]
  | cons c rest =>
    unfold pieces
    split <;> simp

end TabTools.Text
