/-!
# Lists sorted by key

The fields of an object and the open documents are kept as lists of pairs in the order of their
keys, each key once.
-/

namespace TabTools

/-- Adds a pair where its key belongs, in place of a pair with the same key. -/
def insertKey {α : Type} (key : String) (value : α) : List (String × α) → List (String × α)
  | [] => [(key, value)]
  | (k, v) :: rest =>
    if key < k then (key, value) :: (k, v) :: rest
    else if key = k then (key, value) :: rest
    else (k, v) :: insertKey key value rest

end TabTools
