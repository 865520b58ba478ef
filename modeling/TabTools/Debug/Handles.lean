/-!
# Variable handles

A handle is a number that a client can expand into variables; it stands for the label it was created
with. Handles are numbered from 1000 in order of creation and are never given back, so a label asked
for twice gets two handles.
-/

namespace TabTools.Debug

/-- The labels of all handles so far, oldest first. -/
structure Handles where
  labels : List String := []
deriving DecidableEq, Repr

namespace Handles

def firstHandle : Nat := 1000

/-- The handle that the next label gets. -/
def next (handles : Handles) : Nat := firstHandle + handles.labels.length

def add (handles : Handles) (label : String) : Handles := ⟨handles.labels ++ [label]⟩

/-- The label behind a handle. -/
def get? (handles : Handles) (handle : Int) : Option String :=
  if (firstHandle : Int) ≤ handle then handles.labels[(handle - firstHandle).toNat]? else none

@[simp]
theorem next_add (handles : Handles) (label : String) :
    (handles.add label).next = handles.next + 1 := by
  simp [next, add, Nat.add_assoc]

end Handles

end TabTools.Debug
