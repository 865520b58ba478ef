import TabTools.Json.Basic
import TabTools.Proofs.Lookup

/-!
# Looking up fields

An object made by `Json.object` has under a key what the last of the given fields with that key says,
in whatever order the fields were given (`get?_object`).
-/

namespace TabTools.Json

theorem sortFields_append (fields : List (String × Json)) (key : String) (value : Json) :
    sortFields (fields ++ [(key, value)]) = insertKey key value (sortFields fields) := by
  simp [sortFields, List.foldl_append]

/-- **Sorting keeps the last field of every key.** -/
theorem lookup_sortFields (fields : List (String × Json)) (k : String) :
    (sortFields fields).lookup k = fields.reverse.lookup k := by
  -- From the end, since the last field was inserted last.
  rw [← List.reverse_reverse fields]
  induction fields.reverse with
  | nil => rfl
  | cons field rest ih =>
    obtain ⟨key, value⟩ := field
    rw [List.reverse_cons, sortFields_append, lookup_insertKey, ih, List.reverse_append]
    exact (lookup_cons_ite k key value rest.reverse.reverse).symm

@[simp] theorem get?_object (k : String) (fields : List (String × Json)) :
    (object fields).get? k = fields.reverse.lookup k :=
  lookup_sortFields fields k

end TabTools.Json
