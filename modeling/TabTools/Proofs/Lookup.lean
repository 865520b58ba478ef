import TabTools.Lookup

/-!
# Association lists

Looking up a key in a list of pairs, as a case distinction on the first pair.

**Sorted lists** (`Sorted`). Lists of pairs are kept in the order of their keys, each key once, by
inserting where the key belongs (`insertKey`). Insertion keeps them sorted (`sorted_insertKey`) and is
seen by no other key (`lookup_insertKey`).
-/

namespace TabTools

theorem lookup_cons_ite {κ α : Type} [BEq κ] [LawfulBEq κ] [DecidableEq κ] (k key : κ) (value : α)
    (rest : List (κ × α)) :
    ((key, value) :: rest).lookup k = if k = key then some value else rest.lookup k := by
  rw [List.lookup_cons]
  by_cases hk : k = key
  · simp [hk]
  · simp [hk, beq_eq_false_iff_ne.2 hk]

/-! ## Sorted lists -/

variable {α : Type}

/-- The keys stand in ascending order, each once. -/
def Sorted (entries : List (String × α)) : Prop := entries.Pairwise fun e f => e.1 < f.1

theorem lookup_insertKey (key k : String) (value : α) (entries : List (String × α)) :
    (insertKey key value entries).lookup k = if k = key then some value else entries.lookup k := by
  induction entries with
  | nil => exact lookup_cons_ite k key value []
  | cons entry rest ih =>
    obtain ⟨k', v⟩ := entry
    unfold insertKey
    split
    · rw [lookup_cons_ite]
    · split
      · rename_i heq
        subst heq
        by_cases hk : k = key <;> simp [lookup_cons_ite, hk]
      · rename_i hne
        rw [lookup_cons_ite, lookup_cons_ite, ih]
        by_cases hk : k = k'
        · subst hk
          simp [Ne.symm hne]
        · simp [hk]

theorem mem_insertKey {key : String} {value : α} {entries : List (String × α)} {e : String × α}
    (h : e ∈ insertKey key value entries) : e = (key, value) ∨ e ∈ entries := by
  induction entries with
  | nil => exact .inl (List.mem_singleton.1 h)
  | cons entry rest ih =>
    unfold insertKey at h
    split at h
    · exact List.mem_cons.1 h
    · split at h
      · exact (List.mem_cons.1 h).imp_right (List.mem_cons_of_mem _)
      · rcases List.mem_cons.1 h with rfl | h
        · exact .inr (.head _)
        · exact (ih h).imp_right (List.mem_cons_of_mem _)

theorem sorted_insertKey (key : String) (value : α) {entries : List (String × α)}
    (h : Sorted entries) : Sorted (insertKey key value entries) := by
  induction entries with
  | nil => exact List.pairwise_singleton _ _
  | cons entry rest ih =>
    obtain ⟨k, v⟩ := entry
    obtain ⟨hfirst, hrest⟩ := List.pairwise_cons.1 h
    unfold insertKey
    split
    · rename_i hlt
      refine List.pairwise_cons.2 ⟨fun e he => ?_, h⟩
      rcases List.mem_cons.1 he with rfl | he
      · exact hlt
      · exact String.lt_trans hlt (hfirst e he)
    · split
      · rename_i heq
        subst heq
        exact List.pairwise_cons.2 ⟨hfirst, hrest⟩
      · rename_i hnlt hne
        -- The key is beyond the first one, and so is all that comes after it.
        have hlt : k < key := by
          apply Classical.byContradiction
          intro hge
          exact hne (String.le_antisymm (String.not_lt.1 hge) (String.not_lt.1 hnlt))
        refine List.pairwise_cons.2 ⟨fun e he => ?_, ih hrest⟩
        rcases mem_insertKey he with rfl | he
        · exact hlt
        · exact hfirst e he

theorem insertKey_of_forall_lt {key : String} (value : α) {entries : List (String × α)}
    (last : ∀ e ∈ entries, e.1 < key) :
    insertKey key value entries = entries ++ [(key, value)] := by
  induction entries with
  | nil => rfl
  | cons e entries ih =>
    have lt := last e List.mem_cons_self
    rw [insertKey, if_neg (String.lt_asymm lt),
      if_neg (fun h => String.lt_irrefl key (by rwa [← h] at lt)),
      ih fun f hf => last f (List.mem_cons_of_mem e hf), List.cons_append]

/-- Inserting pairs that are in order already. -/
theorem foldl_insertKey (sorted : List (String × α)) {entries : List (String × α)}
    (ordered : Sorted (sorted ++ entries)) :
    entries.foldl (fun sorted e => insertKey e.1 e.2 sorted) sorted = sorted ++ entries := by
  induction entries generalizing sorted with
  | nil => simp
  | cons e entries ih =>
    have last : ∀ f ∈ sorted, f.1 < e.1 := fun f hf =>
      (List.pairwise_append.1 ordered).2.2 f hf e List.mem_cons_self
    rw [List.foldl_cons, insertKey_of_forall_lt e.2 last, List.append_cons sorted e entries]
    rw [List.append_cons sorted e entries] at ordered
    exact ih _ ordered

/-- The values under a key are those that looking it up finds. -/
theorem filterMap_key {entries : List (String × α)} (h : Sorted entries) (key : String) :
    entries.filterMap (fun e => if e.1 = key then some e.2 else none) =
      (entries.lookup key).toList := by
  induction entries with
  | nil => rfl
  | cons entry rest ih =>
    obtain ⟨k, v⟩ := entry
    obtain ⟨hfirst, hrest⟩ := List.pairwise_cons.1 h
    rw [List.filterMap_cons, ih hrest, lookup_cons_ite]
    by_cases hkey : k = key
    · have hnone : rest.lookup key = none := by
        rw [List.lookup_eq_none_iff]
        intro e he
        have := hfirst e he
        rw [bne_iff_ne]
        rintro rfl
        exact String.lt_irrefl _ (hkey ▸ this)
      simp [hkey, hnone]
    · simp [hkey, Ne.symm hkey]

end TabTools
