import TabTools.Proofs.Json.RoundTrip

/-!
# Well-formed and readable values

**Reading** (`parse?_wellFormed`). Whatever a text denotes is well-formed: its integers are in
range, and its objects have their fields in key order, each key once. The three readers are followed
together, by induction on the steps they may take.

**Building** (`readable_object`, `readable_arr`). Objects and arrays of readable values are
readable, one level deeper. Fields may be given in any order, since `Json.object` sorts them.
-/

namespace TabTools.Json

/-! ## Members -/

theorem wellFormedItems_iff {items : List Json} :
    wellFormedItems items = true ↔ ∀ v ∈ items, v.wellFormed = true := by
  induction items with
  | nil => simp [wellFormedItems]
  | cons v items ih => simp [wellFormedItems, ih]

theorem wellFormedFields_iff {fields : List (String × Json)} :
    wellFormedFields fields = true ↔ ∀ f ∈ fields, f.2.wellFormed = true := by
  induction fields with
  | nil => simp [wellFormedFields]
  | cons f fields ih => simp [wellFormedFields, ih]

theorem wellFormed_arr_iff {items : List Json} :
    (Json.arr items).wellFormed = true ↔ ∀ v ∈ items, v.wellFormed = true := by
  rw [wellFormed, wellFormedItems_iff]

theorem wellFormed_obj_iff {fields : List (String × Json)} :
    (Json.obj fields).wellFormed = true ↔
      Sorted fields ∧ ∀ f ∈ fields, f.2.wellFormed = true := by
  rw [wellFormed, Bool.and_eq_true, decide_eq_true_iff, wellFormedFields_iff]
  rfl

theorem allIntsItems_iff {items : List Json} :
    allIntsItems items = true ↔ ∀ v ∈ items, v.allInts = true := by
  induction items with
  | nil => simp [allIntsItems]
  | cons v items ih => simp [allIntsItems, ih]

theorem allIntsFields_iff {fields : List (String × Json)} :
    allIntsFields fields = true ↔ ∀ f ∈ fields, f.2.allInts = true := by
  induction fields with
  | nil => simp [allIntsFields]
  | cons f fields ih => simp [allIntsFields, ih]

theorem depthItems_le_iff {items : List Json} {d : Nat} :
    depthItems items ≤ d ↔ ∀ v ∈ items, v.depth ≤ d := by
  induction items with
  | nil => simp [depthItems]
  | cons v items ih => rw [depthItems, Nat.max_le, ih, List.forall_mem_cons]

theorem depthFields_le_iff {fields : List (String × Json)} {d : Nat} :
    depthFields fields ≤ d ↔ ∀ f ∈ fields, f.2.depth ≤ d := by
  induction fields with
  | nil => simp [depthFields]
  | cons f fields ih => rw [depthFields, Nat.max_le, ih, List.forall_mem_cons]

/-! ## Sorted fields -/

theorem sorted_sortFields (fields : List (String × Json)) : Sorted (sortFields fields) := by
  rw [← List.reverse_reverse fields]
  induction fields.reverse with
  | nil => exact List.Pairwise.nil
  | cons f rest ih =>
    rw [List.reverse_cons, sortFields_append]
    exact sorted_insertKey f.1 f.2 ih

theorem mem_of_mem_sortFields {fields : List (String × Json)} {f : String × Json}
    (h : f ∈ sortFields fields) : f ∈ fields := by
  rw [← List.mem_reverse]
  rw [← List.reverse_reverse fields] at h
  generalize fields.reverse = backwards at h ⊢
  induction backwards with
  | nil => cases h
  | cons g rest ih =>
    rw [List.reverse_cons, sortFields_append] at h
    rcases mem_insertKey h with rfl | h
    · exact .head _
    · exact List.mem_cons_of_mem _ (ih h)

theorem wellFormed_object {fields : List (String × Json)}
    (h : ∀ f ∈ fields, f.2.wellFormed = true) : (object fields).wellFormed = true :=
  wellFormed_obj_iff.2
    ⟨sorted_sortFields fields, fun f hf => h f (mem_of_mem_sortFields hf)⟩

/-! ## What texts denote -/

theorem significand_pushWhole {d : Digits} (h : d.significand ≤ maxSignificand) (c : Char) :
    (d.pushWhole c).significand ≤ maxSignificand := by
  unfold Digits.pushWhole
  split
  · exact h
  · rename_i hroom
    simp only [Bool.or_eq_true, decide_eq_true_eq, not_or, Nat.not_lt] at hroom
    exact hroom.2

theorem significand_ofWhole (digits : List Char) :
    (Digits.ofWhole digits).significand ≤ maxSignificand := by
  have hfold : ∀ (d : Digits), d.significand ≤ maxSignificand →
      (digits.foldl Digits.pushWhole d).significand ≤ maxSignificand := by
    induction digits with
    | nil => exact fun d h => h
    | cons c digits ih => exact fun d h => ih _ (significand_pushWhole h c)
  exact hfold _ (Nat.zero_le _)

theorem wholeNumber_wellFormed {negative : Bool} {d : Digits} {n : JsonNumber}
    (hd : d.significand ≤ maxSignificand) (h : wholeNumber negative d = some n) :
    (Json.num n).wellFormed = true := by
  unfold wholeNumber at h
  split at h
  · obtain ⟨m, -, rfl⟩ := Option.map_eq_some_iff.1 h
    rfl
  · split at h
    · cases h
      simp only [maxSignificand] at hd
      simp only [wellFormed, Bool.and_eq_true, decide_eq_true_eq]
      omega
    · split at h
      · rename_i hrange
        simp only [Bool.and_eq_true, decide_eq_true_eq] at hrange
        have hmin : d.significand ≤ 0x8000000000000000 := hrange.2
        cases h
        simp only [wellFormed, Bool.and_eq_true, decide_eq_true_eq]
        omega
      · obtain ⟨m, -, rfl⟩ := Option.map_eq_some_iff.1 h
        rfl

theorem unsignedNumber_wellFormed {negative : Bool} {cs rest : List Char} {n : JsonNumber}
    (h : unsignedNumber negative cs = some (n, rest)) : (Json.num n).wellFormed = true := by
  simp only [unsignedNumber, Option.bind_eq_bind, Option.bind_eq_some_iff] at h
  obtain ⟨⟨whole, cs'⟩, -, ⟨fraction, cs''⟩, -, ⟨exponent, cs'''⟩, -, h⟩ := h
  dsimp only at h
  split at h
  · obtain ⟨m, hm, hn⟩ := Option.bind_eq_some_iff.1 h
    cases hn
    exact wholeNumber_wellFormed (significand_ofWhole whole) hm
  · obtain ⟨m, -, hn⟩ := Option.bind_eq_some_iff.1 h
    cases hn
    rfl

theorem number_wellFormed {cs rest : List Char} {n : JsonNumber} (h : number cs = some (n, rest)) :
    (Json.num n).wellFormed = true := by
  unfold number at h
  split at h <;> exact unsignedNumber_wellFormed h

/-- What the three readers give within so many steps is well-formed. -/
structure ReadWellFormed (fuel : Nat) : Prop where
  value {depth : Nat} {cs rest : List Char} {v : Json}
    (h : Json.value fuel depth cs = some (v, rest)) : v.wellFormed = true
  items {depth : Nat} {cs rest : List Char} {vs : List Json}
    (h : Json.items fuel depth cs = some (vs, rest)) : ∀ v ∈ vs, v.wellFormed = true
  fields {depth : Nat} {cs rest : List Char} {fs : List (String × Json)}
    (h : Json.fields fuel depth cs = some (fs, rest)) : ∀ f ∈ fs, f.2.wellFormed = true

section

variable {fuel depth : Nat} {cs rest : List Char} (ih : ReadWellFormed fuel)
include ih

theorem value_wellFormed {v : Json} (h : value (fuel + 1) depth cs = some (v, rest)) :
    v.wellFormed = true := by
  unfold value at h
  split at h
  · cases h; rfl
  · cases h; rfl
  · cases h; rfl
  · obtain ⟨r, -, hr⟩ := Option.map_eq_some_iff.1 h
    cases hr
    rfl
  · split at h
    · cases h
    · split at h
      · cases h; rfl
      · obtain ⟨⟨vs, after⟩, hvs, hr⟩ := Option.map_eq_some_iff.1 h
        cases hr
        exact wellFormed_arr_iff.2 (ih.items hvs)
  · split at h
    · cases h
    · split at h
      · cases h; rfl
      · obtain ⟨⟨fs, after⟩, hfs, hr⟩ := Option.map_eq_some_iff.1 h
        cases hr
        exact wellFormed_object (ih.fields hfs)
  · obtain ⟨⟨n, after⟩, hn, hr⟩ := Option.map_eq_some_iff.1 h
    cases hr
    exact number_wellFormed hn

theorem items_wellFormed {vs : List Json} (h : items (fuel + 1) depth cs = some (vs, rest)) :
    ∀ v ∈ vs, v.wellFormed = true := by
  unfold items at h
  split at h
  · cases h
  · rename_i w after hw
    have hfirst := ih.value hw
    split at h
    · obtain ⟨⟨more, last⟩, hmore, hr⟩ := Option.map_eq_some_iff.1 h
      cases hr
      exact List.forall_mem_cons.2 ⟨hfirst, ih.items hmore⟩
    · cases h
      exact List.forall_mem_singleton.2 hfirst
    · cases h

theorem fields_wellFormed {fs : List (String × Json)}
    (h : fields (fuel + 1) depth cs = some (fs, rest)) : ∀ f ∈ fs, f.2.wellFormed = true := by
  unfold fields at h
  split at h
  · split at h
    · cases h
    · split at h
      · split at h
        · cases h
        · rename_i w after hw
          have hfirst := ih.value hw
          split at h
          · obtain ⟨⟨more, last⟩, hmore, hr⟩ := Option.map_eq_some_iff.1 h
            cases hr
            exact List.forall_mem_cons.2 ⟨hfirst, ih.fields hmore⟩
          · cases h
            exact List.forall_mem_singleton.2 hfirst
          · cases h
      · cases h
  · cases h

end

/-- **The readers give well-formed values**, whatever they may take and wherever they stop. -/
theorem readWellFormed (fuel : Nat) : ReadWellFormed fuel := by
  induction fuel with
  | zero => constructor <;> simp [value, items, fields]
  | succ fuel ih => exact ⟨value_wellFormed ih, items_wellFormed ih, fields_wellFormed ih⟩

theorem parse?_wellFormed {text : List Char} {v : Json} (h : parse? text = some v) :
    v.wellFormed = true := by
  unfold parse? parseWithin? at h
  split at h
  · rename_i w rest hvalue
    split at h
    · cases h
      exact (readWellFormed _).value hvalue
    · cases h
  · cases h

/-! ## Building readable values -/

theorem Readable.mono {d e : Nat} {v : Json} (h : Readable d v) (hle : d ≤ e) : Readable e v :=
  ⟨h.wellFormed, h.allInts, h.depth_le.trans hle⟩

theorem readable_arr {d : Nat} {items : List Json} (h : ∀ v ∈ items, Readable d v) :
    Readable (d + 1) (.arr items) where
  wellFormed := wellFormed_arr_iff.2 fun v hv => (h v hv).wellFormed
  allInts := by
    rw [Json.allInts, allIntsItems_iff]
    exact fun v hv => (h v hv).allInts
  depth_le := by
    rw [depth, Nat.add_le_add_iff_right, depthItems_le_iff]
    exact fun v hv => (h v hv).depth_le

theorem readable_object {d : Nat} {fields : List (String × Json)}
    (h : ∀ f ∈ fields, Readable d f.2) : Readable (d + 1) (object fields) where
  wellFormed := wellFormed_object fun f hf => (h f hf).wellFormed
  allInts := by
    rw [object, Json.allInts, allIntsFields_iff]
    exact fun f hf => (h f (mem_of_mem_sortFields hf)).allInts
  depth_le := by
    rw [object, depth, Nat.add_le_add_iff_right, depthFields_le_iff]
    exact fun f hf => (h f (mem_of_mem_sortFields hf)).depth_le

theorem readable_str (d : Nat) (s : String) : Readable d (.str s) := ⟨rfl, rfl, Nat.zero_le d⟩

theorem readable_bool (d : Nat) (b : Bool) : Readable d (.bool b) := ⟨rfl, rfl, Nat.zero_le d⟩

theorem readable_int (d : Nat) {n : Int} (hmin : -0x8000000000000000 ≤ n)
    (hmax : n ≤ 0xFFFFFFFFFFFFFFFF) : Readable d (.int n) where
  wellFormed := by
    simp only [int, wellFormed, Bool.and_eq_true, decide_eq_true_eq]
    exact ⟨hmin, hmax⟩
  allInts := rfl
  depth_le := Nat.zero_le d

theorem readable_nat (d : Nat) {n : Nat} (h : n ≤ 0xFFFFFFFFFFFFFFFF) : Readable d (.nat n) :=
  readable_int d (by omega) (by omega)

end TabTools.Json
