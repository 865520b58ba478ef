import TabTools.Proofs.Debug.Run
import TabTools.Proofs.Json.WellFormed

/-!
# Numbers in requests

**Records** (`Shape.read_induction`). Decoding a record changes it field by field. What every change
keeps, for a well-formed value, holds of the record that comes out, whether it was given as an
object or as an array.

**Requests** (`Request.ofJson_bounds`, `clientLines_bounds`). In a request that was read from a
text, the number and the lines of the wanted breakpoints are signed 64-bit integers, since texts
denote no integers below that range.
-/

namespace TabTools

/-- The signed 64-bit integers. -/
def IsInt64 (n : Int) : Prop := -0x8000000000000000 ≤ n ∧ n < 0x8000000000000000

/-! ## Decoders -/

theorem exists_of_bind_eq_ok {α β ε : Type} {x : Except ε α} {f : α → Except ε β} {b : β}
    (h : x >>= f = .ok b) : ∃ a, x = .ok a ∧ f a = .ok b := by
  cases x with
  | error e => cases h
  | ok a => exact ⟨a, rfl, h⟩

theorem Json.toInt64_bounds {v : Json} {n : Int} (hv : v.wellFormed = true)
    (h : v.toInt64 = .ok n) : IsInt64 n := by
  unfold toInt64 at h
  split at h
  · rename_i k
    split at h
    · rename_i hmax
      cases h
      simp only [wellFormed, Bool.and_eq_true, decide_eq_true_eq] at hv
      exact ⟨hv.1, hmax⟩
    · cases h
  · cases h

theorem mapM_ok_mem {α β ε : Type} {f : α → Except ε β} {xs : List α} {ys : List β}
    (h : xs.mapM f = .ok ys) : ∀ y ∈ ys, ∃ x ∈ xs, f x = .ok y := by
  induction xs generalizing ys with
  | nil =>
    cases h
    simp
  | cons x xs ih =>
    rw [List.mapM_cons] at h
    obtain ⟨y, hy, h⟩ := exists_of_bind_eq_ok h
    obtain ⟨rest, hrest, h⟩ := exists_of_bind_eq_ok h
    cases h
    refine List.forall_mem_cons.2 ⟨⟨x, .head _, hy⟩, fun z hz => ?_⟩
    obtain ⟨x', hx', hfx'⟩ := ih hrest z hz
    exact ⟨x', List.mem_cons_of_mem _ hx', hfx'⟩

/-- What holds of the items of a decoded list, if there is one. -/
theorem Json.toOption_toList {α : Type} {decode : Json → Except Mismatch α} {P : α → Prop}
    (hdecode : ∀ v a, v.wellFormed = true → decode v = .ok a → P a) {v : Json}
    (hv : v.wellFormed = true) {list : Option (List α)}
    (h : v.toOption (Json.toList decode) = .ok list) : ∀ l, list = some l → ∀ a ∈ l, P a := by
  rintro l rfl a ha
  cases v with
  | arr items =>
    cases hitems : items.mapM decode with
    | error e => simp [toOption, toList, hitems, Except.map] at h
    | ok l' =>
      simp only [toOption, toList, hitems, Except.map, Except.ok.injEq, Option.some.injEq] at h
      subst h
      obtain ⟨v, hmem, hdecoded⟩ := mapM_ok_mem hitems a ha
      exact hdecode v a (wellFormed_arr_iff.1 hv v hmem) hdecoded
  | null => cases h
  | bool | num | str | obj => simp [toOption, toList, refuse, Except.map] at h

namespace Shape

variable {σ : Type} {shape : Shape σ} {P : σ → Prop}

theorem readFields_induction
    (change : ∀ f ∈ shape.fields, ∀ v record after, v.wellFormed = true → P record →
      f.2 v record = .ok after → P after)
    {fields : List (String × Json)} (hfields : ∀ f ∈ fields, f.2.wellFormed = true)
    {record after : σ} (hrecord : P record) (h : shape.readFields fields record = .ok after) :
    P after := by
  induction fields generalizing record with
  | nil =>
    cases h
    exact hrecord
  | cons f fields ih =>
    obtain ⟨hf, hrest⟩ := List.forall_mem_cons.1 hfields
    unfold readFields at h
    split at h
    · exact ih hrest hrecord h
    · rename_i f' hlookup
      obtain ⟨early, late, hsplit, -⟩ := List.lookup_eq_some_iff.1 hlookup
      obtain ⟨next, hchange, h⟩ := exists_of_bind_eq_ok h
      have hmem : (f.1, f') ∈ shape.fields := by simp [hsplit]
      exact ih hrest (change _ hmem f.2 record next hf hrecord hchange) h

theorem readItems_induction {total : Nat}
    {fields : List (String × (Json → σ → Except Mismatch σ))}
    (change : ∀ f ∈ fields, ∀ v record after, v.wellFormed = true → P record →
      f.2 v record = .ok after → P after)
    {items : List Json} (hitems : ∀ v ∈ items, v.wellFormed = true)
    {record after : σ} (hrecord : P record) (h : readItems total fields items record = .ok after) :
    P after := by
  induction items generalizing fields record with
  | nil =>
    cases fields <;> cases h <;> exact hrecord
  | cons v items ih =>
    obtain ⟨hv, hrest⟩ := List.forall_mem_cons.1 hitems
    cases fields with
    | nil => cases h
    | cons f fields =>
      obtain ⟨hf, hfields⟩ := List.forall_mem_cons.1 change
      unfold readItems at h
      obtain ⟨next, hchange, h⟩ := exists_of_bind_eq_ok h
      exact ih hfields hrest (hf v record next hv hrecord hchange) h

/-- **What the changes of a shape keep, decoding keeps.** -/
theorem read_induction
    (change : ∀ f ∈ shape.fields, ∀ v record after, v.wellFormed = true → P record →
      f.2 v record = .ok after → P after)
    {v : Json} (hv : v.wellFormed = true) {record after : σ} (hrecord : P record)
    (h : shape.read record v = .ok after) : P after := by
  unfold read at h
  split at h
  · exact readFields_induction change (Json.wellFormed_obj_iff.1 hv).2 hrecord h
  · exact readItems_induction change (Json.wellFormed_arr_iff.1 hv) hrecord h
  · cases h

end Shape

namespace Debug

/-! ## Requests -/

/-- What an envelope holds so far is in range. -/
structure Envelope.Bounds (e : Envelope) : Prop where
  seq : ∀ n, e.seq = some n → IsInt64 n
  arguments : e.arguments.wellFormed = true

theorem Envelope.shape_bounds : ∀ f ∈ Envelope.shape.fields, ∀ v (e after : Envelope),
    v.wellFormed = true → e.Bounds → f.2 v e = .ok after → after.Bounds := by
  intro f hf v e after hv he h
  simp only [shape, List.mem_cons, List.not_mem_nil, or_false] at hf
  rcases hf with rfl | rfl | rfl | rfl
  · obtain ⟨n, hn, h⟩ := exists_of_bind_eq_ok h
    cases h
    refine ⟨fun k hk => ?_, he.arguments⟩
    cases hk
    exact Json.toInt64_bounds hv hn
  · obtain ⟨kind, -, h⟩ := exists_of_bind_eq_ok h
    cases h
    exact ⟨he.seq, he.arguments⟩
  · obtain ⟨command, -, h⟩ := exists_of_bind_eq_ok h
    cases h
    exact ⟨he.seq, he.arguments⟩
  · cases h
    exact ⟨he.seq, hv⟩

/-- **The number of a request** is a signed 64-bit integer, and its arguments are well-formed. -/
theorem Request.ofJson_bounds {v : Json} {req : Request} (hv : v.wellFormed = true)
    (h : Request.ofJson v = .ok req) : IsInt64 req.seq ∧ req.arguments.wellFormed = true := by
  obtain ⟨e, hread, h⟩ := exists_of_bind_eq_ok h
  have hstart : Envelope.Bounds {} := ⟨nofun, rfl⟩
  have he := Shape.read_induction Envelope.shape_bounds hv hstart hread
  split at h
  · rename_i seq kind command hseq _ _
    cases h
    exact ⟨he.seq seq hseq, he.arguments⟩
  · cases h
  · cases h
  · cases h

/-! ## Lines of breakpoints -/

theorem breakpointLine_bounds {v : Json} {line : Int} (hv : v.wellFormed = true)
    (h : breakpointLine v = .ok line) : IsInt64 line := by
  obtain ⟨read, hread, h⟩ := exists_of_bind_eq_ok h
  have hread : ∀ n, read = some n → IsInt64 n := by
    refine Shape.read_induction (P := fun o : Option Int => ∀ n, o = some n → IsInt64 n) ?_ hv
      (fun _ h => by cases h) hread
    intro f hf v o after hv _ h
    cases List.mem_singleton.1 hf
    obtain ⟨n, hn, h⟩ := exists_of_bind_eq_ok h
    cases h
    rintro _ ⟨⟩
    exact Json.toInt64_bounds hv hn
  split at h
  · cases h
    exact hread _ rfl
  · cases h
  · cases h

/-- The lines of wanted breakpoints are in range, in whichever form they are given. -/
structure SetBreakpointsArguments.Bounds (args : SetBreakpointsArguments) : Prop where
  breakpoints : ∀ list, args.breakpoints = some list → ∀ n ∈ list, IsInt64 n
  lines : ∀ list, args.lines = some list → ∀ n ∈ list, IsInt64 n

theorem SetBreakpointsArguments.Bounds.clientLines {args : SetBreakpointsArguments}
    (h : args.Bounds) : ∀ n ∈ args.clientLines, IsInt64 n := by
  unfold SetBreakpointsArguments.clientLines
  cases hnew : args.breakpoints with
  | some list => exact h.breakpoints list hnew
  | none =>
    cases hold : args.lines with
    | some list => exact h.lines list hold
    | none => simp

theorem SetBreakpointsArguments.shape_bounds : ∀ f ∈ SetBreakpointsArguments.shape.fields,
    ∀ v (args after : SetBreakpointsArguments), v.wellFormed = true → args.Bounds →
      f.2 v args = .ok after → after.Bounds := by
  intro f hf v args after hv hargs h
  simp only [shape, List.mem_cons, List.not_mem_nil, or_false] at hf
  rcases hf with rfl | rfl | rfl
  · obtain ⟨source, -, h⟩ := exists_of_bind_eq_ok h
    cases h
    exact ⟨hargs.breakpoints, hargs.lines⟩
  · obtain ⟨list, hlist, h⟩ := exists_of_bind_eq_ok h
    cases h
    exact ⟨Json.toOption_toList (fun _ _ => breakpointLine_bounds) hv hlist, hargs.lines⟩
  · obtain ⟨list, hlist, h⟩ := exists_of_bind_eq_ok h
    cases h
    exact ⟨hargs.breakpoints, Json.toOption_toList (fun _ _ => Json.toInt64_bounds) hv hlist⟩

/-- **The lines of wanted breakpoints** are signed 64-bit integers. -/
theorem clientLines_bounds {req : Request} {args : SetBreakpointsArguments}
    (hreq : req.arguments.wellFormed = true)
    (h : Command.ofRequest req = .ok (.setBreakpoints args)) :
    ∀ n ∈ args.clientLines, IsInt64 n := by
  have hname : req.command = "setBreakpoints" := Command.ofRequest_name h
  simp only [Command.ofRequest, hname] at h
  obtain ⟨decoded, hdecoded, h⟩ := exists_of_bind_eq_ok h
  cases h
  have hdefaults : SetBreakpointsArguments.Bounds {} := by constructor <;> simp
  unfold decodeArguments at hdecoded
  split at hdecoded
  · cases hdecoded
    exact hdefaults.clientLines
  · cases hread : SetBreakpointsArguments.shape.read {} req.arguments with
    | error mismatch => rw [hread] at hdecoded; cases hdecoded
    | ok args =>
      rw [hread] at hdecoded
      cases hdecoded
      exact (Shape.read_induction SetBreakpointsArguments.shape_bounds hreq hdefaults
        hread).clientLines

end Debug

end TabTools
