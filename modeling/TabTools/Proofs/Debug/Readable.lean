import TabTools.Proofs.Debug.Request
import TabTools.Proofs.Text.Sizes
import TabTools.Wire.Frame

/-!
# Messages that can be read back

**Numbers** (`readable_toJson`). A message whose numbers are in the range of JSON texts is readable:
it holds no doubles, and its objects and arrays are nested five deep. Which numbers a message holds
depends on how far the counters of handles and breakpoints have come (`Message.Within`).

**Sizes** (`length_frame_ge`). On the wire a message takes more bytes than it shows breakpoints.
-/

namespace TabTools.Debug

/-- No text or file in memory is as long as this. -/
def memoryLimit : Nat := 0x8000000000000000

/-! ## Messages -/

/-- A breakpoint that was made before the counter came to `ids`, at a 64-bit line. -/
structure Breakpoint.Within (ids : Nat) (bp : Breakpoint) : Prop where
  id : bp.id < ids
  line : IsInt64 bp.line

/-- What a counter of handles and one of breakpoints have passed. -/
def Event.Within (handles ids : Nat) : Event → Prop
  | .output _ handle => handle < handles
  | .stopped _ hit => ∀ id, hit = some id → id < ids
  | .breakpointChanged bp => bp.Within ids
  | _ => True

def Body.Within (handles ids : Nat) : Body → Prop
  | .breakpoints list => ∀ bp ∈ list, bp.Within ids
  | .stackTrace frames total =>
    total < memoryLimit ∧ ∀ frame ∈ frames, frame.id < total ∧ IsInt64 frame.line
  | .scopes list => ∀ scope ∈ list, scope.handle < handles
  | .variables list => ∀ var ∈ list, var.handle < handles
  | _ => True

/-- All numbers of a message but its own are in range, given how far the counters are. -/
def Message.Within (handles ids : Nat) : Message → Prop
  | .event e => e.Within handles ids
  | .success request body => IsInt64 request.seq ∧ body.Within handles ids
  | .failure request _ => IsInt64 request.seq

theorem Message.Within.mono {handles handles' ids ids' : Nat} {m : Message}
    (h : m.Within handles ids) (hhandles : handles ≤ handles') (hids : ids ≤ ids') :
    m.Within handles' ids' := by
  have hbp : ∀ {bp : Breakpoint}, bp.Within ids → bp.Within ids' := fun hbp =>
    ⟨hbp.id.trans_le hids, hbp.line⟩
  cases m with
  | event e =>
    cases e with
    | output text handle => exact Nat.lt_of_lt_of_le h hhandles
    | stopped reason hit => exact fun id hid => (h id hid).trans_le hids
    | breakpointChanged bp => exact hbp h
    | initialized | terminated => trivial
  | success request body =>
    refine ⟨h.1, ?_⟩
    have hbody := h.2
    cases body with
    | breakpoints list => exact fun bp hmem => hbp (hbody bp hmem)
    | stackTrace frames total => exact hbody
    | scopes list => exact fun scope hmem => (hbody scope hmem).trans_le hhandles
    | «variables» list => exact fun var hmem => (hbody var hmem).trans_le hhandles
    | nothing | capabilities | threads | evaluation => trivial
  | failure request reason => exact h

/-! ## As JSON -/

section Readable

open Json

variable {handles ids : Nat}

theorem readable_int64 {n : Int} (h : IsInt64 n) (d : Nat) : Readable d (.int n) :=
  readable_int d h.1 (by have := h.2; omega)

theorem Breakpoint.readable_toJson {bp : Breakpoint} (h : bp.Within ids)
    (hids : ids ≤ 0x10000000000000000) (d : Nat) : Readable (d + 1) bp.toJson := by
  have hid := h.id
  refine readable_object ?_
  simp only [List.forall_mem_cons]
  exact ⟨readable_nat d (by omega), readable_bool d _, readable_int64 h.line d, by simp⟩

theorem Frame.readable_toJson {frame : Frame} (hid : frame.id < memoryLimit)
    (hline : IsInt64 frame.line) (d : Nat) : Readable (d + 2) frame.toJson := by
  unfold memoryLimit at hid
  have hname : Readable d (Json.ofOption .str frame.fileName) := by
    cases frame.fileName with
    | none => exact ⟨rfl, rfl, Nat.zero_le d⟩
    | some name => exact readable_str d name
  have hsource : Readable (d + 1)
      (.object [("name", Json.ofOption .str frame.fileName), ("path", .str frame.path)]) := by
    refine readable_object ?_
    simp only [List.forall_mem_cons]
    exact ⟨hname, readable_str d _, by simp⟩
  refine readable_object ?_
  simp only [List.forall_mem_cons]
  exact ⟨readable_nat _ (by omega), readable_str _ _, hsource, readable_int64 hline _,
    readable_nat _ (by omega), by simp⟩

theorem Event.readable_body {e : Event} (h : e.Within handles ids)
    (hhandles : handles ≤ 0x10000000000000000) (hids : ids ≤ 0x10000000000000000) (d : Nat) :
    ∀ v, e.body = some v → Readable (d + 2) v := by
  intro v hv
  cases e with
  | initialized | terminated => cases hv
  | output text handle =>
    have hhandle : handle < handles := h
    cases hv
    refine readable_object ?_
    simp only [List.forall_mem_cons]
    exact ⟨readable_str _ _, readable_str _ _, readable_nat _ (by omega), by simp⟩
  | stopped reason hit =>
    cases hv
    refine readable_object ?_
    cases hit with
    | none =>
      simp only [List.forall_mem_cons]
      exact ⟨readable_str _ _, readable_nat _ (by decide), readable_bool _ _, by simp⟩
    | some id =>
      have hid : id < ids := h id rfl
      have hlist : Readable (d + 1) (.arr [.nat id]) :=
        readable_arr (List.forall_mem_singleton.2 (readable_nat d (by omega)))
      simp only [List.cons_append, List.nil_append, List.forall_mem_cons]
      exact ⟨readable_str _ _, readable_nat _ (by decide), readable_bool _ _, hlist, by simp⟩
  | breakpointChanged bp =>
    cases hv
    refine readable_object ?_
    simp only [List.forall_mem_cons]
    exact ⟨readable_str _ _, Breakpoint.readable_toJson h hids d, by simp⟩

theorem Scope.readable_toJson {scope : Scope} (h : scope.handle < handles)
    (hhandles : handles ≤ 0x10000000000000000) (d : Nat) : Readable (d + 1) scope.toJson := by
  refine readable_object ?_
  simp only [List.forall_mem_cons]
  exact ⟨readable_str _ _, readable_nat _ (by omega), readable_bool _ _, by simp⟩

theorem Variable.readable_toJson {var : Variable} (h : var.handle < handles)
    (hhandles : handles ≤ 0x10000000000000000) (d : Nat) : Readable (d + 1) var.toJson := by
  refine readable_object ?_
  simp only [List.forall_mem_cons]
  exact ⟨readable_str _ _, readable_str _ _, readable_str _ _, readable_nat _ (by omega), by simp⟩

/-- A list of objects under one key. -/
theorem readable_listing {α : Type} {list : List α} {toJson : α → Json} {d : Nat}
    (h : ∀ a ∈ list, Readable d (toJson a)) : Readable (d + 1) (.arr (list.map toJson)) := by
  refine readable_arr fun v hv => ?_
  obtain ⟨a, ha, rfl⟩ := List.mem_map.1 hv
  exact h a ha

theorem Body.readable_toJson {body : Body} (h : body.Within handles ids)
    (hhandles : handles ≤ 0x10000000000000000) (hids : ids ≤ 0x10000000000000000) (d : Nat) :
    ∀ v, body.toJson = some v → Readable (d + 4) v := by
  intro v hv
  cases body with
  | nothing => cases hv
  | capabilities =>
    cases hv
    refine readable_object ?_
    simp only [List.forall_mem_cons]
    exact ⟨readable_bool _ _, readable_bool _ _, readable_bool _ _, readable_bool _ _, by simp⟩
  | breakpoints list =>
    cases hv
    refine readable_object (List.forall_mem_singleton.2 ?_)
    exact readable_listing fun bp hbp => Breakpoint.readable_toJson (h bp hbp) hids (d + 1)
  | threads =>
    cases hv
    have hthread : Readable (d + 2)
        (.object [("id", .nat threadId), ("name", .str ("thread " ++ toString threadId))]) := by
      refine readable_object ?_
      simp only [List.forall_mem_cons]
      exact ⟨readable_nat _ (by decide), readable_str _ _, by simp⟩
    refine readable_object (List.forall_mem_singleton.2 ?_)
    exact readable_arr (List.forall_mem_singleton.2 hthread)
  | stackTrace frames total =>
    cases hv
    obtain ⟨htotal, hframes⟩ := h
    have hlist : Readable (d + 3) (.arr (frames.map Frame.toJson)) :=
      readable_listing fun frame hframe =>
        Frame.readable_toJson ((hframes frame hframe).1.trans htotal) (hframes frame hframe).2 d
    unfold memoryLimit at htotal
    refine readable_object ?_
    simp only [List.forall_mem_cons]
    exact ⟨hlist, readable_nat _ (by omega), by simp⟩
  | scopes list =>
    cases hv
    refine readable_object (List.forall_mem_singleton.2 ?_)
    exact readable_listing fun scope hscope =>
      Scope.readable_toJson (h scope hscope) hhandles (d + 1)
  | «variables» list =>
    cases hv
    refine readable_object (List.forall_mem_singleton.2 ?_)
    exact readable_listing fun var hvar => Variable.readable_toJson (h var hvar) hhandles (d + 1)
  | evaluation result =>
    cases hv
    refine readable_object ?_
    simp only [List.forall_mem_cons]
    exact ⟨readable_str _ _, readable_nat _ (by decide), by simp⟩

theorem readable_optionalField {d : Nat} {key : String} {value : Option Json}
    (h : ∀ v, value = some v → Readable d v) : ∀ f ∈ optionalField key value, Readable d f.2 := by
  cases value with
  | none => simp [optionalField]
  | some v => exact List.forall_mem_singleton.2 (h v rfl)

theorem readable_responseFields {seq : Nat} (hseq : seq ≤ 0xFFFFFFFFFFFFFFFF) {request : Answered}
    (hrequest : IsInt64 request.seq) (success : Bool) (d : Nat) :
    ∀ f ∈ responseFields seq request success, Readable d f.2 := by
  simp only [responseFields, List.forall_mem_cons]
  exact ⟨readable_nat d hseq, readable_str _ _, readable_int64 hrequest d, readable_bool _ _,
    readable_str _ _, by simp⟩

/-- **Messages can be read back**, if their numbers are in range. -/
theorem readable_toJson {m : Message} (h : m.Within handles ids)
    (hhandles : handles ≤ 0x10000000000000000) (hids : ids ≤ 0x10000000000000000) {seq : Nat}
    (hseq : seq ≤ 0xFFFFFFFFFFFFFFFF) : Readable maxDepth (m.toJson seq) := by
  have hdeep : Readable (0 + 4 + 1) (m.toJson seq) := by
    cases m with
    | event e =>
      refine readable_object (List.forall_mem_append.2 ⟨?_, readable_optionalField fun v hv =>
        (Event.readable_body h hhandles hids 0 v hv).mono (by decide)⟩)
      simp only [List.forall_mem_cons]
      exact ⟨readable_nat _ hseq, readable_str _ _, readable_str _ _, by simp⟩
    | success request body =>
      exact readable_object (List.forall_mem_append.2 ⟨readable_responseFields hseq h.1 true _,
        readable_optionalField (Body.readable_toJson h.2 hhandles hids 0)⟩)
    | failure request reason =>
      exact readable_object (List.forall_mem_append.2 ⟨readable_responseFields hseq h false _,
        List.forall_mem_singleton.2 (readable_str _ _)⟩)
  exact hdeep.mono (by decide)

end Readable

/-! ## On the wire -/

theorem length_render_le_of_mem {fields : List (String × Json)} {f : String × Json}
    (h : f ∈ fields) : f.2.render.length ≤ (Json.renderFields fields).length := by
  induction fields with
  | nil => cases h
  | cons first fields ih =>
    cases fields with
    | nil =>
      cases List.mem_singleton.1 h
      simp only [Json.renderFields, List.length_append, List.length_cons]
      omega
    | cons second fields =>
      simp only [Json.renderFields, List.length_append, List.length_cons]
      rcases List.mem_cons.1 h with rfl | h
      · omega
      · have := ih h
        omega

/-- A field takes less room than its object. -/
theorem length_render_get? {key : String} {v w : Json} (h : v.get? key = some w) :
    w.render.length ≤ v.render.length := by
  cases v with
  | obj fields =>
    obtain ⟨early, late, rfl, -⟩ := List.lookup_eq_some_iff.1 h
    have hmem : (key, w) ∈ early ++ (key, w) :: late := List.mem_append_right early (.head late)
    rw [Json.render, List.length_cons]
    exact Nat.le_succ_of_le (length_render_le_of_mem hmem)
  | null | bool | num | str | arr => cases h

/-- An array has no more items than characters. -/
theorem length_le_render_arr (items : List Json) :
    items.length ≤ (Json.arr items).render.length := by
  have hitems : items.length ≤ (Json.renderItems items).length := by
    induction items with
    | nil => simp
    | cons v items ih =>
      cases items with
      | nil => simp [Json.renderItems]
      | cons w items =>
        simp only [Json.renderItems, List.length_append, List.length_cons] at ih ⊢
        omega
  simp only [Json.render, List.length_cons]
  omega

theorem length_shown_le (seq : Nat) (m : Message) :
    m.shown.length ≤ (m.toJson seq).render.length + 1 := by
  cases m with
  | event e => cases e <;> simp [Message.shown]
  | failure request reason => simp [Message.shown]
  | success request body =>
    cases body with
    | breakpoints list =>
      have hbody : (Message.toJson seq (.success request (.breakpoints list))).get? "body" =
          some (.object [("breakpoints", .arr (list.map Breakpoint.toJson))]) := by
        simp [Message.toJson, responseFields, optionalField, Body.toJson]
      have hlist : (Json.object [("breakpoints", .arr (list.map Breakpoint.toJson))]).get?
          "breakpoints" = some (.arr (list.map Breakpoint.toJson)) := by
        simp
      have := length_render_get? hbody
      have := length_render_get? hlist
      have := length_le_render_arr (list.map Breakpoint.toJson)
      simp only [Message.shown, Body.shown, List.length_map] at *
      omega
    | _ => simp [Message.shown, Body.shown]

/-- **A frame takes three bytes and one for every breakpoint it shows**, at least. -/
theorem length_frame_ge (seq : Nat) (m : Message) :
    3 + m.shown.length ≤ (Wire.frame (m.toJson seq)).length := by
  have hshown := length_shown_le seq m
  have hbody := Text.length_le_encode (m.toJson seq).render
  have hheader : 15 ≤ (Text.encode (Wire.lengthHeader ++
      ' ' :: Nat.toDigits 10 (Text.encode (m.toJson seq).render).length ++
        "\r\n\r\n".toList)).length := by
    refine Nat.le_trans ?_ (Text.length_le_encode _)
    have hname : Wire.lengthHeader.length = 15 := rfl
    simp only [List.length_append, hname]
    omega
  rw [Wire.frame, Wire.frameBody, List.length_append]
  omega

end TabTools.Debug
