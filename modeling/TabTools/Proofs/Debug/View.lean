import TabTools.Proofs.Debug.Reached
import TabTools.Proofs.Json.Object
import Mathlib.Data.List.Nodup

/-!
# What a client knows of breakpoints

A client learns of breakpoints from two kinds of messages: the response to a request that sets
them, and the event that one of them has become verified (`breakpointsIn`). What it knows of a
breakpoint is what the last of these messages said (`lastShown`).

**Theorem (`client_view_current`).** While no write fails, a client knows the line of every
breakpoint in the table and whether it is verified. Every event says of a breakpoint that the client
took for unverified that it is verified, so there is at most one for each.

The invariant (`View`) relates the table to the messages so far. Within a request the two drift
apart, since a scan changes the table before anything is written; by the end of the request the
change has been reported. So the step is a whole plan, as `Session.Touch` describes it: new
breakpoints have numbers that were never shown, and a hit changes one breakpoint, which is the one
reported, because no number occurs twice in the table.
-/

namespace TabTools.Debug

/-! ## On the wire -/

/-- The breakpoint objects in the body of a message. -/
def breakpointsIn (message : Json) : List Json :=
  match message.get? "body" with
  | none => []
  | some body =>
    ((body.get? "breakpoints").map Json.toItems).getD [] ++ (body.get? "breakpoint").toList

/-- Whether a message is a `breakpoint` event. -/
def isChange (message : Json) : Bool := (message.get? "event").bind Json.str? == some "breakpoint"

/-- The number of a breakpoint object. -/
def idOf (breakpoint : Json) : Option Int := (breakpoint.get? "id").bind Json.int?

/-- What the last message that shows a breakpoint says of it. -/
def lastShown (id : Nat) (wire : List Json) : Option Json :=
  (wire.flatMap breakpointsIn).reverse.find? fun v => idOf v == some (id : Int)

/-- A delivered message with its number. -/
def Entry.delivery? : Entry → Option (Nat × Message)
  | .sent seq m true => some (seq, m)
  | _ => none

def deliveries (entries : List Entry) : List (Nat × Message) := entries.filterMap Entry.delivery?

/-- The objects that the client has got, in order. -/
def wire (entries : List Entry) : List Json := (deliveries entries).map fun d => d.2.toJson d.1

theorem breakpointsIn_toJson (seq : Nat) (m : Message) :
    breakpointsIn (m.toJson seq) = m.shown.map Breakpoint.toJson := by
  cases m with
  | event e => cases e with
    | stopped reason hit => cases hit <;>
        simp [breakpointsIn, Message.toJson, optionalField, Event.body, lookup_cons_ite,
          Message.shown]
    | _ =>
      simp [breakpointsIn, Message.toJson, optionalField, Event.body, lookup_cons_ite,
        Message.shown]
  | success request body => cases body <;>
      simp [breakpointsIn, Message.toJson, responseFields, optionalField, Body.toJson,
        lookup_cons_ite, Json.toItems, Message.shown, Body.shown]
  | failure request reason =>
    simp [breakpointsIn, Message.toJson, responseFields, lookup_cons_ite, Message.shown]

theorem isChange_toJson (seq : Nat) (m : Message) :
    isChange (m.toJson seq) = m.changed?.isSome := by
  cases m with
  | event e =>
    have hname : (Message.toJson seq (.event e)).get? "event" = some (.str e.name) := by
      cases hbody : e.body <;> simp [Message.toJson, optionalField, hbody, lookup_cons_ite]
    rw [isChange, hname]
    cases e <;> rfl
  | success request body =>
    cases hbody : body.toJson <;> simp [isChange, Message.toJson, responseFields, optionalField,
      hbody, lookup_cons_ite, Message.changed?]
  | failure request reason =>
    simp [isChange, Message.toJson, responseFields, lookup_cons_ite, Message.changed?]

/-- What a breakpoint object says of a breakpoint. -/
theorem get?_toJson (bp : Breakpoint) :
    bp.toJson.get? "id" = some (.int bp.id) ∧ bp.toJson.get? "line" = some (.int bp.line) ∧
      bp.toJson.get? "verified" = some (.bool bp.verified) := by
  simp [Breakpoint.toJson, lookup_cons_ite, Json.nat, Json.int]

@[simp] theorem idOf_toJson (bp : Breakpoint) : idOf bp.toJson = some (bp.id : Int) := by
  simp [idOf, Breakpoint.toJson, lookup_cons_ite, Json.nat, Json.int?]

/-! ## The last mention -/

/-- The last of some breakpoints with a number. -/
def lastOf (id : Nat) (list : List Breakpoint) : Option Breakpoint :=
  list.reverse.find? fun bp => bp.id == id

theorem lastOf_append (id : Nat) (xs ys : List Breakpoint) :
    lastOf id (xs ++ ys) = (lastOf id ys).or (lastOf id xs) := by
  rw [lastOf, List.reverse_append, List.find?_append]
  rfl

theorem lastOf_eq_none {id : Nat} {list : List Breakpoint} (h : ∀ bp ∈ list, bp.id ≠ id) :
    lastOf id list = none := by
  rw [lastOf, List.find?_eq_none]
  intro bp hbp
  simpa using h bp (List.mem_reverse.1 hbp)

theorem mem_of_lastOf {id : Nat} {list : List Breakpoint} {bp : Breakpoint}
    (h : lastOf id list = some bp) : bp ∈ list ∧ bp.id = id :=
  ⟨List.mem_reverse.1 (List.mem_of_find?_eq_some h), by simpa using List.find?_some h⟩

/-- Breakpoints added with other numbers are not looked at. -/
theorem lastOf_append_of_ne {id : Nat} {xs ys : List Breakpoint} (h : ∀ bp ∈ ys, bp.id ≠ id) :
    lastOf id (xs ++ ys) = lastOf id xs := by
  rw [lastOf_append, lastOf_eq_none h, Option.none_or]

theorem lastOf_append_of_mem {bp : Breakpoint} {xs ys : List Breakpoint} (h : bp ∈ ys)
    (hnodup : (ys.map Breakpoint.id).Nodup) : lastOf bp.id (xs ++ ys) = some bp := by
  rw [lastOf_append]
  cases hlast : lastOf bp.id ys with
  | none =>
    rw [lastOf, List.find?_eq_none] at hlast
    exact absurd (hlast bp (List.mem_reverse.2 h)) (by simp)
  | some last =>
    obtain ⟨hmem, hid⟩ := mem_of_lastOf hlast
    rw [List.inj_on_of_nodup_map hnodup hmem h hid]
    rfl

theorem lastShown_wire (id : Nat) (list : List (Nat × Message)) :
    lastShown id (list.map fun d => d.2.toJson d.1) =
      (lastOf id (list.flatMap fun d => d.2.shown)).map Breakpoint.toJson := by
  have hflat : (list.map fun d => d.2.toJson d.1).flatMap breakpointsIn =
      (list.flatMap fun d => d.2.shown).map Breakpoint.toJson := by
    rw [List.flatMap_map, List.map_flatMap]
    simp only [breakpointsIn_toJson]
  rw [lastShown, hflat, ← List.map_reverse, List.find?_map, lastOf]
  have hid : (fun v => idOf v == some (id : Int)) ∘ Breakpoint.toJson = fun bp => bp.id == id := by
    funext bp
    rw [Bool.eq_iff_iff]
    simp only [Function.comp_apply, idOf_toJson, beq_iff_eq, Option.some.injEq]
    omega
  rw [hid]

/-- The breakpoints in the events on the wire. -/
theorem changes_wire (list : List (Nat × Message)) :
    ((list.map fun d => d.2.toJson d.1).filter isChange).flatMap breakpointsIn =
      ((list.map Prod.snd).filterMap Message.changed?).map Breakpoint.toJson := by
  induction list with
  | nil => rfl
  | cons d list ih =>
    rw [List.map_cons, List.filter_cons, isChange_toJson, List.map_cons, List.filterMap_cons]
    cases hchanged : d.2.changed? with
    | none => exact ih
    | some bp =>
      have hm := Message.changed?_eq_some_iff.1 hchanged
      rw [Option.isSome_some, if_pos rfl, List.flatMap_cons, ih, breakpointsIn_toJson, hm]
      rfl

/-! ## The table and what was shown -/

/-- What a client that was shown these breakpoints knows of a table. -/
structure Known (table : BreakpointTable) (shown : List Breakpoint) : Prop where
  numbered : ∀ bp ∈ shown, bp.id < table.nextId
  distinct : ∀ key, ((table.get key).map Breakpoint.id).Nodup
  apart : ∀ key other, ∀ bp ∈ table.get key, ∀ bp' ∈ table.get other, bp.id = bp'.id → key = other
  current : ∀ key, ∀ bp ∈ table.get key, lastOf bp.id shown = some bp

namespace Known

variable {table : BreakpointTable} {shown : List Breakpoint}

theorem empty : Known {} [] where
  numbered _ h := by cases h
  distinct _ := .nil
  apart _ _ _ h := by cases h
  current _ _ h := by cases h

theorem id_lt (h : Known table shown) {key : SourceKey} {bp : Breakpoint}
    (hbp : bp ∈ table.get key) : bp.id < table.nextId :=
  h.numbered bp (mem_of_lastOf (h.current key bp hbp)).1

/-- New breakpoints are numbered from the next number on. -/
theorem id_set {key : SourceKey} {source : Source} {lines : List Int} {base : LineBase}
    {bp : Breakpoint} (h : bp ∈ (table.set key source lines base).1) :
    table.nextId ≤ bp.id ∧ bp.id < table.nextId + lines.length := by
  have hmem := List.mem_map_of_mem (f := Breakpoint.id) h
  rwa [BreakpointTable.ids_set, List.mem_range'_1] at hmem

/-- **Setting breakpoints** and showing all of them. -/
theorem set (h : Known table shown) (key : SourceKey) (source : Source) (lines : List Int)
    (base : LineBase) :
    Known (table.set key source lines base).2 (shown ++ (table.set key source lines base).1) := by
  have hnodup : ((table.set key source lines base).1.map Breakpoint.id).Nodup := by
    rw [BreakpointTable.ids_set]
    exact List.nodup_range'
  have hget : (table.set key source lines base).2.get key = (table.set key source lines base).1 :=
    BreakpointTable.get_set _ _ _ _ _
  have hother : ∀ other, other ≠ key →
      (table.set key source lines base).2.get other = table.get other := fun other hne =>
    BreakpointTable.get_set_of_ne table hne _ _ _
  have hold : ∀ {other : SourceKey} {bp : Breakpoint}, bp ∈ table.get other →
      ∀ bp' ∈ (table.set key source lines base).1, bp'.id ≠ bp.id := by
    intro other bp hbp bp' hbp' heq
    have hlt := h.id_lt hbp
    have hle := (id_set hbp').1
    omega
  refine ⟨fun bp hbp => ?_, fun other => ?_, fun k other bp hbp bp' hbp' heq => ?_,
    fun other bp hbp => ?_⟩
  · show bp.id < table.nextId + lines.length
    rcases List.mem_append.1 hbp with hbp | hbp
    · exact Nat.lt_of_lt_of_le (h.numbered bp hbp) (Nat.le_add_right _ _)
    · exact (id_set hbp).2
  · by_cases hkey : other = key
    · rw [hkey, hget]
      exact hnodup
    · rw [hother other hkey]
      exact h.distinct other
  · by_cases hk : k = key <;> by_cases ho : other = key
    · rw [hk, ho]
    · rw [hk, hget] at hbp
      rw [hother other ho] at hbp'
      exact absurd heq (hold hbp' bp hbp)
    · rw [hother k hk] at hbp
      rw [ho, hget] at hbp'
      exact absurd heq.symm (hold hbp bp' hbp')
    · rw [hother k hk] at hbp
      rw [hother other ho] at hbp'
      exact h.apart k other bp hbp bp' hbp' heq
  · by_cases hkey : other = key
    · rw [hkey, hget] at hbp
      exact lastOf_append_of_mem hbp hnodup
    · rw [hother other hkey] at hbp
      rw [lastOf_append_of_ne (hold hbp)]
      exact h.current other bp hbp

variable {after : BreakpointTable} {key : SourceKey} {client : Int} {hit : Hit} {bp : Breakpoint}
  {early late : List Breakpoint}

theorem ids_struck (h : table.Struck after key client hit early bp late) (other : SourceKey) :
    (after.get other).map Breakpoint.id = (table.get other).map Breakpoint.id := by
  by_cases hkey : other = key
  · rw [hkey, h.relisted, h.listed]
    simp
  · rw [h.elsewhere other hkey]

/-- What is in the table after a hit: the breakpoint that was hit, and others as they were. -/
theorem mem_struck (hknown : Known table shown)
    (h : table.Struck after key client hit early bp late) {other : SourceKey} {found : Breakpoint}
    (hfound : found ∈ after.get other) :
    found = { bp with verified := true } ∨ found ∈ table.get other ∧ bp.id ≠ found.id := by
  have hbp : bp ∈ table.get key := by rw [h.listed]; simp
  by_cases hkey : other = key
  · subst hkey
    have hdistinct := hknown.distinct other
    rw [h.listed, List.map_append, List.map_cons, List.nodup_middle, List.nodup_cons,
      List.mem_append, not_or, List.mem_map, List.mem_map] at hdistinct
    obtain ⟨⟨hearly, hlate⟩, -⟩ := hdistinct
    rw [h.relisted] at hfound
    rw [h.listed]
    rcases List.mem_append.1 hfound with hmem | hmem
    · exact .inr ⟨List.mem_append_left _ hmem, fun heq => hearly ⟨found, hmem, heq.symm⟩⟩
    · rcases List.mem_cons.1 hmem with rfl | hmem
      · exact .inl rfl
      · exact .inr ⟨by simp [hmem], fun heq => hlate ⟨found, hmem, heq.symm⟩⟩
  · rw [h.elsewhere other hkey] at hfound
    exact .inr ⟨hfound, fun heq => hkey (hknown.apart key other bp hbp found hfound heq).symm⟩

/-- **Hitting a breakpoint** and showing it if it has changed. -/
theorem strike (hknown : Known table shown) (h : table.Struck after key client hit early bp late) :
    Known after (shown ++ hit.verifiedNow.toList) := by
  have hbp : bp ∈ table.get key := by rw [h.listed]; simp
  have hnow : ∀ b ∈ hit.verifiedNow.toList, b = { bp with verified := true } := by
    rw [h.verifiedNow]
    cases bp.verified <;> simp
  have hmem : ∀ {other : SourceKey} {found : Breakpoint}, found ∈ after.get other →
      ∃ b ∈ table.get other, b.id = found.id := by
    intro other found hfound
    have := List.mem_map_of_mem (f := Breakpoint.id) hfound
    rw [ids_struck h other] at this
    exact List.mem_map.1 this
  refine ⟨fun b hb => ?_, fun other => ?_, fun k other b hb b' hb' heq => ?_,
    fun other found hfound => ?_⟩
  · rw [h.nextId]
    rcases List.mem_append.1 hb with hb | hb
    · exact hknown.numbered b hb
    · have hlt := hknown.id_lt hbp
      rw [hnow b hb]
      exact hlt
  · rw [ids_struck h other]
    exact hknown.distinct other
  · obtain ⟨c, hc, hcid⟩ := hmem hb
    obtain ⟨c', hc', hcid'⟩ := hmem hb'
    exact hknown.apart k other c hc c' hc' (by rw [hcid, hcid', heq])
  · rcases mem_struck hknown h hfound with rfl | ⟨hold, hne⟩
    · cases hverified : bp.verified with
      | true =>
        -- It was verified before, and nothing is shown.
        have hsame : ({ bp with verified := true } : Breakpoint) = bp := by rw [← hverified]
        rw [h.verifiedNow, hverified, hsame]
        simpa using hknown.current key bp hbp
      | false =>
        rw [h.verifiedNow, hverified]
        exact lastOf_append_of_mem (by simp) (by simp)
    · rw [lastOf_append_of_ne fun b hb => by rw [hnow b hb]; exact hne]
      exact hknown.current other found hold

end Known

/-! ## Events -/

/-- Every event among messages says that a breakpoint is verified which was last shown unverified;
`shown` was shown before. -/
def Timely : (shown : List Breakpoint) → List Message → Prop
  | _, [] => True
  | shown, m :: rest =>
    (∀ now ∈ m.changed?, now.verified = true ∧
      ∃ old, lastOf now.id shown = some old ∧ old.verified = false) ∧
    Timely (shown ++ m.shown) rest

theorem timely_append {shown : List Breakpoint} {xs ys : List Message} :
    Timely shown (xs ++ ys) ↔ Timely shown xs ∧ Timely (shown ++ xs.flatMap Message.shown) ys := by
  induction xs generalizing shown with
  | nil => simp [Timely]
  | cons m xs ih => simp [Timely, ih, and_assoc]

theorem timely_of_silent {shown : List Breakpoint} {list : List Message}
    (h : ∀ m ∈ list, m.changed? = none) : Timely shown list := by
  induction list generalizing shown with
  | nil => trivial
  | cons m list ih =>
    refine ⟨by simp [h m (.head _)], ih fun m' hm' => h m' (List.mem_cons_of_mem _ hm')⟩

/-- How a table is related to the messages so far. -/
structure View (table : BreakpointTable) (list : List Message) : Prop
    extends Known table (list.flatMap Message.shown) where
  timely : Timely [] list
  settled : ∀ bp ∈ list.filterMap Message.changed?,
    ∃ now, lastOf bp.id (list.flatMap Message.shown) = some now ∧ now.verified = true
  once : ((list.filterMap Message.changed?).map Breakpoint.id).Nodup

namespace View

variable {table : BreakpointTable} {list : List Message}

theorem empty : View {} [] := ⟨.empty, trivial, by simp, .nil⟩

/-- Messages that show no breakpoint change nothing. -/
theorem silent (h : View table list) {more : List Message} (hmore : ∀ m ∈ more, m.shown = []) :
    View table (list ++ more) := by
  have hunchanged : ∀ m ∈ more, m.changed? = none := fun m hm =>
    Message.changed?_eq_none (hmore m hm)
  have hshown : (list ++ more).flatMap Message.shown = list.flatMap Message.shown := by
    rw [List.flatMap_append, List.flatMap_eq_nil_iff.2 hmore, List.append_nil]
  have hchanged : (list ++ more).filterMap Message.changed? = list.filterMap Message.changed? := by
    rw [List.filterMap_append, List.filterMap_eq_nil_iff.2 hunchanged, List.append_nil]
  refine ⟨by rw [hshown]; exact h.toKnown, ?_, by rw [hshown, hchanged]; exact h.settled,
    by rw [hchanged]; exact h.once⟩
  exact timely_append.2 ⟨h.timely, timely_of_silent hunchanged⟩

theorem set (h : View table list) (request : Answered) (key : SourceKey) (source : Source)
    (lines : List Int) (base : LineBase) :
    View (table.set key source lines base).2
      (list ++ [.success request (.breakpoints (table.set key source lines base).1)]) := by
  have hknown := h.toKnown.set key source lines base
  have hchanged : (list ++ [Message.success request
      (.breakpoints (table.set key source lines base).1)]).filterMap Message.changed? =
      list.filterMap Message.changed? := by
    simp [Message.changed?]
  have hshown : (list ++ [Message.success request
      (.breakpoints (table.set key source lines base).1)]).flatMap Message.shown =
      list.flatMap Message.shown ++ (table.set key source lines base).1 := by
    simp [Message.shown, Body.shown]
  refine ⟨by rw [hshown]; exact hknown, ?_, ?_, by rw [hchanged]; exact h.once⟩
  · exact timely_append.2 ⟨h.timely, timely_of_silent (by simp [Message.changed?])⟩
  · rw [hchanged, hshown]
    intro bp hbp
    obtain ⟨now, hnow, hverified⟩ := h.settled bp hbp
    obtain ⟨hmem, hid⟩ := mem_of_lastOf hnow
    refine ⟨now, ?_, hverified⟩
    -- The new numbers are larger than any that was shown.
    rw [lastOf_append_of_ne, hnow]
    intro new hnew
    have hlt := h.numbered now hmem
    have hle := (Known.id_set hnew).1
    omega

theorem hit (h : View table list) {after : BreakpointTable} {key : SourceKey} {client : Int}
    {hit : Hit} (hits : table.hit key client = some (hit, after)) :
    View after (list ++ hit.verifiedNow.toList.map fun bp => .event (.breakpointChanged bp)) := by
  obtain ⟨early, bp, late, struck⟩ := BreakpointTable.exists_struck hits
  have hknown := h.toKnown.strike struck
  have hcurrent := h.current key bp (by rw [struck.listed]; simp)
  have hverified := struck.verifiedNow
  cases hbp : bp.verified with
  | true =>
    rw [hbp, if_pos rfl] at hverified
    rw [hverified] at hknown ⊢
    rw [Option.toList_none, List.append_nil] at hknown
    rw [Option.toList_none, List.map_nil, List.append_nil]
    exact ⟨hknown, h.timely, h.settled, h.once⟩
  | false =>
    rw [hbp, if_neg (by simp)] at hverified
    rw [hverified] at hknown ⊢
    rw [Option.toList_some, List.map_singleton]
    have hchanged : (list ++ [Message.event (.breakpointChanged { bp with verified := true })]
        ).filterMap Message.changed? =
        list.filterMap Message.changed? ++ [{ bp with verified := true }] := by
      simp [Message.changed?]
    have hshown : (list ++ [Message.event (.breakpointChanged { bp with verified := true })]
        ).flatMap Message.shown =
        list.flatMap Message.shown ++ [{ bp with verified := true }] := by
      simp [Message.shown]
    -- No event so far was about this breakpoint, as it was last shown unverified.
    have hnew : ∀ other ∈ list.filterMap Message.changed?, other.id ≠ bp.id := by
      intro other hother heq
      obtain ⟨now, hnow, hsettled⟩ := h.settled other hother
      rw [heq, hcurrent] at hnow
      cases hnow
      rw [hbp] at hsettled
      cases hsettled
    refine ⟨by rw [hshown]; exact hknown, ?_, ?_, ?_⟩
    · refine timely_append.2 ⟨h.timely, ?_, trivial⟩
      intro now hnow
      cases hnow
      exact ⟨rfl, bp, hcurrent, hbp⟩
    · rw [hchanged, hshown]
      intro other hother
      rcases List.mem_append.1 hother with hother | hother
      · obtain ⟨now, hnow, hsettled⟩ := h.settled other hother
        refine ⟨now, ?_, hsettled⟩
        rw [lastOf_append_of_ne, hnow]
        intro b hb
        rw [List.mem_singleton.1 hb]
        exact (hnew other hother).symm
      · rw [List.mem_singleton.1 hother]
        exact ⟨_, lastOf_append_of_mem (.head _) (by simp), rfl⟩
    · rw [hchanged, List.map_append, List.nodup_append]
      refine ⟨h.once, by simp, ?_⟩
      intro id hid id' hid'
      obtain ⟨other, hother, rfl⟩ := List.mem_map.1 hid
      rw [List.map_singleton, List.mem_singleton] at hid'
      rw [hid']
      exact hnew other hother

/-- **One request** keeps the client up to date. -/
theorem touch {s last : Session} {new : List Message} (h : View s.breakpoints list)
    (htouch : s.Touch last new) : View last.breakpoints (list ++ new) := by
  cases htouch with
  | nothing quiet kept =>
    rw [kept]
    exact h.silent fun m hm => (quiet.of_mem hm).1
  | set table =>
    rw [table]
    exact h.set _ _ _ _ _
  | hit breaks =>
    rename_i hit
    obtain ⟨early, rfl, quiet⟩ := breaks.reports
    have hstopped : ∀ m ∈ early ++ [.event (.stopped .breakpoint (some hit.id))], m.shown = [] := by
      intro m hm
      rcases List.mem_append.1 hm with hm | hm
      · exact (quiet.of_mem hm).1
      · rw [List.mem_singleton.1 hm]
        rfl
    have hreported := (h.silent hstopped).hit breaks.hits
    simpa using hreported

end View

namespace Run

/-! ## Runs -/

/-- The messages that a run has delivered. -/
def told (run : Run) : List Message := (deliveries run.entries).map Prod.snd

theorem told_append {run next : Run} {more : List Entry} (h : next.entries = run.entries ++ more) :
    next.told = run.told ++ (deliveries more).map Prod.snd := by
  rw [told, h, deliveries, List.filterMap_append, List.map_append]
  rfl

theorem told_performed (run : Run) (acts : List Act) :
    (run.performed acts).told = run.told ++ messages acts := by
  rw [told_append rfl, deliveries, List.map_filterMap,
    filterMap_recorded (g := some) (fun _ _ => rfl) rfl, List.filterMap_some]

theorem view_report {run : Run} (h : View run.session.breakpoints run.told)
    (events : List Link.Event) :
    View (run.performed (reportActs run.session events)).session.breakpoints
      (run.performed (reportActs run.session events)).told := by
  obtain ⟨handles, hfinal⟩ := finalSession_reportActs run.session events
  rw [told_performed]
  simp only [performed, hfinal]
  refine h.silent fun m hm => ?_
  obtain ⟨act, hact, hmessage⟩ := List.mem_filterMap.1 hm
  cases act with
  | traceOn => cases hmessage
  | write after m' =>
    cases hmessage
    obtain ⟨-, text, handle, rfl⟩ := write_mem_reportActs hact
    rfl

/-- **One turn** keeps the client up to date. -/
theorem view_serve {run : Run} (h : View run.session.breakpoints run.told) (turn : Turn) :
    View (run.serve Faults.none turn).1.session.breakpoints
      (run.serve Faults.none turn).1.told := by
  refine serve_induction (P := fun run => View run.session.breakpoints run.told) ?_ ?_ ?_ ?_ h turn
  · exact fun run queue h => h
  · intro run message h
    rw [told_append rfl]
    exact h.silent fun m hm => by cases hm
  · intro run events h
    rw [perform_none]
    exact view_report h events
  · intro run files req h
    rw [run_handle_none, told_performed]
    exact h.touch (run.session.touch_reaction files req)

end Run

/-- **A client knows the breakpoints.** Over any run of a fresh session in which no write fails,
whatever is asked, whatever files there are and whichever paths lead to them: the object that a
client was last shown of a breakpoint in the table gives its number, its line as it is now and
whether it is verified now; a `breakpoint` event shows one object, which says of a breakpoint last
shown as unverified that it is verified; and there is at most one such event for each. -/
theorem client_view_current (link : Link) (queue : List Link.Event) (turns : List Turn) :
    let run := (Run.serveAll Faults.none { Run.start link with queue } turns).1
    (∀ key, ∀ bp ∈ run.session.breakpoints.get key, ∃ v,
        lastShown bp.id (wire run.entries) = some v ∧ v.get? "id" = some (.int bp.id) ∧
        v.get? "line" = some (.int bp.line) ∧ v.get? "verified" = some (.bool bp.verified)) ∧
      (∀ before message after, wire run.entries = before ++ message :: after →
        isChange message = true → ∃ (id : Nat) (now old : Json),
          breakpointsIn message = [now] ∧ now.get? "id" = some (.int id) ∧
          now.get? "verified" = some (.bool true) ∧ lastShown id before = some old ∧
          old.get? "verified" = some (.bool false)) ∧
      (((wire run.entries).filter isChange).flatMap breakpointsIn |>.map idOf).Nodup := by
  intro run
  have h : View run.session.breakpoints run.told :=
    Run.serveAll_induction (P := fun run => View run.session.breakpoints run.told)
      (fun _ turn h => Run.view_serve h turn) View.empty turns
  have hshown : (deliveries run.entries).flatMap (fun d => d.2.shown) =
      run.told.flatMap Message.shown := by
    rw [Run.told, List.flatMap_map]
  refine ⟨fun key bp hbp => ?_, fun before message after hwire hchange => ?_, ?_⟩
  · refine ⟨bp.toJson, ?_, get?_toJson bp⟩
    rw [wire, lastShown_wire, hshown, h.current key bp hbp]
    rfl
  · obtain ⟨earlier, rest, hsplit, rfl, hrest⟩ := List.map_eq_append_iff.1 hwire
    obtain ⟨⟨seq, m⟩, later, rfl, rfl, rfl⟩ := List.map_eq_cons_iff.1 hrest
    rw [isChange_toJson, Option.isSome_iff_exists] at hchange
    obtain ⟨now, hnow⟩ := hchange
    have htimely := h.timely
    rw [Run.told, hsplit, List.map_append, List.map_cons, timely_append, Timely] at htimely
    obtain ⟨hverified, old, hold, hlazy⟩ := htimely.2.1 now hnow
    rw [List.nil_append, List.flatMap_map] at hold
    refine ⟨now.id, now.toJson, old.toJson, ?_, (get?_toJson now).1, ?_, ?_, ?_⟩
    · rw [breakpointsIn_toJson, Message.changed?_eq_some_iff.1 hnow]
      rfl
    · rw [(get?_toJson now).2.2, hverified]
    · rw [lastShown_wire, hold]
      rfl
    · rw [(get?_toJson old).2.2, hlazy]
  · have hids : (fun bp : Breakpoint => (some (bp.id : Int))) =
        (fun id : Nat => some (id : Int)) ∘ Breakpoint.id := rfl
    rw [wire, changes_wire, List.map_map]
    simp only [Function.comp_def, idOf_toJson]
    rw [hids, ← List.map_map]
    refine h.once.map fun a b hab => ?_
    have hcast : (a : Int) = b := Option.some.inj hab
    omega

end TabTools.Debug
