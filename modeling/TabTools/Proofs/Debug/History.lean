import TabTools.Proofs.Debug.View

/-!
# The history of a table of breakpoints

A table starts empty and is changed by two operations: setting the breakpoints of a source, and
hitting a line of a source. Sources are told apart by the components of their paths.

**Theorem (`table_history`).** Whatever operations a table has gone through, for whatever sources,
texts, lines and line bases:

* all breakpoints that were ever made are numbered one after another from 1000 on;
* the list of a source is the one that was made last for it, with those breakpoints verified that a
  later hit has returned as just verified, and is empty if none was made;
* no number stands twice in the table;
* a breakpoint is returned as just verified at most once, and only if it was made unverified;
* where a breakpoint is placed and whether it is verified at first depends on its own request only.

**One operation.** A hit marks the same breakpoint in every list, wherever it stands (`get_hit`):
since no number stands twice, only one list has it. So hits in a row add up (`settle_settle`), and
the list of a source follows from its last request and the hits since then (`get_replay`). The rest
is an invariant of the table and what its operations returned (`Lawful`), which every operation
keeps (`Lawful.perform`).
-/

namespace TabTools.Debug

namespace BreakpointTable

/-- What can be done with a table. -/
inductive Operation where
  | set (path : Files.Path) (text : List Char) (clients : List Int) (base : LineBase)
  | hit (path : Files.Path) (client : Int)

/-- What an operation returns. -/
inductive Answer where
  | made (list : List Breakpoint)
  | found (hit : Option Hit)

/-- The source whose breakpoints an operation sets. -/
def Operation.sets? : Operation → Option SourceKey
  | .set path _ _ _ => some (Files.components path)
  | .hit _ _ => none

/-- Performs an operation. -/
def perform (table : BreakpointTable) : Operation → Answer × BreakpointTable
  | .set path text clients base =>
    let (list, after) := table.set (Files.components path) (.ofText text) clients base
    (.made list, after)
  | .hit path client =>
    match table.hit (Files.components path) client with
    | none => (.found none, table)
    | some (hit, after) => (.found (some hit), after)

/-- An operation with what it returned. -/
abbrev Deed := Operation × Answer

/-- Performs operations one after another. -/
def replay (table : BreakpointTable) : List Operation → List Deed × BreakpointTable
  | [] => ([], table)
  | op :: rest =>
    let (answer, next) := table.perform op
    let (log, last) := next.replay rest
    ((op, answer) :: log, last)

theorem perform_miss {table : BreakpointTable} {path : Files.Path} {client : Int}
    (h : table.hit (Files.components path) client = none) :
    table.perform (.hit path client) = (.found none, table) := by
  simp only [perform, h]

theorem perform_hit {table after : BreakpointTable} {path : Files.Path} {client : Int} {hit : Hit}
    (h : table.hit (Files.components path) client = some (hit, after)) :
    table.perform (.hit path client) = (.found (some hit), after) := by
  simp only [perform, h]

theorem replay_cons (table : BreakpointTable) (op : Operation) (rest : List Operation) :
    table.replay (op :: rest) =
      ((op, (table.perform op).1) :: ((table.perform op).2.replay rest).1,
        ((table.perform op).2.replay rest).2) := rfl

/-- The breakpoints that an operation made. -/
def Answer.made? : Answer → List Breakpoint
  | .made list => list
  | .found _ => []

/-- The breakpoint that an operation verified. -/
def Answer.verified? : Answer → Option Breakpoint
  | .made _ => none
  | .found hit => hit.bind Hit.verifiedNow

/-- All breakpoints that were made, in order. -/
def made (log : List Deed) : List Breakpoint := log.flatMap fun deed => deed.2.made?

/-- All breakpoints that were returned as just verified, in order. -/
def verified (log : List Deed) : List Breakpoint := log.filterMap fun deed => deed.2.verified?

/-- Everything that was returned of breakpoints. -/
def shown (log : List Deed) : List Breakpoint :=
  log.flatMap fun deed => deed.2.made? ++ deed.2.verified?.toList

@[simp] theorem made_append (xs ys : List Deed) : made (xs ++ ys) = made xs ++ made ys :=
  List.flatMap_append

@[simp] theorem verified_append (xs ys : List Deed) :
    verified (xs ++ ys) = verified xs ++ verified ys :=
  List.filterMap_append

@[simp] theorem shown_append (xs ys : List Deed) : shown (xs ++ ys) = shown xs ++ shown ys :=
  List.flatMap_append

theorem mem_shown {log : List Deed} {now : Breakpoint} (h : now ∈ verified log) :
    now ∈ shown log := by
  obtain ⟨deed, hdeed, hnow⟩ := List.mem_filterMap.1 h
  exact List.mem_flatMap.2 ⟨deed, hdeed, by simp [hnow]⟩

theorem replay_append (table : BreakpointTable) (xs ys : List Operation) :
    table.replay (xs ++ ys) =
      ((table.replay xs).1 ++ ((table.replay xs).2.replay ys).1,
        ((table.replay xs).2.replay ys).2) := by
  induction xs generalizing table with
  | nil => rfl
  | cons op xs ih =>
    rw [List.cons_append, replay_cons, replay_cons, ih]
    rfl

/-- What is logged is what was done. -/
theorem map_fst_replay (table : BreakpointTable) (ops : List Operation) :
    (table.replay ops).1.map Prod.fst = ops := by
  induction ops generalizing table with
  | nil => rfl
  | cons op ops ih => exact congrArg (op :: ·) (ih (table.perform op).2)

/-! ## One operation -/

/-- A breakpoint once those that were just verified are. -/
def settle (now : List Breakpoint) (bp : Breakpoint) : Breakpoint :=
  { bp with verified := bp.verified || decide ({ bp with verified := true } ∈ now) }

@[simp] theorem id_settle (now : List Breakpoint) (bp : Breakpoint) : (settle now bp).id = bp.id :=
  rfl

theorem map_settle_nil (list : List Breakpoint) : list.map (settle []) = list := by
  refine (List.map_congr_left fun bp _ => ?_).trans (List.map_id _)
  simp [settle]

theorem settle_settle (now later : List Breakpoint) (bp : Breakpoint) :
    settle later (settle now bp) = settle (now ++ later) bp := by
  by_cases hnow : ({ bp with verified := true } : Breakpoint) ∈ now <;> simp [settle, hnow]

/-- Only a breakpoint that is just verified changes. -/
theorem settle_of_ne {now : List Breakpoint} {bp : Breakpoint} (h : ∀ b ∈ now, b.id ≠ bp.id) :
    settle now bp = bp := by
  have hnot : ({ bp with verified := true } : Breakpoint) ∉ now := fun hmem => h _ hmem rfl
  simp [settle, hnot]

/-- **A hit verifies one breakpoint**, in whichever list it is. -/
theorem get_hit {table after : BreakpointTable} {list : List Breakpoint} (hknown : Known table list)
    {key : SourceKey} {client : Int} {hit : Hit} (h : table.hit key client = some (hit, after))
    (other : SourceKey) :
    after.get other = (table.get other).map (settle hit.verifiedNow.toList) := by
  obtain ⟨early, bp, late, struck⟩ := exists_struck h
  have hbp : bp ∈ table.get key := by rw [struck.listed]; simp
  have hnow : ∀ b ∈ hit.verifiedNow.toList, b = { bp with verified := true } := by
    rw [struck.verifiedNow]
    cases bp.verified <;> simp
  have hothers : ∀ others : List Breakpoint, (∀ b ∈ others, b.id ≠ bp.id) →
      others.map (settle hit.verifiedNow.toList) = others := by
    intro others hne
    refine (List.map_congr_left fun b hb => ?_).trans (List.map_id _)
    exact settle_of_ne fun b' hb' => by rw [hnow b' hb']; exact (hne b hb).symm
  by_cases hkey : other = key
  · subst hkey
    have hdistinct := hknown.distinct other
    rw [struck.listed, List.map_append, List.map_cons, List.nodup_middle, List.nodup_cons,
      List.mem_append, not_or, List.mem_map, List.mem_map] at hdistinct
    obtain ⟨⟨hearly, hlate⟩, -⟩ := hdistinct
    have hsettled : settle hit.verifiedNow.toList bp = { bp with verified := true } := by
      rw [struck.verifiedNow]
      cases hverified : bp.verified <;> simp [settle, hverified]
    rw [struck.relisted, struck.listed, List.map_append, List.map_cons, hsettled,
      hothers early fun b hb heq => hearly ⟨b, hb, heq⟩,
      hothers late fun b hb heq => hlate ⟨b, hb, heq⟩]
  · rw [struck.elsewhere other hkey]
    refine (hothers _ fun b hb heq => hkey ?_).symm
    exact hknown.apart other key b hb bp hbp heq

/-! ## The invariant -/

/-- The table and what its operations have returned so far. -/
structure Lawful (log : List Deed) (table : BreakpointTable) : Prop where
  known : Known table (shown log)
  numbered : (made log).map Breakpoint.id = List.range' 1000 (made log).length
  next : table.nextId = 1000 + (made log).length
  keys : (table.bySource.map Prod.fst).Nodup
  /-- A source without a request has no breakpoints. -/
  unset : ∀ key, (∀ deed ∈ log, deed.1.sets? ≠ some key) → table.get key = []
  /-- An unverified breakpoint is as it was made. -/
  unverified : ∀ key, ∀ bp ∈ table.get key, bp.verified = false → bp ∈ made log
  /-- What was returned as just verified was made unverified … -/
  genuine : ∀ now ∈ verified log, now.verified = true ∧ { now with verified := false } ∈ made log
  /-- … and is verified from then on. -/
  lasting : ∀ now ∈ verified log, ∀ key, ∀ bp ∈ table.get key, bp.id = now.id → bp.verified = true
  once : ((verified log).map Breakpoint.id).Nodup

theorem nodup_put (key : SourceKey) (list : List Breakpoint)
    {entries : List (SourceKey × List Breakpoint)} (h : (entries.map Prod.fst).Nodup) :
    ((put key list entries).map Prod.fst).Nodup := by
  have hmem : ∀ {k : SourceKey} {entries : List (SourceKey × List Breakpoint)},
      k ∈ (put key list entries).map Prod.fst → k = key ∨ k ∈ entries.map Prod.fst := by
    intro k entries
    induction entries with
    | nil => simp [put]
    | cons entry rest ih =>
      unfold put
      split
      · exact .inr
      · intro hk
        rcases List.mem_cons.1 hk with rfl | hk
        · exact .inr (.head _)
        · exact (ih hk).imp_right (List.mem_cons_of_mem _)
  induction entries with
  | nil => simp [put]
  | cons entry rest ih =>
    obtain ⟨hfirst, hrest⟩ := List.nodup_cons.1 h
    unfold put
    split
    · exact h
    · rename_i hne
      refine List.nodup_cons.2 ⟨fun hk => ?_, ih hrest⟩
      exact (hmem hk).elim hne hfirst

namespace Lawful

variable {log : List Deed} {table : BreakpointTable}

theorem empty : Lawful [] {} where
  known := .empty
  numbered := rfl
  next := rfl
  keys := .nil
  unset _ _ := rfl
  unverified _ _ h := by cases h
  genuine _ h := by cases h
  lasting _ h := by cases h
  once := .nil

/-- **Setting breakpoints** keeps the invariant. -/
theorem set (h : Lawful log table) (path : Files.Path) (text : List Char) (clients : List Int)
    (base : LineBase) :
    let result := table.set (Files.components path) (.ofText text) clients base
    Lawful (log ++ [(.set path text clients base, .made result.1)]) result.2 := by
  intro result
  have hmade : made (log ++ [(.set path text clients base, .made result.1)]) =
      made log ++ result.1 := by simp [made, Answer.made?]
  have hverified : verified (log ++ [(.set path text clients base, .made result.1)]) =
      verified log := by simp [verified, Answer.verified?]
  have hids : result.1.map Breakpoint.id = List.range' table.nextId clients.length :=
    ids_set _ _ _ _ _
  have hlength : result.1.length = clients.length := by
    rw [← List.length_map (f := Breakpoint.id), hids, List.length_range']
  have hget : ∀ key, result.2.get key =
      if key = Files.components path then result.1 else table.get key := by
    intro key
    split
    · rename_i hkey
      rw [hkey]
      exact get_set _ _ _ _ _
    · rename_i hkey
      exact get_set_of_ne table hkey _ _ _
  constructor
  · simpa [shown, Answer.made?, Answer.verified?] using
      h.known.set (Files.components path) (.ofText text) clients base
  · rw [hmade, List.map_append, h.numbered, hids, h.next, List.length_append, hlength,
      List.range'_append_1]
  · show table.nextId + clients.length = _
    rw [hmade, List.length_append, hlength, h.next, Nat.add_assoc]
  · exact nodup_put _ _ h.keys
  · intro key hkey
    have hne : key ≠ Files.components path := by
      rintro rfl
      exact hkey (.set path text clients base, .made result.1) (by simp) rfl
    rw [hget, if_neg hne]
    exact h.unset key fun deed hdeed => hkey deed (List.mem_append_left _ hdeed)
  · intro key bp hbp hlazy
    rw [hmade]
    rw [hget] at hbp
    split at hbp
    · exact List.mem_append_right _ hbp
    · exact List.mem_append_left _ (h.unverified key bp hbp hlazy)
  · intro now hnow
    rw [hverified] at hnow
    obtain ⟨htrue, hmem⟩ := h.genuine now hnow
    rw [hmade]
    exact ⟨htrue, List.mem_append_left _ hmem⟩
  · intro now hnow key bp hbp hid
    rw [hverified] at hnow
    rw [hget] at hbp
    split at hbp
    · -- New numbers are larger than any that was returned before.
      have hlt := h.known.numbered now (mem_shown hnow)
      have hle := (Known.id_set hbp).1
      omega
    · exact h.lasting now hnow key bp hbp hid
  · rw [hverified]
    exact h.once

/-- **A hit** keeps the invariant. -/
theorem hit (h : Lawful log table) {after : BreakpointTable} {path : Files.Path} {client : Int}
    {hit : Hit} (hits : table.hit (Files.components path) client = some (hit, after)) :
    Lawful (log ++ [(.hit path client, .found (some hit))]) after := by
  have hmade : made (log ++ [(.hit path client, .found (some hit))]) = made log := by
    simp [made, Answer.made?]
  have hverified : verified (log ++ [(.hit path client, .found (some hit))]) =
      verified log ++ hit.verifiedNow.toList := by
    cases hnow : hit.verifiedNow <;> simp [verified, Answer.verified?, hnow]
  obtain ⟨early, bp, late, struck⟩ := exists_struck hits
  have hbp : bp ∈ table.get (Files.components path) := by rw [struck.listed]; simp
  -- What was just verified stood in the table, unverified.
  have hnew : ∀ now ∈ hit.verifiedNow.toList,
      bp.verified = false ∧ now = { bp with verified := true } := by
    rw [struck.verifiedNow]
    cases bp.verified <;> simp
  have hget := get_hit h.known hits
  constructor
  · simpa [shown, Answer.made?, Answer.verified?] using h.known.strike struck
  · rw [hmade]
    exact h.numbered
  · rw [hmade, struck.nextId]
    exact h.next
  · unfold BreakpointTable.hit at hits
    split at hits
    · cases hits
    · cases hits
      exact nodup_put _ _ h.keys
  · intro key hkey
    rw [hget, h.unset key fun deed hdeed => hkey deed (List.mem_append_left _ hdeed)]
    rfl
  · intro key found hfound hlazy
    rw [hget] at hfound
    obtain ⟨old, hold, rfl⟩ := List.mem_map.1 hfound
    obtain ⟨hfalse, hnot⟩ : old.verified = false ∧ _ := by simpa [settle] using hlazy
    have hsame : settle hit.verifiedNow.toList old = old := by simp [settle, hnot]
    rw [hmade, hsame]
    exact h.unverified key old hold hfalse
  · intro now hnow
    rw [hverified] at hnow
    rw [hmade]
    rcases List.mem_append.1 hnow with hnow | hnow
    · exact h.genuine now hnow
    · obtain ⟨hlazy, rfl⟩ := hnew now hnow
      refine ⟨rfl, ?_⟩
      rw [show ({ bp with verified := false } : Breakpoint) = bp by rw [← hlazy]]
      exact h.unverified _ bp hbp hlazy
  · intro now hnow key found hfound hid
    rw [hget] at hfound
    obtain ⟨old, hold, rfl⟩ := List.mem_map.1 hfound
    rw [hverified] at hnow
    rcases List.mem_append.1 hnow with hnow | hnow
    · simp [settle, h.lasting now hnow key old hold hid]
    · obtain ⟨hlazy, rfl⟩ := hnew now hnow
      have hkey := h.known.apart key _ old hold bp hbp hid
      subst hkey
      obtain rfl : old = bp := List.inj_on_of_nodup_map (h.known.distinct _) hold hbp hid
      simp [settle, hnow]
  · rw [hverified, List.map_append, List.nodup_append]
    refine ⟨h.once, ?_, ?_⟩
    · cases hit.verifiedNow <;> simp
    · intro id hid id' hid' heq
      obtain ⟨now, hnow, rfl⟩ := List.mem_map.1 hid
      obtain ⟨now', hnow', rfl⟩ := List.mem_map.1 hid'
      obtain ⟨hlazy, rfl⟩ := hnew now' hnow'
      have := h.lasting now hnow _ bp hbp heq.symm
      rw [hlazy] at this
      cases this

/-- A line without a breakpoint is hit in vain. -/
theorem miss (h : Lawful log table) (path : Files.Path) (client : Int) :
    Lawful (log ++ [(.hit path client, .found none)]) table := by
  have hmade : made (log ++ [(.hit path client, .found none)]) = made log := by
    simp [made, Answer.made?]
  have hverified : verified (log ++ [(.hit path client, .found none)]) = verified log := by
    simp [verified, Answer.verified?]
  have hshown : shown (log ++ [(.hit path client, .found none)]) = shown log := by
    simp [shown, Answer.made?, Answer.verified?]
  exact {
    known := hshown ▸ h.known
    numbered := hmade ▸ h.numbered
    next := hmade ▸ h.next
    keys := h.keys
    unset := fun key hkey => h.unset key fun deed hdeed => hkey deed (List.mem_append_left _ hdeed)
    unverified := hmade ▸ h.unverified
    genuine := by rw [hmade, hverified]; exact h.genuine
    lasting := hverified ▸ h.lasting
    once := hverified ▸ h.once }

/-- **One operation** keeps the invariant. -/
theorem perform (h : Lawful log table) (op : Operation) :
    Lawful (log ++ [(op, (table.perform op).1)]) (table.perform op).2 := by
  cases op with
  | set path text clients base => exact h.set path text clients base
  | hit path client =>
    cases hhit : table.hit (Files.components path) client with
    | none =>
      rw [perform_miss hhit]
      exact h.miss path client
    | some found =>
      rw [perform_hit hhit]
      exact h.hit hhit

/-- **All operations** keep the invariant. -/
theorem replay (h : Lawful log table) (ops : List Operation) :
    Lawful (log ++ (table.replay ops).1) (table.replay ops).2 := by
  induction ops generalizing log table with
  | nil => simpa [BreakpointTable.replay] using h
  | cons op ops ih =>
    rw [replay_cons]
    simpa using ih (h.perform op)

end Lawful

/-! ## Since the last request -/

theorem get_perform {log : List Deed} {table : BreakpointTable} (h : Lawful log table)
    {op : Operation} {key : SourceKey} (hop : op.sets? ≠ some key) :
    (table.perform op).2.get key =
      (table.get key).map (settle (table.perform op).1.verified?.toList) := by
  cases op with
  | set path text clients base =>
    have hne : key ≠ Files.components path := fun heq => hop (congrArg some heq.symm)
    exact (get_set_of_ne table hne _ _ _).trans (map_settle_nil _).symm
  | hit path client =>
    cases hhit : table.hit (Files.components path) client with
    | none =>
      rw [perform_miss hhit]
      exact (map_settle_nil _).symm
    | some found =>
      rw [perform_hit hhit]
      exact get_hit h.known hhit key

/-- **Hits add up** while no request replaces the list. -/
theorem get_replay {log : List Deed} {table : BreakpointTable} (h : Lawful log table)
    {ops : List Operation} {key : SourceKey} (hops : ∀ op ∈ ops, op.sets? ≠ some key) :
    (table.replay ops).2.get key =
      (table.get key).map (settle (verified (table.replay ops).1)) := by
  induction ops generalizing log table with
  | nil => exact (map_settle_nil _).symm
  | cons op ops ih =>
    have hrest := ih (h.perform op) fun op' hop' => hops op' (List.mem_cons_of_mem _ hop')
    have hlog : ∀ log : List Deed, verified ((op, (table.perform op).1) :: log) =
        (table.perform op).1.verified?.toList ++ verified log := by
      intro log
      cases hnow : (table.perform op).1.verified? <;> simp [verified, hnow]
    rw [replay_cons, hrest, get_perform h (hops op (.head _)), List.map_map, hlog]
    exact List.map_congr_left fun bp _ => settle_settle _ _ bp

/-- An entry of the log divides the operations: those before it, its own, and those after it. -/
theorem replay_split {table : BreakpointTable} {ops : List Operation} {before after : List Deed}
    {deed : Deed} (h : (table.replay ops).1 = before ++ deed :: after) :
    ∃ early late, (table.replay early).1 = before ∧
      ((table.replay early).2.perform deed.1).1 = deed.2 ∧
      (((table.replay early).2.perform deed.1).2.replay late).1 = after ∧
      (((table.replay early).2.perform deed.1).2.replay late).2 = (table.replay ops).2 := by
  have hops : before.map Prod.fst ++ deed.1 :: after.map Prod.fst = ops := by
    rw [← map_fst_replay table ops, h, List.map_append, List.map_cons]
  have hrun := replay_append table (before.map Prod.fst) (deed.1 :: after.map Prod.fst)
  rw [hops, replay_cons] at hrun
  have hlog := h.symm.trans (congrArg Prod.fst hrun)
  have hlength : before.length = (table.replay (before.map Prod.fst)).1.length := by
    rw [← List.length_map (f := Prod.fst), ← List.length_map (f := Prod.fst), map_fst_replay]
  obtain ⟨hbefore, hrest⟩ := List.append_inj hlog hlength
  obtain ⟨hdeed, hafter⟩ := List.cons_eq_cons.1 hrest
  exact ⟨before.map Prod.fst, after.map Prod.fst, hbefore.symm, (congrArg Prod.snd hdeed).symm,
    hafter.symm, (congrArg Prod.snd hrun).symm⟩

/-- **The list of a source** is the one made last, and the hits since then. -/
theorem get_since_set {ops : List Operation} {before after : List Deed} {path : Files.Path}
    {text : List Char} {clients : List Int} {base : LineBase} {list : List Breakpoint}
    (h : (({} : BreakpointTable).replay ops).1 =
      before ++ (.set path text clients base, .made list) :: after)
    (hafter : ∀ deed ∈ after, deed.1.sets? ≠ some (Files.components path)) :
    (({} : BreakpointTable).replay ops).2.get (Files.components path) =
      list.map (settle (verified after)) := by
  obtain ⟨early, late, -, hanswer, rfl, htable⟩ := replay_split h
  have hset := (Lawful.empty.replay early).perform (.set path text clients base)
  have hlate : ∀ op ∈ late, op.sets? ≠ some (Files.components path) := by
    intro op hop
    rw [← map_fst_replay ((({} : BreakpointTable).replay early).2.perform
      (.set path text clients base)).2 late] at hop
    obtain ⟨deed, hdeed, rfl⟩ := List.mem_map.1 hop
    exact hafter deed hdeed
  have hlist : ((({} : BreakpointTable).replay early).2.perform
      (.set path text clients base)).2.get (Files.components path) = list := by
    refine (get_set _ _ _ _ _).trans ?_
    exact Answer.made.inj hanswer
  rw [← htable, get_replay hset hlate, hlist]

/-! ## The whole table -/

theorem get_of_mem {table : BreakpointTable} (h : (table.bySource.map Prod.fst).Nodup)
    {key : SourceKey} {list : List Breakpoint} (hmem : (key, list) ∈ table.bySource) :
    table.get key = list := by
  unfold get
  generalize table.bySource = entries at h hmem ⊢
  induction entries with
  | nil => cases hmem
  | cons entry rest ih =>
    obtain ⟨k, old⟩ := entry
    obtain ⟨hfirst, hrest⟩ := List.nodup_cons.1 h
    rw [lookup_cons_ite]
    rcases List.mem_cons.1 hmem with heq | hmem
    · cases heq
      simp
    · have hne : key ≠ k := fun heq => hfirst (List.mem_map.2 ⟨_, hmem, heq⟩)
      rw [if_neg hne]
      exact ih hrest hmem

/-- **No number stands twice in a table.** -/
theorem Lawful.nodup {log : List Deed} {table : BreakpointTable} (h : Lawful log table) :
    ((table.bySource.flatMap Prod.snd).map Breakpoint.id).Nodup := by
  rw [List.map_flatMap, List.nodup_flatMap]
  refine ⟨fun entry hentry => ?_, ?_⟩
  · rw [← get_of_mem h.keys hentry]
    exact h.known.distinct entry.1
  · refine (List.pairwise_map.1 h.keys).imp_of_mem fun {entry other} hentry hother hne => ?_
    intro id hid hid'
    obtain ⟨bp, hbp, rfl⟩ := List.mem_map.1 hid
    obtain ⟨bp', hbp', heq⟩ := List.mem_map.1 hid'
    rw [← get_of_mem h.keys hentry] at hbp
    rw [← get_of_mem h.keys hother] at hbp'
    exact hne (h.known.apart _ _ bp hbp bp' hbp' heq.symm)

/-- Where new breakpoints are and whether they are verified. -/
theorem outcomes_create (source : Source) (base : LineBase) (firstId : Nat) (clients : List Int) :
    (create source base firstId clients).map (fun bp => (bp.line, bp.verified)) =
      clients.map (placeClient source base) := by
  induction clients generalizing firstId with
  | nil => rfl
  | cons client rest ih => exact congrArg (placeClient source base client :: ·) (ih (firstId + 1))

end BreakpointTable

open BreakpointTable in
/-- **The history law of the table.** Take a fresh table and any operations on it. The breakpoints
made are numbered from 1000 on. A source has the list that was made for it last, in that order, with
a breakpoint verified if it was made so or if a later hit returned it as just verified; a source
without a request has none. No number stands twice in the table. Nothing is returned as just
verified twice, and what is was made unverified. What a request makes of its lines depends on its
text, lines and base alone. -/
theorem table_history (ops : List Operation) :
    let log := (({} : BreakpointTable).replay ops).1
    let table := (({} : BreakpointTable).replay ops).2
    log.map Prod.fst = ops ∧
      (made log).map Breakpoint.id = List.range' 1000 (made log).length ∧
      (∀ key, (∀ deed ∈ log, deed.1.sets? ≠ some key) → table.get key = []) ∧
      (∀ before path text clients base list after,
        log = before ++ (.set path text clients base, .made list) :: after →
        (∀ deed ∈ after, deed.1.sets? ≠ some (Files.components path)) →
          table.get (Files.components path) = list.map fun bp =>
            { bp with
              verified := bp.verified || decide ({ bp with verified := true } ∈ verified after) }) ∧
      ((table.bySource.flatMap Prod.snd).map Breakpoint.id).Nodup ∧
      ((verified log).map Breakpoint.id).Nodup ∧
      (∀ now ∈ verified log, now.verified = true ∧ { now with verified := false } ∈ made log) ∧
      ∀ path text clients base answer, (.set path text clients base, answer) ∈ log →
        ∃ list, answer = .made list ∧ list.map (fun bp => (bp.line, bp.verified)) =
          clients.map (placeClient (.ofText text) base) := by
  intro log table
  have h : Lawful log table := Lawful.empty.replay ops
  refine ⟨map_fst_replay _ ops, h.numbered, h.unset, ?_, h.nodup, h.once, h.genuine, ?_⟩
  · intro before path text clients base list after hlog hafter
    exact get_since_set hlog hafter
  · intro path text clients base answer hmem
    obtain ⟨before, after, hlog⟩ := List.append_of_mem hmem
    obtain ⟨early, late, -, hanswer, -⟩ := replay_split hlog
    exact ⟨_, hanswer.symm, outcomes_create _ _ _ _⟩

end TabTools.Debug
