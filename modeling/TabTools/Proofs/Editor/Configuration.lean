import Mathlib.Data.List.Forall2
import Mathlib.Data.List.Induction
import TabTools.Editor.Settings

/-!
# Configurations of a client

A client may send any number of configurations, and each of them may give a preference, leave it out
or have something malformed in its place. What it means to give one is said of the JSON value
(`GivesUppercase`, `GivesTrace`).

**Theorem (`last_given_wins`).** After any configurations each preference has the value that the
last one to give it gives, and the value from before if none of them does. What a configuration has
for one preference means nothing for the other one.

**Preferences.** The two are read in different ways but taken over in the same one (`Preference`).
So the proof is done once: one configuration is a step (`Leaves.step`), and any number of them follow
by induction (`Preference.leaves`).
-/

namespace TabTools.Editor

/-! ## What a configuration gives -/

/-- The part of a configuration that counts: what it has under the name of the section, or all of it
if it has no such key. -/
inductive Section (payload : Json) : Json → Prop
  | named {part : Json} (has : payload.get? "tabasm" = some part) : Section payload part
  | whole (lacks : payload.get? "tabasm" = none) : Section payload payload

/-- A configuration gives the classes to write in uppercase as an array that holds texts only. -/
def GivesUppercase (payload : Json) (names : List String) : Prop :=
  ∃ part, Section payload part ∧ part.get? "preferUppercase" = some (.arr (names.map Json.str))

/-- How a trace level is written. -/
inductive Spells (level : TraceLevel) : Json → Prop
  | name : Spells level (.str level.name)
  | key : Spells level (.obj [(level.name, .null)])

/-- A configuration gives the trace level of the server. -/
def GivesTrace (payload : Json) (level : TraceLevel) : Prop :=
  ∃ part trace value, Section payload part ∧ part.get? "trace" = some trace ∧
    trace.get? "server" = some value ∧ Spells level value

/-- The value that configurations leave of a preference. -/
inductive Leaves {α : Type} (Gives : Json → α → Prop) (initial : α) : List Json → α → Prop
  | initial {payloads : List Json} (silent : ∀ p ∈ payloads, ∀ value, ¬Gives p value) :
      Leaves Gives initial payloads initial
  | last {early late : List Json} {payload : Json} {value : α} (gives : Gives payload value)
      (silent : ∀ p ∈ late, ∀ other, ¬Gives p other) :
      Leaves Gives initial (early ++ payload :: late) value

/-- Two configurations give the same of a preference, or both nothing. -/
def GiveAlike {α : Type} (Gives : Json → α → Prop) (p q : Json) : Prop :=
  ∀ value, Gives p value ↔ Gives q value

/-! ## Reading configurations -/

theorem section_iff {payload part : Json} :
    Section payload part ↔ Settings.clientSection payload = part := by
  unfold Settings.clientSection Settings.sectionName
  constructor
  · rintro (has | lacks)
    · rw [has]
      rfl
    · rw [lacks]
      rfl
  · intro h
    cases hkey : payload.get? "tabasm" with
    | none =>
      rw [hkey] at h
      exact h ▸ .whole hkey
    | some v =>
      rw [hkey] at h
      exact h ▸ .named hkey

theorem mapM_str?_eq_some_iff {items : List Json} {names : List String} :
    items.mapM Json.str? = some names ↔ items = names.map Json.str := by
  induction items generalizing names with
  | nil => cases names <;> simp
  | cons item items ih =>
    rw [List.mapM_cons]
    constructor
    · intro h
      obtain ⟨first, hfirst, h⟩ := Option.bind_eq_some_iff.1 h
      obtain ⟨rest, hrest, h⟩ := Option.bind_eq_some_iff.1 h
      cases h
      rw [ih.1 hrest, List.map_cons]
      cases item with
      | str s => cases hfirst; rfl
      | _ => cases hfirst
    · intro h
      cases names with
      | nil => cases h
      | cons first rest =>
        obtain ⟨rfl, hrest⟩ := List.cons_eq_cons.1 h
        rw [ih.2 hrest]
        rfl

theorem textsOfJson?_eq_some_iff {v : Json} {names : List String} :
    Settings.textsOfJson? v = some names ↔ v = .arr (names.map Json.str) := by
  cases v with
  | arr items => simp [Settings.textsOfJson?, mapM_str?_eq_some_iff]
  | _ => simp [Settings.textsOfJson?]

theorem ofName?_eq_some_iff {name : String} {level : TraceLevel} :
    TraceLevel.ofName? name = some level ↔ name = level.name := by
  constructor
  · intro h
    unfold TraceLevel.ofName? at h
    split at h <;> cases h <;> rfl
  · rintro rfl
    cases level <;> rfl

theorem ofJson?_eq_some_iff {v : Json} {level : TraceLevel} :
    TraceLevel.ofJson? v = some level ↔ Spells level v := by
  constructor
  · intro h
    unfold TraceLevel.ofJson? at h
    split at h
    · exact ofName?_eq_some_iff.1 h ▸ .name
    · exact ofName?_eq_some_iff.1 h ▸ .key
    · cases h
  · rintro (_ | _) <;> exact ofName?_eq_some_iff.2 rfl

theorem clientUppercase?_eq_some_iff {payload : Json} {names : List String} :
    Settings.clientUppercase? payload = some names ↔ GivesUppercase payload names := by
  simp only [Settings.clientUppercase?, Option.bind_eq_some_iff, textsOfJson?_eq_some_iff,
    GivesUppercase, section_iff, exists_eq_left', exists_eq_right]

theorem clientTrace?_eq_some_iff {payload : Json} {level : TraceLevel} :
    Settings.clientTrace? payload = some level ↔ GivesTrace payload level := by
  simp only [Settings.clientTrace?, Option.bind_eq_some_iff, ofJson?_eq_some_iff, GivesTrace,
    section_iff]
  constructor
  · rintro ⟨value, ⟨trace, htrace, hvalue⟩, hspells⟩
    exact ⟨_, trace, value, rfl, htrace, hvalue, hspells⟩
  · rintro ⟨_, trace, value, rfl, htrace, hvalue, hspells⟩
    exact ⟨value, ⟨trace, htrace, hvalue⟩, hspells⟩

/-! ## Preferences -/

/-- One of the settings, with how a configuration gives it. -/
structure Preference (α : Type) where
  get : Settings → α
  Gives : Json → α → Prop
  given? : Json → Option α
  given?_eq_some_iff : ∀ {payload value}, given? payload = some value ↔ Gives payload value
  get_applyClient : ∀ s payload, get (s.applyClient payload) = (given? payload).getD (get s)

namespace Preference

def uppercase : Preference (List String) where
  get := Settings.preferUppercase
  Gives := GivesUppercase
  given? := Settings.clientUppercase?
  given?_eq_some_iff := clientUppercase?_eq_some_iff
  get_applyClient _ _ := rfl

def traceLevel : Preference TraceLevel where
  get := Settings.trace
  Gives := GivesTrace
  given? := Settings.clientTrace?
  given?_eq_some_iff := clientTrace?_eq_some_iff
  get_applyClient _ _ := rfl

variable {α : Type} (preference : Preference α)

theorem given?_eq_none_iff {payload : Json} :
    preference.given? payload = none ↔ ∀ value, ¬preference.Gives payload value := by
  simp only [Option.eq_none_iff_forall_ne_some, ne_eq, preference.given?_eq_some_iff]

theorem given?_eq_iff {p q : Json} :
    preference.given? p = preference.given? q ↔ GiveAlike preference.Gives p q := by
  simp only [Option.ext_iff, preference.given?_eq_some_iff, GiveAlike]

/-- **One configuration** replaces a value that others have left, or leaves it too. -/
theorem step {initial value : α} {payloads : List Json}
    (h : Leaves preference.Gives initial payloads value) (payload : Json) :
    Leaves preference.Gives initial (payloads ++ [payload])
      ((preference.given? payload).getD value) := by
  cases hgiven : preference.given? payload with
  | some new => exact .last (preference.given?_eq_some_iff.1 hgiven) (by simp)
  | none =>
    have hsilent := preference.given?_eq_none_iff.1 hgiven
    cases h with
    | initial silent =>
      exact .initial (List.forall_mem_append.2 ⟨silent, List.forall_mem_singleton.2 hsilent⟩)
    | last gives silent =>
      rw [List.append_assoc, List.cons_append]
      exact .last gives (List.forall_mem_append.2 ⟨silent, List.forall_mem_singleton.2 hsilent⟩)

/-- **Any number of configurations** leave the last value that was given. -/
theorem leaves (s : Settings) (payloads : List Json) :
    Leaves preference.Gives (preference.get s) payloads
      (preference.get (payloads.foldl Settings.applyClient s)) := by
  induction payloads using List.reverseRecOn with
  | nil => exact .initial (by simp)
  | append_singleton payloads payload ih =>
    rw [List.foldl_append, List.foldl_cons, List.foldl_nil, preference.get_applyClient]
    exact preference.step ih payload

/-- **What else is configured** does not matter. -/
theorem get_foldl_congr {s t : Settings} (h : preference.get s = preference.get t)
    {payloads others : List Json} (alike : List.Forall₂ (GiveAlike preference.Gives) payloads others) :
    preference.get (payloads.foldl Settings.applyClient s) =
      preference.get (others.foldl Settings.applyClient t) := by
  induction alike generalizing s t with
  | nil => exact h
  | cons hfirst _ ih =>
    apply ih
    rw [preference.get_applyClient, preference.get_applyClient, preference.given?_eq_iff.2 hfirst, h]

end Preference

/-- **The last value given wins**, for each preference on its own. Whatever configurations come and
whatever the settings were, the classes to write in uppercase are those of the last configuration
that gives an array of texts for them, and the trace level is that of the last one that gives a
level; a preference that none of them gives is as it was. Other configurations that give the same of
one preference leave the same value of it, whatever they have for the other. -/
theorem last_given_wins (settings : Settings) (payloads : List Json) :
    let final := payloads.foldl Settings.applyClient settings
    Leaves GivesUppercase settings.preferUppercase payloads final.preferUppercase ∧
    Leaves GivesTrace settings.trace payloads final.trace ∧
    ∀ (settings' : Settings) (payloads' : List Json),
      let final' := payloads'.foldl Settings.applyClient settings'
      (settings.preferUppercase = settings'.preferUppercase →
        List.Forall₂ (GiveAlike GivesUppercase) payloads payloads' →
        final.preferUppercase = final'.preferUppercase) ∧
      (settings.trace = settings'.trace → List.Forall₂ (GiveAlike GivesTrace) payloads payloads' →
        final.trace = final'.trace) := by
  intro final
  refine ⟨Preference.uppercase.leaves settings payloads,
    Preference.traceLevel.leaves settings payloads, fun settings' payloads' => ⟨?_, ?_⟩⟩
  · intro hsame halike
    exact Preference.uppercase.get_foldl_congr hsame halike
  · intro hsame halike
    exact Preference.traceLevel.get_foldl_congr hsame halike

/-- The second configuration has something in the array that is no text, and the third one has a
section with nothing in it. So the classes are those of the first one, as if nothing else had been
configured, and the level is that of the second one. -/
theorem level_beside_malformed_classes :
    let names (items : List Json) : Json := .obj [("preferUppercase", .arr items)]
    let payloads : List Json :=
      [.obj [("tabasm", names [.str "mnemonic"])],
       .obj [("preferUppercase", .arr [.str "label", .null]),
         ("trace", .obj [("server", .obj [("verbose", .null)])])],
       .obj [("preferUppercase", .arr []), ("tabasm", .null), ("trace", .str "off")]]
    let final := payloads.foldl Settings.applyClient { trace := .messages }
    List.Forall₂ (GiveAlike GivesUppercase) payloads [names [.str "mnemonic"], .null, .null] ∧
      final.preferUppercase = ["mnemonic"] ∧ final.trace = .verbose := by
  intro names payloads final
  have halike : List.Forall₂ (GiveAlike GivesUppercase) payloads
      [names [.str "mnemonic"], .null, .null] :=
    .cons (Preference.uppercase.given?_eq_iff.1 rfl)
      (.cons (Preference.uppercase.given?_eq_iff.1 rfl)
        (.cons (Preference.uppercase.given?_eq_iff.1 rfl) .nil))
  obtain ⟨-, -, hothers⟩ := last_given_wins { trace := .messages } payloads
  have hclasses := (hothers {} [names [.str "mnemonic"], .null, .null]).1 rfl halike
  exact ⟨halike, hclasses, rfl⟩

end TabTools.Editor
