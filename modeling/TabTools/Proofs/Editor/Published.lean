import Mathlib.Data.List.Nodup
import TabTools.Editor.Workspace
import TabTools.Proofs.Lookup

/-!
# Published findings

Three things have to agree: the texts of the open documents, the settings in force, and what the
client was last told about each document (`lastPublished`). Every change touches one of the first
two, and may touch any number of documents.

**Theorem (`published_current`).** After any changes, what was last published for an open document
are the findings of its text under the settings in force, and for a document that is closed there
are none.

**Order.** When the settings change, all open documents are published again, in an order that means
nothing. So a history of changes (`Told`) lets the client hear the notices of each change in any
order. The order cannot matter, since a change publishes nothing twice for one document
(`published_handle`); that rests on the documents being kept under different URIs.

**Invariant.** `Informed` relates a workspace to the notices so far, document by document. One
change keeps it (`Informed.handle`), and so does a history.
-/

namespace TabTools.Editor

/-! ## What was published -/

/-- The findings that a notice publishes for a document. -/
def Notice.findings? (uri : String) : Notice → Option (List Finding)
  | .publish u _ findings => if u = uri then some findings else none
  | .log _ _ => none

/-- All that was published for a document, oldest first. -/
def published (uri : String) (notices : List Notice) : List (List Finding) :=
  notices.filterMap (Notice.findings? uri)

/-- What was last published for a document. -/
def lastPublished (uri : String) (notices : List Notice) : Option (List Finding) :=
  (published uri notices).getLast?

theorem published_append (uri : String) (xs ys : List Notice) :
    published uri (xs ++ ys) = published uri xs ++ published uri ys :=
  List.filterMap_append

theorem lastPublished_append (uri : String) (xs ys : List Notice) :
    lastPublished uri (xs ++ ys) = (lastPublished uri ys).or (lastPublished uri xs) := by
  rw [lastPublished, published_append, List.getLast?_append]
  rfl

theorem lastPublished_ne_none {uri : String} {version : Option Int} {findings : List Finding}
    {notices : List Notice} (h : .publish uri version findings ∈ notices) :
    lastPublished uri notices ≠ none := by
  have hmem : findings ∈ published uri notices :=
    List.mem_filterMap.2 ⟨_, h, by simp [Notice.findings?]⟩
  intro hnone
  rw [lastPublished, List.getLast?_eq_none_iff] at hnone
  rw [hnone] at hmem
  cases hmem

/-- Publishing something at most once for a document, in whatever order. -/
theorem lastPublished_of_perm {uri : String} {notices told : List Notice}
    {news : Option (List Finding)} (hnotices : published uri notices = news.toList)
    (order : told.Perm notices) : lastPublished uri told = news := by
  have hperm : (published uri told).Perm news.toList := hnotices ▸ order.filterMap _
  cases news with
  | none =>
    rw [lastPublished, List.perm_nil.1 hperm]
    rfl
  | some findings =>
    rw [lastPublished, List.perm_singleton.1 hperm]
    rfl

/-! ## What changes do to a document -/

/-- What a change does to a document: it gives the document a text, it closes the document
(`some none`), or it has nothing to do with it (`none`). -/
def Change.effect? (uri : String) : Change → Option (Option String)
  | .opened u _ text => if u = uri then some (some text) else none
  | .edited u _ texts => if u = uri then texts.getLast?.map some else none
  | .closed u => if u = uri then some none else none
  | .configured _ => none

/-- The text of a document that is open after changes. A document is open when the last change to it
has not closed it. -/
def openText (uri : String) (changes : List Change) : Option String :=
  (changes.filterMap (Change.effect? uri)).getLast?.join

/-- The configuration that a change brings. -/
def Change.payload? : Change → Option Json
  | .configured payload => some payload
  | _ => none

namespace Workspace

theorem lookup_filter_ne (uri key : String) (documents : List (String × Document)) :
    (documents.filter fun d => d.1 != uri).lookup key =
      if key = uri then none else documents.lookup key := by
  induction documents with
  | nil => simp
  | cons entry rest ih =>
    obtain ⟨u, d⟩ := entry
    by_cases hu : u = uri
    · rw [List.filter_cons_of_neg (by simp [hu]), ih, lookup_cons_ite, hu]
      by_cases hkey : key = uri <;> simp [hkey]
    · rw [List.filter_cons_of_pos (by simp [hu]), lookup_cons_ite, lookup_cons_ite, ih]
      by_cases hkey : key = u
      · simp [hkey, hu]
      · simp [hkey]

/-- The ways in which a change can go. -/
inductive Handled (w : Workspace) (change : Change) : Workspace × List Notice → Prop
  | nothing (effect : ∀ key, change.effect? key = none) (payload : change.payload? = none) :
      Handled w change (w, [])
  | text {uri : String} {version : Int} {text : String}
      (effect : ∀ key, change.effect? key = if uri = key then some (some text) else none)
      (payload : change.payload? = none) :
      Handled w change (w.setText uri version text)
  | closed {uri : String}
      (effect : ∀ key, change.effect? key = if uri = key then some none else none)
      (payload : change.payload? = none) :
      Handled w change
        ({ w with documents := w.documents.filter fun d => d.1 != uri }, [.publish uri none []])
  | configured {payload : Json} {settings : Settings}
      (effect : ∀ key, change.effect? key = none) (payload_eq : change.payload? = some payload)
      (settings_eq : settings = w.settings.applyClient payload) :
      Handled w change
        ({ w with settings },
          ({ w with settings }).traced (settingsText settings) ++ ({ w with settings }).publishAll)

theorem handle_cases (w : Workspace) (change : Change) : Handled w change (w.handle change) := by
  cases change with
  | opened uri version text => exact .text (fun _ => rfl) rfl
  | edited uri version texts =>
    cases hlast : texts.getLast? with
    | none =>
      rw [show w.handle (.edited uri version texts) = (w, []) by simp only [handle, hlast]]
      exact .nothing (fun key => by simp [Change.effect?, hlast]) rfl
    | some text =>
      rw [show w.handle (.edited uri version texts) = w.setText uri version text by
        simp only [handle, hlast]]
      exact .text (fun key => by simp [Change.effect?, hlast]) rfl
  | closed uri => exact .closed (fun _ => rfl) rfl
  | configured payload => exact .configured (fun _ => rfl) rfl rfl

theorem settings_handle (w : Workspace) (change : Change) :
    (w.handle change).1.settings = change.payload?.elim w.settings w.settings.applyClient := by
  generalize hresult : w.handle change = result
  cases hresult ▸ handle_cases w change with
  | nothing _ payload => rw [payload]; rfl
  | text _ payload => rw [payload]; rfl
  | closed _ payload => rw [payload]; rfl
  | configured _ payload_eq settings_eq => rw [payload_eq, settings_eq]; rfl

/-- **One change** leaves a document with the text it gives it, or as it was. -/
theorem document?_handle (w : Workspace) (change : Change) (uri : String) :
    (w.handle change).1.document? uri =
      (change.effect? uri).elim (w.document? uri)
        (Option.map fun text : String => Document.ofText text.toList) := by
  generalize hresult : w.handle change = result
  cases hresult ▸ handle_cases w change with
  | nothing effect _ => rw [effect]; rfl
  | @text u version text effect _ =>
    refine (lookup_insertKey u uri (Document.ofText text.toList) w.documents).trans ?_
    rw [effect]
    by_cases hu : u = uri
    · rw [if_pos hu.symm, if_pos hu]; rfl
    · rw [if_neg (Ne.symm hu), if_neg hu]; rfl
  | @closed u effect _ =>
    refine (lookup_filter_ne u uri w.documents).trans ?_
    rw [effect]
    by_cases hu : u = uri
    · rw [if_pos hu.symm, if_pos hu]; rfl
    · rw [if_neg (Ne.symm hu), if_neg hu]; rfl
  | configured effect _ _ => rw [effect]; rfl

/-! ## What a change publishes -/

theorem sorted_handle {w : Workspace} (h : Sorted w.documents) (change : Change) :
    Sorted (w.handle change).1.documents := by
  generalize hresult : w.handle change = result
  cases hresult ▸ handle_cases w change with
  | nothing _ _ => exact h
  | text _ _ => exact sorted_insertKey _ _ h
  | closed _ _ => exact h.filter _
  | configured _ _ _ => exact h

/-- The findings of a document as it is now; a document that is closed has none. -/
def current (w : Workspace) (uri : String) : List Finding :=
  (w.document? uri).elim [] fun doc => doc.findings w.settings

theorem published_traced (w : Workspace) (uri message : String) (notices : List Notice) :
    published uri (w.traced message ++ notices) = published uri notices := by
  have hlog : published uri (w.traced message) = [] := by
    unfold traced
    split <;> rfl
  rw [published_append, hlog, List.nil_append]

theorem published_publishAll {w : Workspace} (h : Sorted w.documents) (uri : String) :
    published uri w.publishAll =
      ((w.document? uri).map fun doc => doc.findings w.settings).toList := by
  have hfilter := filterMap_key h uri
  have hmap : published uri w.publishAll =
      (w.documents.filterMap fun d => if d.1 = uri then some d.2 else none).map
        fun doc => doc.findings w.settings := by
    rw [published, publishAll, List.filterMap_map, List.map_filterMap]
    refine List.filterMap_congr fun d _ => ?_
    by_cases hd : d.1 = uri <;> simp [Notice.findings?, hd]
  rw [hmap, hfilter]
  cases h : w.documents.lookup uri <;> simp [document?, h]

/-- What a change publishes for a document. -/
inductive News (w after : Workspace) (uri : String) : Option (List Finding) → Prop
  /-- The findings as they are after the change. -/
  | told : News w after uri (some (after.current uri))
  /-- Nothing, and there is nothing new. -/
  | none (document : after.document? uri = w.document? uri)
      (current : after.current uri = w.current uri) : News w after uri none

/-- **A change publishes at most once for a document**, and nothing if there is nothing new. -/
theorem published_handle {w : Workspace} (h : Sorted w.documents) (change : Change) (uri : String) :
    ∃ news, published uri (w.handle change).2 = news.toList ∧
      News w (w.handle change).1 uri news := by
  have hdocument := document?_handle w change uri
  generalize hresult : w.handle change = result at hdocument
  cases hresult ▸ handle_cases w change with
  | nothing effect _ => exact ⟨none, rfl, .none rfl rfl⟩
  | @text u version text effect _ =>
    by_cases hu : u = uri
    · refine ⟨_, ?_, .told⟩
      rw [effect, if_pos hu] at hdocument
      rw [current, hdocument, setText]
      dsimp only
      rw [published_traced]
      simp [published, Notice.findings?, hu]
    · refine ⟨none, ?_, ?_⟩
      · rw [setText]
        dsimp only
        rw [published_traced]
        simp [published, Notice.findings?, hu]
      · rw [effect, if_neg hu] at hdocument
        exact .none hdocument (by rw [current, hdocument]; rfl)
  | @closed u effect _ =>
    by_cases hu : u = uri
    · refine ⟨_, ?_, .told⟩
      rw [effect, if_pos hu] at hdocument
      rw [current, hdocument]
      simp [published, Notice.findings?, hu]
    · refine ⟨none, by simp [published, Notice.findings?, hu], ?_⟩
      rw [effect, if_neg hu] at hdocument
      exact .none hdocument (by rw [current, hdocument]; rfl)
  | @configured payload settings effect _ _ =>
    have hpublished : published uri (({ w with settings }).traced (settingsText settings) ++
        ({ w with settings }).publishAll) =
        ((w.document? uri).map fun doc => doc.findings settings).toList := by
      rw [published_traced]
      exact published_publishAll (w := { w with settings }) h uri
    cases hdoc : w.document? uri with
    | none =>
      rw [hdoc] at hpublished
      have hafter : ({ w with settings } : Workspace).document? uri = none := hdoc
      exact ⟨none, hpublished, .none (hafter.trans hdoc.symm) (by simp [current, hafter, hdoc])⟩
    | some doc =>
      rw [hdoc] at hpublished
      have hafter : ({ w with settings } : Workspace).document? uri = some doc := hdoc
      refine ⟨_, ?_, .told⟩
      rw [hpublished, current, hafter]
      rfl

end Workspace

/-! ## Histories -/

/-- Changes that lead from one workspace to another, and the notices that the client hears of them:
those of every change, in any order among themselves. -/
inductive Told : Workspace → List Change → Workspace → List Notice → Prop
  | nil (w : Workspace) : Told w [] w []
  | cons {w last : Workspace} {change : Change} {changes : List Change} {told more : List Notice}
      (order : told.Perm (w.handle change).2) (rest : Told (w.handle change).1 changes last more) :
      Told w (change :: changes) last (told ++ more)

namespace Workspace

/-- What the client was last told about every document is what holds for it, and it was told about
every open one. -/
structure Informed (w : Workspace) (shown : List Notice) : Prop where
  sorted : Sorted w.documents
  current : ∀ uri, lastPublished uri shown = some (w.current uri) ∨
    lastPublished uri shown = none ∧ w.document? uri = none

theorem informed_empty (settings : Settings) : Informed { settings } [] where
  sorted := .nil
  current _ := .inr ⟨rfl, rfl⟩

/-- **One change keeps the client informed.** -/
theorem Informed.handle {w : Workspace} {shown told : List Notice} (h : w.Informed shown)
    {change : Change} (order : told.Perm (w.handle change).2) :
    (w.handle change).1.Informed (shown ++ told) where
  sorted := sorted_handle h.sorted change
  current uri := by
    obtain ⟨news, hpublished, hnews⟩ := published_handle h.sorted change uri
    rw [lastPublished_append, lastPublished_of_perm hpublished order]
    cases hnews with
    | told => exact .inl rfl
    | none document current =>
      rw [current, document]
      exact h.current uri

theorem Informed.told {w last : Workspace} {changes : List Change} {shown more : List Notice}
    (h : w.Informed shown) (told : Told w changes last more) : last.Informed (shown ++ more) := by
  induction told generalizing shown with
  | nil => simpa using h
  | cons order _ ih =>
    rw [← List.append_assoc]
    exact ih (h.handle order)

end Workspace

theorem settings_of_told {w last : Workspace} {changes : List Change} {shown : List Notice}
    (told : Told w changes last shown) :
    last.settings = (changes.filterMap Change.payload?).foldl Settings.applyClient w.settings := by
  induction told with
  | nil => rfl
  | @cons w last change changes told more _ _ ih =>
    rw [ih, w.settings_handle, List.filterMap_cons]
    cases change.payload? <;> rfl

/-- After a history a document has the text that the last change to it has given it. -/
theorem document?_of_told {w last : Workspace} {changes : List Change} {shown : List Notice}
    (told : Told w changes last shown) (uri : String) :
    last.document? uri =
      ((changes.filterMap (Change.effect? uri)).getLast?).elim (w.document? uri)
        (Option.map fun text : String => Document.ofText text.toList) := by
  induction told with
  | nil => rfl
  | @cons w last change changes told more _ _ ih =>
    rw [ih, w.document?_handle, List.filterMap_cons]
    cases change.effect? uri with
    | none => rfl
    | some text =>
      rw [List.getLast?_cons]
      cases (changes.filterMap (Change.effect? uri)).getLast? <;> rfl

/-- **Published findings are current.** From any settings and without open documents, after any
changes and in whatever order the client hears the notices of each: the settings in force are the
first ones with all configurations applied in turn; what was last published for a document that is
open are the findings of its last text under these settings; and if anything was published for a
document that is not open, the last that was published is that there are no findings. -/
theorem published_current (settings : Settings) (changes : List Change) {w : Workspace}
    {shown : List Notice} (told : Told { settings } changes w shown) (uri : String) :
    w.settings = (changes.filterMap Change.payload?).foldl Settings.applyClient settings ∧
      (∀ text, openText uri changes = some text →
        lastPublished uri shown = some ((Document.ofText text.toList).findings w.settings)) ∧
      (openText uri changes = none →
        (∃ version findings, .publish uri version findings ∈ shown) →
        lastPublished uri shown = some []) := by
  have hinformed := (Workspace.informed_empty settings).told told
  rw [List.nil_append] at hinformed
  have hdocument : w.document? uri =
      (openText uri changes).map fun text : String => Document.ofText text.toList := by
    rw [document?_of_told told, openText]
    cases (changes.filterMap (Change.effect? uri)).getLast? <;> rfl
  refine ⟨settings_of_told told, fun text htext => ?_, fun hclosed ⟨version, findings, hmem⟩ => ?_⟩
  · rw [htext] at hdocument
    rcases hinformed.current uri with hcurrent | ⟨-, hnone⟩
    · rw [hcurrent, Workspace.current, hdocument]
      rfl
    · rw [hdocument] at hnone
      cases hnone
  · rw [hclosed] at hdocument
    rcases hinformed.current uri with hcurrent | ⟨hnone, -⟩
    · rw [hcurrent, Workspace.current, hdocument]
      rfl
    · exact absurd hnone (lastPublished_ne_none hmem)

/-- Two documents are opened, one of them is closed and edited without being opened again, and an
edit without a text changes nothing. The configuration that comes last prefers mnemonics in
uppercase and gives a trace level that does not fit. The client hears its notices from the last to
the first. -/
theorem published_after_reconfiguring :
    let changes : List Change :=
      [.opened "file:///a" 1 "nop", .opened "file:///b" 1 "lda", .closed "file:///b",
       .edited "file:///b" 2 ["jmp x", "lda"], .edited "file:///a" 2 [],
       .configured (.obj [("preferUppercase", .arr [.str "mnemonic"]), ("trace", .str "all")])]
    ∃ w shown, Told {} changes w shown ∧
      lastPublished "file:///b" shown =
        some [⟨⟨⟨0, 0⟩, ⟨0, 3⟩⟩, .warning, "mnemonic `lda` should be uppercase"⟩] := by
  intro changes
  have told : ∃ w shown, Told {} changes w shown :=
    ⟨_, _, .cons (List.Perm.refl _) (.cons (List.Perm.refl _) (.cons (List.Perm.refl _)
      (.cons (List.Perm.refl _) (.cons (List.Perm.refl _)
        (.cons (List.reverse_perm _) (.nil _))))))⟩
  obtain ⟨w, shown, told⟩ := told
  refine ⟨w, shown, told, ?_⟩
  obtain ⟨hsettings, hopen, -⟩ := published_current {} changes told "file:///b"
  rw [hopen "lda" rfl, hsettings]
  decide +kernel

end TabTools.Editor
