import TabTools.Proofs.Debug.Bounds
import TabTools.Proofs.Debug.Numbering
import TabTools.Proofs.Wire.RoundTrip

/-!
# Sessions over a stream

**Theorem (`written_numbered`).** Whatever bytes a session reads from a channel and whatever files
there are, it comes to an end, and the bytes it has written read back as the objects it wrote:
numbered from one, each a response or an event, and then the end of the stream. Whatever writes
fail, attempts are numbered from one.

**Channels** (`Carries`). The entries of a run tell what a channel was used for: a message heard is
what its next read gives, a message sent is written to it. A run over the messages of a stream can
be carried by a channel that has the stream ahead (`carries_serveAll`).

**Reading back.** A message is read back if its numbers are in range (`readable_toJson`). The
numbers a session gives out are bounded by how much it has written (`Run.Bounded`), and what was
written fits into memory.
-/

namespace TabTools.Debug

open Wire (Channel)

/-! ## What a channel carries -/

/-- A channel goes through entries: it reads what is heard and writes what is sent. -/
inductive Carries : Channel → List Entry → Channel → Prop
  | nil (channel : Channel) : Carries channel [] channel
  | received {channel next last : Channel} {message : Json} {entries : List Entry}
      (reads : channel.read = (.ok message, next)) (rest : Carries next entries last) :
      Carries channel (.received message :: entries) last
  | traceOn {channel last : Channel} {entries : List Entry}
      (rest : Carries (channel.setTrace true) entries last) :
      Carries channel (.traceOn :: entries) last
  | sent {channel last : Channel} {seq : Nat} {m : Message} {entries : List Entry}
      (rest : Carries (channel.write (m.toJson seq)) entries last) :
      Carries channel (.sent seq m true :: entries) last

namespace Carries

variable {channel next last : Channel} {entries more : List Entry}

theorem append (h : Carries channel entries next) (h' : Carries next more last) :
    Carries channel (entries ++ more) last := by
  induction h with
  | nil channel => exact h'
  | received reads _ ih => exact .received reads (ih h')
  | traceOn _ ih => exact .traceOn (ih h')
  | sent _ ih => exact .sent (ih h')

theorem output_read {message : Json} (h : channel.read = (.ok message, next)) :
    next.output = channel.output := by
  unfold Channel.read at h
  split at h
  · cases h
  · cases h
    exact Channel.output_traced _ _ _

/-- **What is written** are the frames of the objects. -/
theorem output_eq (h : Carries channel entries last) :
    last.output = channel.output ++ (objects entries).flatMap Wire.frame := by
  induction h with
  | nil channel => simp [objects]
  | received reads _ ih => rw [ih, output_read reads]; rfl
  | traceOn _ ih => exact ih
  | @sent channel last seq m entries _ ih =>
    rw [ih, Channel.output_write, List.append_assoc]
    rfl

end Carries

theorem outputBytes_traffic (entries : List Entry) :
    Wire.outputBytes (entries.map Entry.traffic) = (objects entries).flatMap Wire.frame := by
  induction entries with
  | nil => rfl
  | cons e entries ih =>
    cases e with
    | received message => exact ih
    | traceOn => exact ih
    | sent seq m delivered =>
      rw [List.map_cons, Entry.traffic, Wire.outputBytes, ih]
      rfl

/-- Acts that all succeed read nothing. -/
theorem carries_recorded (channel : Channel) (seq : Nat) (acts : List Act) :
    ∃ last, Carries channel (recorded seq acts) last ∧ last.input = channel.input := by
  induction acts generalizing channel seq with
  | nil => exact ⟨channel, .nil channel, rfl⟩
  | cons act acts ih =>
    cases act with
    | traceOn =>
      obtain ⟨last, hcarries, hinput⟩ := ih (channel.setTrace true) seq
      exact ⟨last, .traceOn hcarries, hinput⟩
    | write after m =>
      obtain ⟨last, hcarries, hinput⟩ := ih (channel.write (m.toJson seq)) (seq + 1)
      exact ⟨last, .sent hcarries, hinput.trans (Channel.input_traced _ _ _)⟩

/-! ## Turns over a channel -/

/-- A channel carries all that leads from one run to the next. -/
def Advances (channel : Channel) (run next : Run) (last : Channel) : Prop :=
  ∃ more, next.entries = run.entries ++ more ∧ Carries channel more last

theorem Advances.trans {channel next last : Channel} {run after ended : Run}
    (h : Advances channel run after next) (h' : Advances next after ended last) :
    Advances channel run ended last := by
  obtain ⟨more, hentries, hcarries⟩ := h
  obtain ⟨rest, hentries', hcarries'⟩ := h'
  exact ⟨more ++ rest, by rw [hentries', hentries, List.append_assoc], hcarries.append hcarries'⟩

namespace Run

theorem advances_performed (channel : Channel) (run : Run) (acts : List Act) :
    ∃ last, Advances channel run (run.performed acts) last ∧ last.input = channel.input := by
  obtain ⟨last, hcarries, hinput⟩ := carries_recorded channel run.nextSeq acts
  exact ⟨last, ⟨_, rfl, hcarries⟩, hinput⟩

theorem advances_drained (channel : Channel) (run : Run) :
    ∃ last, Advances channel run run.drained last ∧ last.input = channel.input :=
  advances_performed channel { run with queue := [] } _

/-- Reading takes off the front of what is ahead. -/
theorem advances_heard {channel : Channel} {message : Json} {rest : List UInt8}
    (hread : Wire.read channel.input = (.ok message, rest)) (run : Run) (turn : Turn) :
    ∃ last, Advances channel run (run.heard turn message) last ∧ last.input = rest := by
  obtain ⟨next, hdrained, hinput⟩ := advances_drained channel run
  have hreads : next.read =
      (.ok message, ({ next with input := rest } : Channel).traced .inbound message) := by
    rw [Channel.read, hinput, hread]
  exact ⟨_, hdrained.trans ⟨_, rfl, .received hreads (.nil _)⟩, Channel.input_traced _ _ _⟩

/-- **One turn over a channel**: the message is the next one ahead. -/
theorem advances_serve {channel : Channel} {message : Json} {rest : List UInt8}
    (hread : Wire.read channel.input = (.ok message, rest)) (run : Run) {turn : Turn}
    (hturn : turn.inbound = .ok message) :
    ∃ last, Advances channel run (run.serve Faults.none turn).1 last ∧ last.input = rest := by
  obtain ⟨heard, hheard, hinput⟩ := advances_heard hread run turn
  cases hreq : request? message with
  | none =>
    rw [serve_none_other run hturn hreq]
    exact ⟨heard, hheard, hinput⟩
  | some req =>
    by_cases panics : run.session.Panics req
    · rw [serve_none_panic run hturn hreq panics]
      exact ⟨heard, hheard, hinput⟩
    rw [serve_none_request run hturn hreq panics]
    obtain ⟨next, hnext, hinput'⟩ := advances_performed heard (run.heard turn message)
      ((run.heard turn message).session.reaction turn.files req)
    obtain ⟨last, hlast, hinput''⟩ := advances_drained next ((run.heard turn message).performed
      ((run.heard turn message).session.reaction turn.files req))
    exact ⟨last, (hheard.trans hnext).trans hlast, by rw [hinput'', hinput', hinput]⟩

theorem readAll_cons {bytes : List UInt8} {message : Json} {messages : List Json}
    {failure : Wire.ReadError} (h : Wire.readAll bytes = (message :: messages, failure)) :
    ∃ rest, Wire.read bytes = (.ok message, rest) ∧ Wire.readAll rest = (messages, failure) := by
  unfold Wire.readAll at h
  split at h
  · cases h
  · rename_i m rest hread
    cases h
    exact ⟨rest, hread, rfl⟩

/-- **A run over the messages of a stream** is carried by a channel that has the stream ahead, and
comes to an end. -/
theorem carries_serveAll {channel : Channel} {messages : List Json} {failure : Wire.ReadError}
    (hread : Wire.readAll channel.input = (messages, failure)) (run : Run) {turns : List Turn}
    (hturns : turns.map Turn.inbound = messages.map .ok ++ [.error failure]) :
    (run.serveAll Faults.none turns).2 ≠ .goOn ∧
      ∃ last, Advances channel run (run.serveAll Faults.none turns).1 last := by
  induction messages generalizing channel run turns with
  | nil =>
    obtain ⟨turn, rfl, hturn⟩ := List.map_eq_singleton_iff.1 hturns
    obtain ⟨last, hlast, -⟩ := advances_drained channel run
    rw [serveAll_ended (serve_none_error run hturn) (by simp)]
    exact ⟨by simp, last, hlast⟩
  | cons message messages ih =>
    obtain ⟨turn, rest, rfl, hturn, hrest⟩ := List.map_eq_cons_iff.1 hturns
    obtain ⟨ahead, hfirst, hmore⟩ := readAll_cons hread
    obtain ⟨next, hnext, hinput⟩ := advances_serve hfirst run hturn
    obtain ⟨⟨after, outcome⟩, hserve⟩ : ∃ result, run.serve Faults.none turn = result := ⟨_, rfl⟩
    rw [hserve] at hnext
    by_cases hended : outcome = .goOn
    · subst hended
      rw [serveAll_goOn hserve]
      obtain ⟨hends, last, hlast⟩ := ih (hinput ▸ hmore) after hrest
      exact ⟨hends, last, hnext.trans hlast⟩
    · rw [serveAll_ended hserve hended]
      exact ⟨hended, next, hnext⟩

/-! ## Streams as turns -/

/-- The turns in which reads are served: each sees the files there are once its message was read. -/
def streamTurns (files : List Entry → Files.View) :
    Run → List (Except Wire.ReadError Json) → List Turn
  | _, [] => []
  | run, inbound :: rest =>
    let turn : Turn :=
      { inbound, files := files (run.entries ++ inbound.toOption.toList.map Entry.received) }
    turn :: streamTurns files (run.serve Faults.none turn).1 rest

theorem serveReads_eq (files : List Entry → Files.View) (run : Run)
    (reads : List (Except Wire.ReadError Json)) :
    serveReads files run reads = run.serveAll Faults.none (streamTurns files run reads) := by
  induction reads generalizing run with
  | nil => rfl
  | cons inbound rest ih =>
    rw [streamTurns, serveAll, serveReads]
    split
    · rename_i next heq
      rw [heq]
      exact ih next
    · rfl

theorem inbound_streamTurns (files : List Entry → Files.View) (run : Run)
    (reads : List (Except Wire.ReadError Json)) :
    (streamTurns files run reads).map Turn.inbound = reads := by
  induction reads generalizing run with
  | nil => rfl
  | cons inbound rest ih => exact congrArg (inbound :: ·) (ih _)

theorem files_streamTurns {files : List Entry → Files.View} {run : Run}
    {reads : List (Except Wire.ReadError Json)} {turn : Turn}
    (h : turn ∈ streamTurns files run reads) : ∃ entries, turn.files = files entries := by
  induction reads generalizing run with
  | nil => cases h
  | cons inbound rest ih =>
    rcases List.mem_cons.1 h with rfl | h
    · exact ⟨_, rfl⟩
    · exact ih h

end Run

theorem read_wellFormed {bytes rest : List UInt8} {message : Json}
    (h : Wire.read bytes = (.ok message, rest)) : message.wellFormed = true := by
  unfold Wire.read at h
  split at h
  · cases h
  · cases h
  · split at h
    · cases h
    · obtain ⟨hbody, -⟩ := Prod.mk.inj h
      unfold Wire.parseBody at hbody
      split at hbody
      · cases hbody
      · rename_i v hv
        cases hbody
        obtain ⟨text, -, hparse⟩ := Option.bind_eq_some_iff.1 hv
        exact Json.parse?_wellFormed hparse

/-- The messages of a stream were read from texts. -/
theorem readAll_wellFormed {bytes : List UInt8} {messages : List Json} {failure : Wire.ReadError}
    (h : Wire.readAll bytes = (messages, failure)) : ∀ m ∈ messages, m.wellFormed = true := by
  induction messages generalizing bytes with
  | nil => simp
  | cons message messages ih =>
    obtain ⟨rest, hread, hmore⟩ := Run.readAll_cons h
    exact List.forall_mem_cons.2 ⟨read_wellFormed hread, ih hmore⟩

theorem fits_streamTurns {files : List Entry → Files.View}
    (hfiles : ∀ entries, FilesFit (files entries)) (run : Run) {messages : List Json}
    (hmessages : ∀ m ∈ messages, m.wellFormed = true) (failure : Wire.ReadError) :
    ∀ turn ∈ run.streamTurns files (messages.map .ok ++ [.error failure]), turn.Fits := by
  intro turn hturn
  refine ⟨fun message hread => ?_, ?_⟩
  · have hmem := List.mem_map_of_mem (f := Turn.inbound) hturn
    rw [Run.inbound_streamTurns, hread] at hmem
    simp only [List.mem_append, List.mem_map, Except.ok.injEq, exists_eq_right, List.mem_singleton,
      reduceCtorEq, or_false] at hmem
    exact hmessages message hmem
  · obtain ⟨entries, hentries⟩ := Run.files_streamTurns hturn
    rw [hentries]
    exact hfiles entries

/-! ## Reading back -/

/-- What was written is longer than the counters have moved. -/
theorem length_objects_ge (entries : List Entry) :
    3 * (attempted entries).length + ((attempted entries).flatMap Message.shown).length ≤
      ((objects entries).flatMap Wire.frame).length := by
  induction entries with
  | nil => simp [attempted]
  | cons e entries ih =>
    cases e with
    | received | traceOn => exact ih
    | sent seq m delivered =>
      have hframe := length_frame_ge seq m
      show 3 * (m :: attempted entries).length +
          ((m :: attempted entries).flatMap Message.shown).length ≤
        ((m.toJson seq :: objects entries).flatMap Wire.frame).length
      simp only [List.length_cons, List.flatMap_cons, List.length_append]
      omega

theorem exists_sent_of_mem_objects {entries : List Entry} {v : Json} (h : v ∈ objects entries) :
    ∃ seq m, seq ∈ numbers entries ∧ m ∈ attempted entries ∧ v = m.toJson seq := by
  obtain ⟨e, he, hv⟩ := List.mem_filterMap.1 h
  cases e with
  | received | traceOn => cases hv
  | sent seq m delivered =>
    cases hv
    exact ⟨seq, m, List.mem_filterMap.2 ⟨_, he, rfl⟩, List.mem_filterMap.2 ⟨_, he, rfl⟩, rfl⟩

theorem length_encode_le_of_mem {list : List Json} {v : Json} (h : v ∈ list) :
    (Text.encode v.render).length ≤ (list.flatMap Wire.frame).length := by
  obtain ⟨early, late, rfl⟩ := List.append_of_mem h
  simp only [List.flatMap_append, List.flatMap_cons, List.length_append, Wire.frame, Wire.frameBody]
  omega

/-- **All that a run wrote can be read back**, if it fits into memory. -/
theorem sendable_of_bounded {run : Run} (hbounded : run.Bounded) (hnumbered : run.Numbered)
    (fits : ((objects run.entries).flatMap Wire.frame).length < memoryLimit) :
    ∀ v ∈ objects run.entries, Wire.Sendable v := by
  intro v hv
  have hsize := length_objects_ge run.entries
  have hbody := length_encode_le_of_mem hv
  obtain ⟨seq, m, hseq, hm, rfl⟩ := exists_sent_of_mem_objects hv
  obtain ⟨n, -, hnumbers⟩ := hnumbered
  have hcount : n = (attempted run.entries).length := by
    rw [← length_numbers, hnumbers, List.length_range']
  have hle : seq ≤ n := by
    rw [hnumbers, List.mem_range'_1] at hseq
    omega
  have hhandles := hbounded.handles
  have hids := hbounded.ids
  unfold memoryLimit at fits
  refine ⟨readable_toJson (hbounded.within m hm) ?_ ?_ ?_, ?_⟩
  · omega
  · omega
  · omega
  · unfold Wire.maxLength
    omega

/-- **What a channel has carried is read back** from its output. -/
theorem Carries.read_back {channel last : Channel} {run : Run}
    (hcarries : Carries channel run.entries last) (hfresh : channel.output = [])
    (sendable : ∀ v ∈ objects run.entries, Wire.Sendable v) (goOn : Bool) {reader : Channel}
    (wired : reader.input = last.output) :
    (Channel.readMany goOn ((objects run.entries).length + 1) reader).1 =
      (objects run.entries).map .ok ++ [.error .closed] := by
  rw [hcarries.output_eq, hfresh, List.nil_append] at wired
  obtain ⟨rest, hread, -⟩ := Channel.readMany_frames goOn sendable wired
  rw [hread]

/-- **What a session writes is well formed and numbered.** Let a session read any bytes over a
channel, with or without a log and with tracing on or off at first, and let what it logs change the
files in any way. If every file, and all that is written, fits into memory, the session comes to an
end, and whoever has the written bytes ahead reads the objects that were written and then finds the
stream closed; they are numbered from one, and each is a response or an event. Over any transport,
whatever messages and events of the tab server come in and whatever writes fail, the objects that
the session tries to write are numbered from one. -/
theorem written_numbered (link : Link) :
    (∀ (files : List Entry → Files.View) (bytes : List UInt8) (trace : Bool)
        (log : Option (List Char)),
      let ended := runStream link files bytes
      (∀ entries, FilesFit (files entries)) →
        (Wire.outputBytes (ended.1.entries.map Entry.traffic)).length < memoryLimit →
          ended.2 ≠ .goOn ∧ WellNumbered (objects ended.1.entries) ∧
            ∃ last, Carries { input := bytes, trace, log } ended.1.entries last ∧
              last.output = Wire.outputBytes (ended.1.entries.map Entry.traffic) ∧
              ∀ (goOn : Bool) (reader : Channel), reader.input = last.output →
                (Channel.readMany goOn ((objects ended.1.entries).length + 1) reader).1 =
                  (objects ended.1.entries).map .ok ++ [.error .closed]) ∧
      (∀ (queue : List Link.Event) (faults : Faults) (turns : List Turn),
        WellNumbered
          (objects (Run.serveAll faults { Run.start link with queue } turns).1.entries)) ∧
      Wire.ReadError.message .closed = "DAP connection closed" := by
  refine ⟨?_, fun queue faults turns => Run.wellNumbered_serveAll link queue faults turns, rfl⟩
  intro files bytes trace log ended hfiles fits
  obtain ⟨⟨messages, failure⟩, hread⟩ : ∃ result, Wire.readAll bytes = result := ⟨_, rfl⟩
  let turns := (Run.start link).streamTurns files (messages.map .ok ++ [.error failure])
  have hrun : ended = (Run.start link).serveAll Faults.none turns := by
    show runStream link files bytes = _
    rw [runStream, hread]
    exact Run.serveReads_eq files (.start link) _
  have hnumbered : ended.1.Numbered := by
    rw [hrun]
    exact Run.numbered_serveAll (Run.numbered_start link []) Faults.none turns
  have hbounded : ended.1.Bounded := by
    rw [hrun]
    exact Run.bounded_serveAll (Run.bounded_start link [])
      (fits_streamTurns hfiles (.start link) (readAll_wellFormed hread) failure)
  have hcarried : ended.2 ≠ .goOn ∧
      ∃ last, Advances { input := bytes, trace, log } (Run.start link) ended.1 last := by
    rw [hrun]
    exact Run.carries_serveAll hread (Run.start link)
      (Run.inbound_streamTurns files (.start link) _)
  obtain ⟨hends, last, more, hmore, hcarries⟩ := hcarried
  have hentries : ended.1.entries = more := hmore
  rw [← hentries] at hcarries
  have hwritten := outputBytes_traffic ended.1.entries
  have sendable := sendable_of_bounded hbounded hnumbered (hwritten ▸ fits)
  refine ⟨hends, hnumbered.wellNumbered, last, hcarries, ?_, ?_⟩
  · rw [hcarries.output_eq, hwritten, List.nil_append]
  · intro goOn reader wired
    exact hcarries.read_back rfl sendable goOn wired

/-- A program of odd words is launched and runs off its end, a command of odd characters is refused,
and then the stream breaks off within a message. -/
theorem odd_stream_numbered :
    let files : Files.View :=
      { read := fun path =>
          if path = "p.tab" then .ok (Text.encode "\"é\\ 😀".toList) else .error .notFound
        canonical := fun _ => none }
    let launch : Json := .obj
      [("arguments", .obj [("program", .str "p.tab")]), ("command", .str "launch"),
       ("seq", .int 7), ("type", .str "request")]
    let odd : Json := .obj
      [("command", .str "\r\n\x01\"é"), ("seq", .int 7), ("type", .str "request")]
    let bytes := Wire.frame launch ++ Wire.frame odd ++
      Text.encode "Content-Length: 5\r\n\r\n\x7b".toList
    ∃ ended, runStream .absent (fun _ => files) bytes = ended ∧ FilesFit files ∧
      (Wire.outputBytes (ended.1.entries.map Entry.traffic)).length < memoryLimit ∧
      (objects ended.1.entries).length = 3 ∧ WellNumbered (objects ended.1.entries) ∧
      ∃ last, Carries { input := bytes, trace := true } ended.1.entries last ∧
        (Channel.readMany false 4 { input := last.output }).1 =
          (objects ended.1.entries).map .ok ++ [.error .closed] := by
  intro files launch odd bytes
  have hfiles : FilesFit files := by
    intro path content hread
    by_cases hpath : path = "p.tab"
    · simp only [files, hpath, if_true, Except.ok.injEq] at hread
      rw [← hread]
      decide +kernel
    · simp [files, hpath] at hread
  have hnumbered := (written_numbered .absent).1 (fun _ => files) bytes true none fun _ => hfiles
  obtain ⟨ended, hended⟩ : ∃ ended, runStream .absent (fun _ => files) bytes = ended := ⟨_, rfl⟩
  obtain ⟨fits, hcount⟩ :
      (Wire.outputBytes (ended.1.entries.map Entry.traffic)).length < memoryLimit ∧
        (objects ended.1.entries).length = 3 := by
    rw [← hended]
    decide +kernel
  rw [hended] at hnumbered
  obtain ⟨-, hnumbers, last, hcarries, -, hread⟩ := hnumbered fits
  have hback := hread false { input := last.output } rfl
  rw [hcount] at hback
  exact ⟨ended, hended, hfiles, fits, hcount, hnumbers, last, hcarries, hback⟩

end TabTools.Debug
