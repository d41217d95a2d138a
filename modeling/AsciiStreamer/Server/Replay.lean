import AsciiStreamer.Server.Order
import AsciiStreamer.Server.PlaybackSession
import AsciiStreamer.Stream.Replay

/-!
# What is streamed, recorded and played back

The capture loop passes each frame that it converts to the recorder before it broadcasts it. So the
frames of a recording are an unbroken excerpt of the film of the server, and a session that plays the
recording back is sent that excerpt from its beginning, frame by frame, whatever streams, recordings
and playbacks of other sessions come in between (`replay_is_recording`). `Replay` keeps, along a run,
the film, the journal of the recordings and what has been sent since the last `start_playback`.
-/

namespace AsciiStreamer

open Cxx

/-! ## What is kept along a run -/

/-- What a request of a message records. -/
def Journal.request (P : Platform) (clock : Clock) (j : Journal) : Request → Journal
  | .startRecording =>
    if clock.fileOpens then j.step (P := P) (.startRecording clock.localTime clock.now) else j
  | .stopRecording => j.step (P := P) (.stopRecording clock.now)
  | _ => j

section After

variable {P : Platform}

/-- The journal after a step. -/
def Server.journalAfter (api : Api) (s : Server) (j : Journal) : ServerEvent P → Journal
  | .session id e clock => match (s.sessions id).step P api e with
    | some (_, rs) => rs.foldl (Journal.request P clock) j
    | none => j
  | .loop i (.frame frame now) =>
    if s.stream.loops[i]? = some .sleeping then j.step (.frameConverted frame now) else j
  | _ => j

/-- The frames converted so far, after a step. -/
def Server.filmAfter (s : Server) (film : List Bytes) : ServerEvent P → List Bytes
  | .loop i capture => film ++ (s.converts i capture).toList
  | _ => film

/-- The recording that is played, and to whom, after a segment of a method. A file that is none of the
recordings may hold anything. -/
def Pc.replays (c : StreamController) (content : Option Bytes) (done : List Recording)
    (playing : Option (SessionId × Recording)) : Pc → Option (SessionId × Recording)
  | .stoppingPlayback filename session =>
    if c.loads filename content then
      (done.find? fun r => r.name == lit "recordings/" ++ filename).map fun r => (session, r)
    else none
  | .dispatch .stopPlayback => none
  | _ => playing

/-- The segments of methods that end a playback. -/
def Pc.endsPlayback : Pc → Bool
  | .stoppingPlayback .. => true
  | .dispatch .stopPlayback => true
  | _ => false

end After

def Server.recorder (s : Server) : Recorder := s.stream.controller.recorder

structure Replay where
  journal : Journal := {}
  film : List Bytes := []
  playing : Option (SessionId × Recording) := none
  sent : List (SessionId × Message) := []

def Replay.step {P : Platform} (api : Api) (s : Server) (e : ServerEvent P) (_ : Server)
    (replay : Replay) : Replay :=
  let replay := { replay with
    journal := s.journalAfter api replay.journal e
    film := s.filmAfter replay.film e }
  match e with
  | .segment i camera content => match s.stream.tasks[i]? with
    | some t =>
      let sends := (t.pc.run P s.stream.controller ⟨camera, content, s.alive⟩).sends
      { replay with
        playing := t.pc.replays s.stream.controller content replay.journal.completed replay.playing
        sent := if t.pc.endsPlayback then sends else replay.sent ++ sends }
    | none => replay
  | .playbackHandler k => match s.stream.controller.playbackController.playbackTimer.queued[k]? with
    | some c =>
      let o := s.stream.controller.playbackController.handler P k c
      { replay with sent := replay.sent ++ (s.stream.controller.played o).sends }
    | none => replay
  | _ => replay

/-- The film, the journal and the playback of a run. -/
def replayOf (P : Platform) (api : Api) (es : List (ServerEvent P)) : Replay :=
  (server P api).record (Replay.step api) {} es {}

/-- A playback that opens a file which the recorder has written and closed reads what has been written.
It need not find the file. -/
def ReadsDisk {P : Platform} (s : Server) : ServerEvent P → Prop
  | .segment i _ content => ∀ t filename session text read, s.stream.tasks[i]? = some t →
      t.pc = .stoppingPlayback filename session → content = some read →
      s.stream.controller.recorder.disk (lit "recordings/" ++ filename) = some text →
      (s.stream.controller.recorder.controller.isRecording = true →
        s.stream.controller.recorder.controller.recordFile ≠
          some (lit "recordings/" ++ filename)) →
      read = text
  | _ => True

/-! ## The recordings are excerpts of the film -/

/-- What is recorded is the film since the recording began, and up to its end. -/
structure Excerpts (j : Journal) (film : List Bytes) : Prop where
  active : ∀ r, j.active = some r → r.frames <:+ film
  completed : ∀ r ∈ j.completed, r.frames <:+: film

section Excerpts

variable {P : Platform} {j : Journal} {film : List Bytes}

theorem Excerpts.startRecording (h : Excerpts j film) (t : Tm) (now : Instant) :
    Excerpts (j.step (P := P) (.startRecording t now)) film := by
  simp only [Journal.step]
  split
  · exact h
  · refine ⟨fun r hr => ?_, h.completed⟩
    cases hr
    exact List.nil_suffix

theorem Excerpts.stopRecording (h : Excerpts j film) (now : Instant) :
    Excerpts (j.step (P := P) (.stopRecording now)) film := by
  simp only [Journal.step]
  split
  · next r hr =>
    refine ⟨fun r' hr' => ?_, fun r' hr' => ?_⟩
    · cases hr'
    · rcases List.mem_append.1 hr' with hr' | hr'
      · exact h.completed r' hr'
      · rw [List.mem_singleton.1 hr']
        exact (h.active r hr).isInfix
  · exact h

theorem Excerpts.request (h : Excerpts j film) (clock : Clock) (r : Request) :
    Excerpts (j.request P clock r) film := by
  cases r with
  | startRecording =>
    simp only [Journal.request]
    split
    · exact h.startRecording (P := P) clock.localTime clock.now
    · exact h
  | stopRecording => exact h.stopRecording (P := P) clock.now
  | addViewer => exact h
  | call c => exact h

theorem Excerpts.requests (clock : Clock) (rs : List Request) :
    ∀ {j : Journal}, Excerpts j film → Excerpts (rs.foldl (Journal.request P clock) j) film := by
  induction rs with
  | nil => exact fun h => h
  | cons r rs ih => exact fun h => ih (h.request clock r)

/-- A frame is recorded as it is converted. -/
theorem Excerpts.frameConverted (h : Excerpts j film) (frame : Str P) (now : Instant) :
    Excerpts (j.step (.frameConverted frame now)) (film ++ [frame.bytes]) := by
  have hcompleted : ∀ r ∈ j.completed, r.frames <:+: film ++ [frame.bytes] :=
    fun r hr => (h.completed r hr).trans (List.prefix_append _ _).isInfix
  simp only [Journal.step]
  split
  · next r hr =>
    refine ⟨fun r' hr' => ?_, hcompleted⟩
    cases hr'
    obtain ⟨before, hbefore⟩ := h.active r hr
    exact ⟨before, by rw [← hbefore, List.append_assoc]⟩
  · next hnone =>
    refine ⟨fun r hr => ?_, hcompleted⟩
    cases hnone.symm.trans hr

/-- **What a step does to the film and its excerpts.** -/
theorem Excerpts.after (h : Excerpts j film) (api : Api) (s : Server) (e : ServerEvent P) :
    Excerpts (s.journalAfter api j e) (s.filmAfter film e) := by
  cases e with
  | session id e clock =>
    simp only [Server.journalAfter, Server.filmAfter]
    split
    · exact h.requests clock _
    · exact h
  | loop i capture =>
    cases capture with
    | frame frame now =>
      simp only [Server.journalAfter, Server.filmAfter, Server.converts]
      split
      · exact h.frameConverted frame now
      · rw [Option.toList_none, List.append_nil]
        exact h
    | throws e =>
      simp only [Server.journalAfter, Server.filmAfter, Server.converts, Option.toList_none,
        List.append_nil]
      exact h
    | empty =>
      simp only [Server.journalAfter, Server.filmAfter, Server.converts, Option.toList_none,
        List.append_nil]
      exact h
  | _ => exact h

end Excerpts

/-! ## The recorder writes the journal -/

section Recorder

variable {P : Platform} {api : Api} {s s' : Server} {e : ServerEvent P} {j : Journal}

theorem completed_step (j : Journal) (e : RecordEvent P) :
    j.completed <+: (j.step e).completed := by
  cases e with
  | startRecording t now => simp only [Journal.step]; split <;> exact List.prefix_refl _
  | stopRecording now =>
    simp only [Journal.step]
    split
    · exact List.prefix_append _ _
    · exact List.prefix_refl _
  | frameConverted frame now => simp only [Journal.step]; split <;> exact List.prefix_refl _

/-- A journal only grows. -/
structure Journal.Extends (j j' : Journal) : Prop where
  opened : j.opened <+: j'.opened
  completed : j.completed <+: j'.completed

theorem Journal.Extends.refl (j : Journal) : j.Extends j := ⟨List.prefix_refl _, List.prefix_refl _⟩

theorem Journal.Extends.trans {j j' j'' : Journal} (h : j.Extends j') (h' : j'.Extends j'') :
    j.Extends j'' := ⟨h.opened.trans h'.opened, h.completed.trans h'.completed⟩

theorem extends_step (j : Journal) (e : RecordEvent P) : j.Extends (j.step e) :=
  ⟨opened_step j e, completed_step j e⟩

theorem extends_request (clock : Clock) (j : Journal) (r : Request) :
    j.Extends (j.request P clock r) := by
  cases r with
  | startRecording =>
    simp only [Journal.request]
    split
    · exact extends_step (P := P) j (.startRecording clock.localTime clock.now)
    · exact .refl j
  | stopRecording => exact extends_step (P := P) j (.stopRecording clock.now)
  | addViewer => exact .refl j
  | call c => exact .refl j

theorem extends_requests (clock : Clock) (rs : List Request) :
    ∀ j : Journal, j.Extends (rs.foldl (Journal.request P clock) j) := by
  induction rs with
  | nil => exact .refl
  | cons r rs ih => exact fun j => (extends_request clock j r).trans (ih _)

theorem extends_after (api : Api) (s : Server) (j : Journal) (e : ServerEvent P) :
    j.Extends (s.journalAfter api j e) := by
  cases e with
  | session id e clock =>
    simp only [Server.journalAfter]
    split
    · exact extends_requests clock _ j
    · exact .refl j
  | loop i capture =>
    cases capture with
    | frame frame now =>
      simp only [Server.journalAfter]
      split
      · exact extends_step j _
      · exact .refl j
    | throws e => exact .refl j
    | empty => exact .refl j
  | _ => exact .refl j

theorem startRecording_recorder (c : StreamController) (t : Tm) (now : Instant) :
    (c.startRecording t now true).recorder = c.recorder.step (P := P) (.startRecording t now) := by
  unfold StreamController.startRecording
  cases hrec : c.recorder.controller.isRecording with
  | true => simp only [Recorder.step, RecordController.startRecording, hrec, ↓reduceIte]
  | false => rfl

theorem stopRecording_recorder (c : StreamController) (now : Instant) :
    (c.stopRecording now).recorder = c.recorder.step (P := P) (.stopRecording now) := by
  unfold StreamController.stopRecording
  cases hrec : c.recorder.controller.isRecording with
  | true => rfl
  | false =>
    simp only [Recorder.step, RecordController.stopRecording, hrec, Bool.false_eq_true, ↓reduceIte]

/-- A recording whose file cannot be opened is none. -/
theorem Tracks.fails {c : StreamController} (h : Tracks P c.recorder j) (t : Tm) (now : Instant) :
    Tracks P (c.startRecording t now false).recorder j := by
  unfold StreamController.startRecording
  cases hrec : c.recorder.controller.isRecording with
  | true => exact h
  | false =>
    simp only [RecordController.startRecording, hrec, Bool.false_eq_true, ↓reduceIte]
    refine ⟨hrec.symm.trans h.isRecording, fun r hr => ?_, h.completed, h.opened⟩
    rw [h.isRecording, hr] at hrec
    cases hrec

/-- A message asks for one thing at most. -/
theorem step_requests {σ σ' : Session} {e : SessionEvent} {rs : List Request}
    (h : σ.step P api e = some (σ', rs)) : rs = [] ∨ ∃ r, rs = [r] := by
  cases sessionStep_of_step h with
  | message text isStreaming =>
    cases messageStep_handleMessage P api σ text isStreaming with
    | failed err decoded self requests => exact Or.inl requests
    | rejected apiKey role decoded wrong self requests => exact Or.inl requests
    | granted role decoded self requests => exact Or.inr ⟨_, requests⟩
    | awaits c call reply decoded awaited self requests => exact Or.inr ⟨_, requests⟩
    | replied c decoded other awaited self requests =>
      rcases c.requests_cases with hnone | ⟨-, hone⟩ | ⟨-, hone⟩
      · exact Or.inl (requests.trans hnone)
      · exact Or.inr ⟨_, requests.trans hone⟩
      · exact Or.inr ⟨_, requests.trans hone⟩
  | _ => exact Or.inl rfl

/-- What a segment of a capture loop records. -/
theorem captureLoop_recorder {c c' : StreamController} {capture : Capture P}
    {alive : SessionId → Bool} {pc : LoopPc} {next : Option LoopPc}
    {sends : List (SessionId × Message)}
    (h : c.captureLoop P capture alive pc = some (c', next, sends)) :
    c'.recorder = match pc, capture with
      | .sleeping, .frame frame now => c.recorder.step (.frameConverted frame now)
      | _, _ => c.recorder := by
  cases pc with
  | spawned =>
    obtain ⟨⟨c₁, n₁⟩, htest, heq⟩ := Option.map_eq_some_iff.1 h
    cases heq
    exact (loopTest_rest htest).recorder
  | sleeping =>
    cases capture with
    | throws e =>
      cases h
      rfl
    | empty =>
      obtain ⟨⟨c₁, n₁⟩, htest, heq⟩ := Option.map_eq_some_iff.1 h
      cases heq
      exact (loopTest_rest htest).recorder
    | frame frame now =>
      cases h
      rfl
  | broadcasting frame =>
    obtain ⟨⟨c₁, n₁⟩, htest, heq⟩ := Option.map_eq_some_iff.1 h
    cases heq
    exact (loopTest_rest htest).recorder

/-- What a step of the server does to the recorder, and to the journal. -/
inductive RecorderStep (api : Api) (s : Server) (e : ServerEvent P) (s' : Server) : Prop
  | same (recorder : s'.recorder = s.recorder) (journal : ∀ j, s.journalAfter api j e = j)
  | fails (t : Tm) (now : Instant)
      (recorder : s'.recorder = (s.stream.controller.startRecording t now false).recorder)
      (journal : ∀ j, s.journalAfter api j e = j)
  | starts (id : SessionId) (ev : SessionEvent) (clock : Clock) (event : e = .session id ev clock)
      (opens : clock.fileOpens = true)
      (recorder : s'.recorder = s.recorder.step (P := P) (.startRecording clock.localTime clock.now))
      (journal : ∀ j, s.journalAfter api j e =
        j.step (P := P) (.startRecording clock.localTime clock.now))
  | stops (now : Instant) (recorder : s'.recorder = s.recorder.step (P := P) (.stopRecording now))
      (journal : ∀ j, s.journalAfter api j e = j.step (P := P) (.stopRecording now))
  | converts (frame : Str P) (now : Instant)
      (recorder : s'.recorder = s.recorder.step (.frameConverted frame now))
      (journal : ∀ j, s.journalAfter api j e = j.step (.frameConverted frame now))

/-- What a message asks of the recorder. -/
theorem recorderStep_request {id : SessionId} {ev : SessionEvent} {clock : Clock} {σ : Session}
    {r : Request} (hstep : (s.sessions id).step P api ev = some (σ, [r])) {s' : Server}
    (hs' : s' = ((s.note id ev).setSession id σ).request id clock r) :
    RecorderStep api s (.session id ev clock : ServerEvent P) s' := by
  have hstream : ((s.note id ev).setSession id σ).stream = s.stream := by
    rw [Server.setSession_stream, Server.note_stream]
  have hjournal : ∀ j, s.journalAfter api j (.session id ev clock : ServerEvent P) =
      j.request P clock r := by
    intro j
    simp only [Server.journalAfter, hstep, List.foldl_cons, List.foldl_nil]
  have hbefore : ((s.note id ev).setSession id σ).recorder = s.recorder :=
    congrArg (fun stream : StreamSystem => stream.controller.recorder) hstream
  cases r with
  | addViewer =>
    refine .same ?_ hjournal
    rw [hs']
    exact hbefore
  | call c =>
    refine .same ?_ hjournal
    rw [hs']
    change (Server.invoke _ (.handler id) c).recorder = _
    rw [Server.recorder, Server.invoke_stream]
    exact hbefore
  | startRecording =>
    have hrecorder : s'.recorder = (s.stream.controller.startRecording clock.localTime clock.now
        clock.fileOpens).recorder := by
      rw [hs', ← hstream]
      rfl
    cases hopens : clock.fileOpens with
    | true =>
      rw [hopens, startRecording_recorder (P := P)] at hrecorder
      refine .starts id ev clock rfl hopens hrecorder fun j => (hjournal j).trans ?_
      simp only [Journal.request, hopens, ↓reduceIte]
    | false =>
      rw [hopens] at hrecorder
      refine .fails clock.localTime clock.now hrecorder fun j => (hjournal j).trans ?_
      simp only [Journal.request, hopens, Bool.false_eq_true, ↓reduceIte]
  | stopRecording =>
    have hrecorder : s'.recorder = (s.stream.controller.stopRecording clock.now).recorder := by
      rw [hs', ← hstream]
      rfl
    exact .stops clock.now (hrecorder.trans (stopRecording_recorder _ _)) hjournal

theorem recorderStep (hs : (server P api).step s e = some s') : RecorderStep api s e s' := by
  cases serverStep_of_step hs with
  | connect => exact .same rfl fun _ => rfl
  | session id e clock σ rs _ hstep =>
    rcases step_requests hstep with rfl | ⟨r, rfl⟩
    · refine .same ?_ fun j => by simp only [Server.journalAfter, hstep, List.foldl_nil]
      change ((s.note id e).setSession id σ).recorder = _
      rw [Server.recorder, Server.setSession_stream, Server.note_stream]
      rfl
    · exact recorderStep_request hstep rfl
  | segment i camera content _ hseg =>
    obtain ⟨t, g, hsegment⟩ := Server.methodSegment_stream hseg
    obtain ⟨-, rfl, hstream⟩ := segment_eq hsegment
    refine .same ?_ fun _ => rfl
    rw [Server.recorder, hstream]
    exact Pc.run_recorder P _ _ _
  | loop i capture stream sends hloop =>
    obtain ⟨pc, c, next, hi, hc, rfl⟩ := loop_eq hloop
    have hrecorder : ((s.setStream { s.stream with
        controller := c, loops := proceed s.stream.loops i next }).sendAll sends).recorder =
          c.recorder := by rw [Server.recorder, Server.sendAll_stream]; rfl
    have hrecords := captureLoop_recorder hc
    have hno : (∀ frame now, pc = .sleeping → capture ≠ .frame frame now) →
        ∀ j, s.journalAfter api j (.loop i capture) = j := by
      intro hother j
      cases capture with
      | frame frame now =>
        refine if_neg fun hsleeping => hother frame now ?_ rfl
        exact Option.some.inj (hi.symm.trans hsleeping)
      | throws e => rfl
      | empty => rfl
    cases pc with
    | sleeping =>
      cases capture with
      | frame frame now =>
        refine .converts frame now (hrecorder.trans hrecords) fun j => ?_
        simp only [Server.journalAfter, hi, ↓reduceIte]
      | throws e => exact .same (hrecorder.trans hrecords) fun _ => rfl
      | empty => exact .same (hrecorder.trans hrecords) fun _ => rfl
    | spawned => exact .same (hrecorder.trans hrecords) (hno nofun)
    | broadcasting frame => exact .same (hrecorder.trans hrecords) (hno nofun)
  | runAddViewer stream hadd =>
    obtain ⟨v, vs, -, rfl⟩ := runAddViewer_eq hadd
    exact .same rfl fun _ => rfl
  | playbackExpire stream hexp =>
    obtain ⟨p, rfl⟩ := playbackExpire_eq hexp
    exact .same rfl fun _ => rfl
  | playbackHandler k stream sends hk =>
    obtain ⟨o, rfl, -⟩ := playbackHandler_eq hk
    refine .same ?_ fun _ => rfl
    rw [Server.recorder, Server.sendAll_stream]
    rfl
  | destroy id =>
    obtain ⟨tasks, -, hstream⟩ := Server.destroy_tasks s id
    refine .same ?_ fun _ => rfl
    rw [Server.recorder, hstream]
    rfl

/-- **The recorder writes the journal** in every step of the server. -/
theorem Tracks.after (h : Tracks P s.recorder j) (hs : (server P api).step s e = some s')
    (hown : (s.journalAfter api j e).opened.Nodup) : Tracks P s'.recorder (s.journalAfter api j e) := by
  cases recorderStep hs with
  | same recorder journal =>
    rw [recorder, journal]
    exact h
  | fails t now recorder journal =>
    rw [recorder, journal]
    exact Tracks.fails h t now
  | starts id ev clock event opens recorder journal =>
    rw [journal] at hown ⊢
    exact recorder ▸ h.step _ hown
  | stops now recorder journal =>
    rw [journal] at hown ⊢
    exact recorder ▸ h.step _ hown
  | converts frame now recorder journal =>
    rw [journal] at hown ⊢
    exact recorder ▸ h.step _ hown

theorem startRecording_disk (c : StreamController) (t : Tm) (now : Instant) :
    (c.startRecording t now false).recorder.disk = c.recorder.disk := by
  unfold StreamController.startRecording
  cases hrec : c.recorder.controller.isRecording with
  | true => rfl
  | false =>
    simp only [RecordController.startRecording, hrec, Bool.false_eq_true, ↓reduceIte]

/-- And it writes nothing else. -/
theorem Tracks.disk_after (h : Tracks P s.recorder j) (hs : (server P api).step s e = some s')
    {path : Bytes} (hpath : path ∉ (s.journalAfter api j e).opened) :
    s'.recorder.disk path = s.recorder.disk path := by
  cases recorderStep hs with
  | same recorder journal => rw [recorder]
  | fails t now recorder journal =>
    rw [recorder, startRecording_disk]
    rfl
  | starts id ev clock event opens recorder journal =>
    rw [recorder]
    exact h.disk_step _ (journal j ▸ hpath)
  | stops now recorder journal =>
    rw [recorder]
    exact h.disk_step _ (journal j ▸ hpath)
  | converts frame now recorder journal =>
    rw [recorder]
    exact h.disk_step _ (journal j ▸ hpath)

end Recorder

/-! ## The playback -/

/-- What is known of a run: the excerpts of its film and, as long as every recording has its own file,
what is on the disk and what has been shown of it. -/
structure Replayed (P : Platform) (s : Server) (replay : Replay) : Prop where
  excerpts : Excerpts replay.journal replay.film
  tracks : replay.journal.opened.Nodup → Tracks P s.stream.controller.recorder replay.journal
  shows : replay.journal.opened.Nodup → ∀ id r, replay.playing = some (id, r) →
    r ∈ replay.journal.completed ∧ ∃ shown, replay.sent = shownTo id shown ∧
      PlaysBack P s.stream.controller id r shown

section Playback

variable {P : Platform} {api : Api} {s s' : Server} {e : ServerEvent P} {replay : Replay}

theorem Replayed.init : Replayed P {} {} := ⟨⟨nofun, nofun⟩, fun _ => tracks_disk _, nofun⟩

/-- The film and the recordings go on, whatever becomes of the playback. -/
theorem Replayed.after (h : Replayed P s replay) (hs : (server P api).step s e = some s')
    {playing : Option (SessionId × Recording)} {sent : List (SessionId × Message)}
    (hshows : replay.journal.opened.Nodup → ∀ id r, playing = some (id, r) →
      r ∈ replay.journal.completed ∧ ∃ shown, sent = shownTo id shown ∧
        PlaysBack P s'.stream.controller id r shown) :
    Replayed P s'
      { journal := s.journalAfter api replay.journal e
        film := s.filmAfter replay.film e
        playing := playing
        sent := sent } := by
  have hext := extends_after api s replay.journal e
  refine ⟨h.excerpts.after api s e, fun hown => ?_, fun hown id r hplaying => ?_⟩
  · exact (h.tracks (hown.sublist hext.opened.sublist)).after hs hown
  · obtain ⟨hr, hshown⟩ := hshows (hown.sublist hext.opened.sublist) id r hplaying
    exact ⟨hext.completed.subset hr, hshown⟩

/-- A step that leaves the player alone. -/
theorem Replayed.of_same (h : Replayed P s replay) (hs : (server P api).step s e = some s')
    (hsame : KeepsPlayback s.stream.controller s'.stream.controller) :
    Replayed P s'
      { replay with
        journal := s.journalAfter api replay.journal e
        film := s.filmAfter replay.film e } := by
  refine h.after hs fun hown id r hplaying => ?_
  obtain ⟨hr, shown, hsent, hshows⟩ := h.shows hown id r hplaying
  exact ⟨hr, shown, hsent, hshows.of_same hsame⟩

/-- A segment of a method that leaves the playback to its session. -/
theorem PlaysBack.segment {c : StreamController} {id : SessionId} {r : Recording} {shown : List Bytes}
    (h : PlaysBack P c id r shown) (env : Env) {pc : Pc} (hpc : pc.endsPlayback = false) :
    ∃ more, (pc.run P c env).sends = shownTo id more ∧
      PlaysBack P (pc.run P c env).self id r (shown ++ more) := by
  have silent : ∀ {sends : List (SessionId × Message)} {c' : StreamController}, sends = [] →
      PlaysBack P c' id r shown → ∃ more, sends = shownTo id more ∧ PlaysBack P c' id r (shown ++ more) := by
    rintro sends c' rfl hshows
    exact ⟨[], rfl, by rwa [List.append_nil]⟩
  cases pc with
  | dispatch call =>
    cases call with
    | startStreaming cameraIndex resolution fps =>
      refine silent (startStreaming_sends c cameraIndex resolution fps env.camera) ?_
      exact h.of_same (startStreaming_rest c cameraIndex resolution fps env.camera).playback
    | stopStreaming =>
      exact silent (stopStreaming_sends c) (h.of_same (stopStreaming_rest c).playback)
    | removeViewerById id => exact silent rfl (h.of_same ⟨rfl, rfl⟩)
    | startPlayback filename session => exact silent rfl h
    | pausePlayback => exact silent rfl h.pausePlayback
    | resumePlayback => exact ⟨_, h.resumePlayback⟩
    | stopPlayback => cases hpc
    | setPlaybackSpeed speed =>
      exact silent rfl (h.of_player (h.coherent.setPlaybackSpeed speed) rfl rfl)
  | polling =>
    refine silent (poll_sends c) (h.of_same ?_)
    simp only [Pc.run, StreamController.poll]
    split <;> exact ⟨rfl, rfl⟩
  | stoppingPlayback filename session => cases hpc

/-- Without a file there is nothing to play. -/
theorem not_loads_none (c : StreamController) (filename : Bytes) : c.loads filename none = false := by
  unfold StreamController.loads
  rcases loadRecording_cases c.stopPlayback.playbackController (lit "recordings/" ++ filename) none
    with ⟨-, p', hload⟩ | ⟨hloadable, -⟩
  · rw [hload]
  · obtain ⟨d, hd, -⟩ := hloadable.header
    cases hd

/-- A segment that ends a playback begins the next one, if it finds a completed recording. -/
theorem replays_ends {c : StreamController} {j : Journal} (htracks : Tracks P c.recorder j)
    (hown : j.opened.Nodup) {playing : Option (SessionId × Recording)} {pc : Pc}
    (hpc : pc.endsPlayback = true) (env : Env)
    (hreads : ∀ filename session text read, pc = .stoppingPlayback filename session →
      env.content = some read → c.recorder.disk (lit "recordings/" ++ filename) = some text →
      (c.recorder.controller.isRecording = true →
        c.recorder.controller.recordFile ≠ some (lit "recordings/" ++ filename)) → read = text)
    {id : SessionId} {r : Recording}
    (h : pc.replays c env.content j.completed playing = some (id, r)) :
    r ∈ j.completed ∧ ∃ shown, (pc.run P c env).sends = shownTo id shown ∧
      PlaysBack P (pc.run P c env).self id r shown := by
  cases pc with
  | polling => cases hpc
  | dispatch call =>
    cases call with
    | stopPlayback => cases h
    | _ => cases hpc
  | stoppingPlayback filename session =>
    simp only [Pc.replays, Option.ite_none_right_eq_some, Option.map_eq_some_iff] at h
    obtain ⟨hloads, r', hfind, heq⟩ := h
    cases heq
    have hmem := List.mem_of_find?_eq_some hfind
    have hname := List.find?_some hfind
    rw [beq_iff_eq] at hname
    obtain ⟨content, hdisk, hcontent⟩ := htracks.completed r hmem
    rw [hname] at hdisk
    have hclosed : c.recorder.controller.isRecording = true →
        c.recorder.controller.recordFile ≠ some (lit "recordings/" ++ filename) := by
      intro hrec hfile
      rw [htracks.isRecording] at hrec
      obtain ⟨a, hactive⟩ := Option.isSome_iff_exists.1 hrec
      refine htracks.name_ne hown hmem hactive (hname.trans ?_)
      exact Option.some.inj (hfile.symm.trans (htracks.active a hactive).1)
    have henv : env.content = some content := by
      cases hread : env.content with
      | none =>
        rw [hread, not_loads_none] at hloads
        cases hloads
      | some read => rw [hreads filename id content read rfl hread hdisk hclosed]
    rw [henv] at hloads
    refine ⟨hmem, ?_⟩
    simp only [Pc.run, henv]
    exact startPlayback_playsBack hcontent hloads

theorem Replayed.step (h : Replayed P s replay) (hreads : ReadsDisk s e)
    (hs : (server P api).step s e = some s') : Replayed P s' (replay.step api s e s') := by
  cases serverStep_of_step hs with
  | connect => exact h.of_same hs ⟨rfl, rfl⟩
  | session id e clock σ rs => exact h.of_same hs (session_requested s id e clock σ rs).playback
  | segment i camera content _ hseg =>
    obtain ⟨t, g, hsegment⟩ := Server.methodSegment_stream hseg
    obtain ⟨ht, rfl, hstream⟩ := segment_eq hsegment
    have hself : s'.stream.controller =
        (t.pc.run P s.stream.controller ⟨camera, content, s.alive⟩).self := by rw [hstream]
    simp only [Replay.step, ht]
    refine h.after hs fun hown id r hplaying => ?_
    rw [hself]
    cases hends : t.pc.endsPlayback with
    | true =>
      rw [if_pos rfl]
      refine replays_ends (h.tracks hown) hown hends _ (fun filename session text read hpc => ?_)
        hplaying
      exact hreads t filename session text read ht hpc
    | false =>
      have hsame : replay.playing = some (id, r) := by
        rw [← hplaying]
        generalize t.pc = pc at hends
        cases pc with
        | dispatch call => cases call <;> first | rfl | cases hends
        | polling => rfl
        | stoppingPlayback filename session => cases hends
      obtain ⟨hr, shown, hsent, hshows⟩ := h.shows hown id r hsame
      obtain ⟨more, hmore, hshows'⟩ := hshows.segment ⟨camera, content, s.alive⟩ hends
      refine ⟨hr, shown ++ more, ?_, hshows'⟩
      rw [if_neg Bool.false_ne_true, hsent, hmore]
      exact List.map_append.symm
  | loop i capture stream sends hloop =>
    obtain ⟨pc, c, next, -, hc, rfl⟩ := loop_eq hloop
    refine h.of_same hs ?_
    rw [Server.sendAll_stream]
    exact captureLoop_playback hc
  | runAddViewer stream hadd =>
    obtain ⟨v, vs, -, rfl⟩ := runAddViewer_eq hadd
    exact h.of_same hs ⟨rfl, rfl⟩
  | playbackExpire stream hexp =>
    have hstream := playbackExpire_timer hexp
    subst hstream
    refine h.after hs fun hown id r hplaying => ?_
    obtain ⟨hr, shown, hsent, hshows⟩ := h.shows hown id r hplaying
    exact ⟨hr, shown, hsent, hshows.of_player hshows.coherent.expire rfl rfl⟩
  | playbackHandler k stream sends hk =>
    obtain ⟨c, hc, rfl, rfl⟩ := playbackHandler_reads hk
    simp only [Replay.step, hc]
    refine h.after hs fun hown id r hplaying => ?_
    obtain ⟨hr, shown, hsent, hshows⟩ := h.shows hown id r hplaying
    obtain ⟨hsends, hshows'⟩ := hshows.handler hc
    refine ⟨hr, shown ++ (s.stream.controller.playbackController.handler P k c).frame.toList, ?_, ?_⟩
    · rw [hsent, hsends]
      exact List.map_append.symm
    · rw [Server.sendAll_stream]
      exact hshows'
  | destroy id =>
    obtain ⟨tasks, -, hstream⟩ := Server.destroy_tasks s id
    refine h.of_same hs ?_
    rw [hstream]
    exact ⟨rfl, rfl⟩

/-- **A replay is what was streamed.** In every run of the server whose recordings have their own
files, a completed recording holds an unbroken excerpt of the film of the capture loops, and the
session that plays it back has been sent that excerpt from its beginning on, without a gap and byte for
byte; all of it, unless the player still plays. -/
theorem replay_is_recording (P : Platform) (api : Api) (es : List (ServerEvent P)) (s : Server)
    (hrun : (server P api).run {} es = some s) (hreads : (server P api).AllSteps ReadsDisk {} es)
    (hown : (replayOf P api es).journal.opened.Nodup) :
    (∀ r ∈ (replayOf P api es).journal.completed, r.frames <:+: (replayOf P api es).film) ∧
      ∀ id r, (replayOf P api es).playing = some (id, r) →
        r ∈ (replayOf P api es).journal.completed ∧
        ∃ shown, (replayOf P api es).sent = shownTo id shown ∧ shown <+: r.frames ∧
          (s.stream.controller.playbackController.isPlaying = false → shown = r.frames) := by
  have h : Replayed P s (replayOf P api es) :=
    Machine.record_invariant (fun hi hC hs => hi.step hC hs) .init hreads hrun
  refine ⟨h.excerpts.completed, fun id r hplaying => ?_⟩
  obtain ⟨hr, shown, hsent, hshows⟩ := h.shows hown id r hplaying
  exact ⟨hr, shown, hsent, hshows.isPrefix, hshows.finished⟩

end Playback

/-! ### A stream that is recorded and played back -/

/-- A parser that also knows the messages of a recording. -/
def studioApi : Api where
  apiKey := lit "key"
  parse text :=
    if text = lit "record" then .ok (.object [(lit "type", .string (lit "record_start"))])
    else if text = lit "cut" then .ok (.object [(lit "type", .string (lit "record_stop"))])
    else playerApi.parse text

/-- The second of three frames is recorded. -/
def recorded : List (ServerEvent x86_64) :=
  joins 1 ++ [tells 1 "controller", .runAddViewer, tells 1 "config", .segment 0 .working none,
    .loop 0 .empty, .loop 0 (.frame ⟨lit "one", by decide⟩ 0), .loop 0 .empty,
    tells 1 "record" true, .loop 0 (.frame sampleFrame 5000000), .loop 0 .empty,
    tells 1 "cut" true, .loop 0 (.frame ⟨lit "three", by decide⟩ 0)]

/-- Another session plays it back. -/
def playedBack : List (ServerEvent x86_64) :=
  joins 2 ++ [tells 2 "play ascii_stream_20250301_120000.asr" true, .segment 0 .working none,
    .segment 0 .working (some (recordingText noon [(5, lit "frame")] 0))]

/-- The test of what a `start_playback` reads. -/
def readsDisk (s : Server) : ServerEvent x86_64 → Bool
  | .segment i _ content => match s.stream.tasks[i]? with
    | some ⟨_, .stoppingPlayback filename _⟩ =>
      content == s.stream.controller.recorder.disk (lit "recordings/" ++ filename)
    | _ => true
  | _ => true

theorem readsDisk_of_test (s : Server) (e : ServerEvent x86_64) (h : readsDisk s e = true) :
    ReadsDisk s e := by
  cases e with
  | segment i camera content =>
    rintro ⟨caller, pc⟩ filename session text read ht rfl rfl hdisk -
    simp only [readsDisk, ht, beq_iff_eq] at h
    exact Option.some.inj (h.trans hdisk)
  | _ => trivial

theorem replay_is_recording_playedBack : ∃ s,
    (server x86_64 studioApi).run {} (recorded ++ playedBack) = some s ∧
      (replayOf x86_64 studioApi (recorded ++ playedBack)).film =
        [lit "one", lit "frame", lit "three"] ∧
      (∀ r ∈ (replayOf x86_64 studioApi (recorded ++ playedBack)).journal.completed,
        r.frames <:+: (replayOf x86_64 studioApi (recorded ++ playedBack)).film) ∧
      ∃ r, (replayOf x86_64 studioApi (recorded ++ playedBack)).playing = some (2, r) ∧
        r ∈ (replayOf x86_64 studioApi (recorded ++ playedBack)).journal.completed ∧
        ∃ shown, (replayOf x86_64 studioApi (recorded ++ playedBack)).sent = shownTo 2 shown ∧
          shown <+: r.frames ∧
          (s.stream.controller.playbackController.isPlaying = false → shown = r.frames) := by
  have hruns : (((server x86_64 studioApi).restrict fun s e => readsDisk s e = true).run {}
      (recorded ++ playedBack)).isSome = true := by decide +kernel
  obtain ⟨s, hs⟩ := Option.isSome_iff_exists.1 hruns
  obtain ⟨hreads, hrun⟩ := Machine.run_restrict.1 hs
  obtain ⟨hexcerpts, hplaying⟩ := replay_is_recording x86_64 studioApi (recorded ++ playedBack) s hrun
    (hreads.mono readsDisk_of_test) (by decide +kernel)
  refine ⟨s, hrun, by decide +kernel, hexcerpts, ⟨recordingName noon, [lit "frame"]⟩, ?_, ?_⟩
  · decide +kernel
  · exact hplaying 2 _ (by decide +kernel)

end AsciiStreamer
