import AsciiStreamer.Recording.History
import AsciiStreamer.Stream.Viewers

/-!
# Whose playback it is

There is one player with one file, one callback that reads `playback_session_` when it is called, and
any number of methods and timer callbacks that make it read. `PlaysFrom` ties the three together: as
long as the player plays, its file and the session are those of the last `start_playback` that was
executed, and after one that was refused or threw there is neither. Every segment keeps it, and
whatever a segment sends is a piece of that file for that session (`Pc.run_playsFrom`).
-/

namespace AsciiStreamer

open Cxx

/-- An executed `start_playback`: for whom, the file it names, what that file holds, and whether
`load_recording` has returned `true`. -/
structure PlaybackStart where
  session : SessionId
  filename : Bytes
  content : Option Bytes
  loaded : Bool
  deriving DecidableEq, Repr

/-- `load_recording` of `start_playback` returns `true`. -/
def StreamController.loads (c : StreamController) (filename : Bytes) (content : Option Bytes) :
    Bool :=
  match (c.stopPlayback.playbackController.loadRecording (lit "recordings/" ++ filename)
    content).2 with
  | .ok loaded => loaded
  | .error _ => false

/-- The last `start_playback` executed, after a segment of a method. -/
def Pc.lastStart (c : StreamController) (content : Option Bytes) (last : Option PlaybackStart) :
    Pc → Option PlaybackStart
  | .stoppingPlayback filename session =>
    some ⟨session, filename, content, c.loads filename content⟩
  | _ => last

/-- The player plays the file of the last `start_playback` to its session. -/
structure PlaysFrom (c : StreamController) (last : Option PlaybackStart) : Prop where
  playing : c.playbackController.isPlaying = true → ∃ start content, last = some start ∧
    start.loaded = true ∧ start.content = some content ∧
    c.playbackSession = some start.session ∧ c.playbackController.playbackFile.data = content ∧
    c.playbackController.playbackFile.Positioned
  refused : ∀ start, last = some start → start.loaded = false →
    c.playbackSession = none ∧ c.playbackController.isPlaying = false

/-- What is sent is a piece of the file of the last `start_playback`, for its session. -/
def SentFrom (last : Option PlaybackStart) (x : SessionId × Message) : Prop :=
  ∃ filename content frame, last = some ⟨x.1, filename, some content, true⟩ ∧
    x.2 = .playback frame ∧ IFStream.Piece content frame

/-! ## The player -/

/-- A call after which the player is on the same file, and plays only if it did before. -/
structure GoesOn (p p' : PlaybackController) : Prop where
  isPlaying : p'.isPlaying = true → p.isPlaying = true
  file : p.playbackFile.OnSameFile p'.playbackFile

/-- A call that may read a frame. -/
structure ReadsOn (p : PlaybackController) (o : Outcome) : Prop where
  goesOn : GoesOn p o.self
  frame : ∀ frame, o.frame = some frame → p.isPlaying = true ∧
    (p.playbackFile.Positioned → IFStream.Piece p.playbackFile.data frame)

section Player

variable {P : Platform} {p p' : PlaybackController}

theorem GoesOn.refl (p : PlaybackController) : GoesOn p p := ⟨id, .refl _⟩

theorem ReadsOn.silent (h : GoesOn p p') (exn : Option Exn) :
    ReadsOn p { self := p', exn := exn } := ⟨h, nofun⟩

/-- The player has read on in its file. -/
theorem GoesOn.of_file {f : IFStream} (h : p.playbackFile.OnSameFile f) :
    GoesOn p { p with playbackFile := f } := ⟨id, h⟩

theorem goesOn_stopPlayback (p : PlaybackController) : GoesOn p p.stopPlayback := by
  refine ⟨fun h => ?_, ?_⟩
  · rw [stopPlayback_isPlaying] at h
    cases h
  · unfold PlaybackController.stopPlayback
    split
    · simp only
      split
      · exact IFStream.onSameFile_close
      · exact .refl _
    · exact .refl _

theorem GoesOn.stopPlayback (h : GoesOn p p') : GoesOn p p'.stopPlayback := by
  have hstop := goesOn_stopPlayback p'
  exact ⟨fun hp => h.isPlaying (hstop.isPlaying hp), h.file.trans hstop.file⟩

theorem readsOn_deliverFrame {f : IFStream} (hf : p.playbackFile.OnSameFile f)
    (hplay : p.isPlaying = true) (timestamp : Int) (length : Nat) :
    ReadsOn p (p.deliverFrame P f timestamp length) := by
  unfold PlaybackController.deliverFrame
  refine ⟨⟨id, ?_⟩, fun frame hframe => ⟨hplay, fun hpos => ?_⟩⟩
  · exact (hf.trans (IFStream.onSameFile_read length)).trans IFStream.onSameFile_ignore1
  · obtain ⟨l, -, rfl⟩ := Option.map_eq_some_iff.1 hframe
    rw [← hf.data]
    exact IFStream.read_piece (hf.positioned hpos) length

theorem readsOn_readFrame {f : IFStream} (hf : p.playbackFile.OnSameFile f)
    (hplay : p.isPlaying = true) (header : Bytes) : ReadsOn p (p.readFrame P f header) := by
  unfold PlaybackController.readFrame
  split
  · exact .silent (GoesOn.of_file hf).stopPlayback none
  · split
    · exact .silent (.of_file hf) _
    · split
      · exact .silent (.of_file hf) _
      · split
        · exact .silent (.of_file hf) _
        · exact readsOn_deliverFrame hf hplay _ _

/-- **What `read_next_frame` reads.** -/
theorem readsOn_readNextFrame (P : Platform) (p : PlaybackController) :
    ReadsOn p (p.readNextFrame P) := by
  unfold PlaybackController.readNextFrame
  split
  · exact .silent (.refl p) none
  · next hgo =>
    have hplay : p.isPlaying = true := by
      simp only [Bool.or_eq_true, Bool.not_eq_true', not_or, Bool.not_eq_false] at hgo
      exact hgo.1.1
    have hline : p.playbackFile.OnSameFile (p.playbackFile.getline []).1 :=
      IFStream.onSameFile_getline []
    simp only
    split
    · exact .silent (GoesOn.of_file hline).stopPlayback none
    · exact readsOn_readFrame hline hplay _

theorem readsOn_resumePlayback (P : Platform) (p : PlaybackController) :
    ReadsOn p (p.resumePlayback P) := by
  unfold PlaybackController.resumePlayback
  split
  · have h := readsOn_readNextFrame P { p with isPaused := false }
    exact ⟨⟨h.goesOn.isPlaying, h.goesOn.file⟩, h.frame⟩
  · exact .silent (.refl p) none

/-- A timer callback, of this playback or a late one of another. -/
theorem readsOn_handler (P : Platform) (p : PlaybackController) (k : Nat) (c : Timer.Completion) :
    ReadsOn p (p.handler P k c) := by
  unfold PlaybackController.handler PlaybackController.onTimer
  split
  · have h := readsOn_readNextFrame P { p with playbackTimer := p.playbackTimer.take k }
    exact ⟨⟨h.goesOn.isPlaying, h.goesOn.file⟩, h.frame⟩
  · exact ⟨⟨id, .refl _⟩, nofun⟩

theorem goesOn_pausePlayback (p : PlaybackController) : GoesOn p p.pausePlayback := by
  unfold PlaybackController.pausePlayback
  split
  · exact ⟨id, .refl _⟩
  · exact .refl p

/-- The first read of a playback that begins. -/
theorem startPlayback_reads (P : Platform) (p : PlaybackController) :
    p.playbackFile.OnSameFile (p.startPlayback P).self.playbackFile ∧
      ∀ frame, (p.startPlayback P).frame = some frame →
        p.playbackFile.Positioned → IFStream.Piece p.playbackFile.data frame := by
  unfold PlaybackController.startPlayback
  split
  · exact ⟨.refl _, nofun⟩
  · split
    · exact ⟨.refl _, nofun⟩
    · have h := readsOn_readNextFrame P { p with
        frameCallback := some []
        isPlaying := true
        isPaused := false
        currentFrame := 0
        nextFrameTime := 0 }
      exact ⟨h.goesOn.file, fun frame hframe => (h.frame frame hframe).2⟩

theorem onSameFile_readMetadata (fuel : Nat) : ∀ (f : IFStream) (line : Bytes)
    (info : RecordingInfo), f.OnSameFile (readMetadata fuel f line info).1 := by
  induction fuel with
  | zero => exact fun f _ _ => .refl f
  | succ fuel ih =>
    intro f line info
    have hline : f.OnSameFile (f.getline line).1 := IFStream.onSameFile_getline line
    simp only [readMetadata]
    split
    · exact hline
    · split
      · exact hline
      · exact hline.trans (ih _ _ _)

theorem onSameFile_skipToFrames (fuel : Nat) : ∀ (f : IFStream) (line : Bytes),
    f.OnSameFile (skipToFrames fuel f line) := by
  induction fuel with
  | zero => exact fun f _ => .refl f
  | succ fuel ih =>
    intro f line
    have hline : f.OnSameFile (f.getline line).1 := IFStream.onSameFile_getline line
    simp only [skipToFrames]
    split
    · exact hline
    · exact hline.trans (ih _ _)

/-- However the load turns out, nothing plays afterwards. -/
theorem loadRecording_isPlaying (p : PlaybackController) (name : Bytes) (content : Option Bytes) :
    (p.loadRecording name content).1.isPlaying = false := by
  have hstop := stopPlayback_isPlaying p
  simp only [PlaybackController.loadRecording]
  split
  · exact hstop
  · split
    · exact hstop
    · split
      · exact hstop
      · exact hstop

/-- **A file that has been loaded** is the one that was named. -/
theorem loaded_file {name : Bytes} {content : Option Bytes}
    (h : p.loadRecording name content = (p', .ok true)) :
    ∃ d, content = some d ∧ p'.playbackFile.data = d ∧ p'.playbackFile.Positioned := by
  have hload : Loadable p content := by
    rcases loadRecording_cases p name content with ⟨-, q, hq⟩ | ⟨hload, -⟩
    · rw [h] at hq
      cases hq
    · exact hload
  obtain ⟨d, rfl, -⟩ := hload.header
  refine ⟨d, rfl, ?_⟩
  obtain ⟨hpos, hdata⟩ := IFStream.open_positioned hload.closed d
  have hline := IFStream.onSameFile_getline (f := p.stopPlayback.playbackFile.open' (some d)) []
  simp only [PlaybackController.loadRecording] at h
  split at h
  · cases h
  · split at h
    · cases h
    · split at h
      · cases h
      · next f info hread =>
        cases h
        have hmeta := onSameFile_readMetadata
          (((p.stopPlayback.playbackFile.open' (some d)).getline []).1.rest.length + 1)
          ((p.stopPlayback.playbackFile.open' (some d)).getline []).1 [] { filename := name }
        rw [hread] at hmeta
        have hall := ((hline.trans hmeta).trans IFStream.onSameFile_seekEnd).trans
          (IFStream.onSameFile_seekBeg.trans
            (onSameFile_skipToFrames (f.seekEnd.seekBeg.rest.length + 1) _ []))
        exact ⟨hall.data.trans hdata, hall.positioned hpos⟩

end Player

/-! ## The controller -/

section Controller

variable {P : Platform} {c c' : StreamController} {last : Option PlaybackStart}

theorem captureLoop_playback {capture : Capture P} {alive : SessionId → Bool} {pc : LoopPc}
    {next : Option LoopPc} {sends : List (SessionId × Message)}
    (h : c.captureLoop P capture alive pc = some (c', next, sends)) : KeepsPlayback c c' := by
  cases pc with
  | spawned =>
    obtain ⟨⟨c₁, n₁⟩, htest, heq⟩ := Option.map_eq_some_iff.1 h
    cases heq
    exact (loopTest_rest htest).playback
  | sleeping =>
    cases capture with
    | throws e =>
      cases h
      exact ⟨rfl, rfl⟩
    | empty =>
      obtain ⟨⟨c₁, n₁⟩, htest, heq⟩ := Option.map_eq_some_iff.1 h
      cases heq
      exact (loopTest_rest htest).playback
    | frame frame now =>
      cases h
      exact ⟨rfl, rfl⟩
  | broadcasting frame =>
    obtain ⟨⟨c₁, n₁⟩, htest, heq⟩ := Option.map_eq_some_iff.1 h
    cases heq
    have hrest := (loopTest_rest htest).playback
    exact ⟨hrest.controller, hrest.session⟩

theorem PlaysFrom.init : PlaysFrom {} none := ⟨nofun, nofun⟩

/-- The player goes on, for the same session. -/
theorem PlaysFrom.goesOn (h : PlaysFrom c last)
    (hgoes : GoesOn c.playbackController c'.playbackController)
    (hsession : c'.playbackSession = c.playbackSession) : PlaysFrom c' last := by
  refine ⟨fun hplay => ?_, fun start hlast hno => ?_⟩
  · obtain ⟨start, content, hlast, hloaded, hcontent, hsame, hdata, hpos⟩ :=
      h.playing (hgoes.isPlaying hplay)
    exact ⟨start, content, hlast, hloaded, hcontent, hsession.trans hsame,
      hgoes.file.data.trans hdata, hgoes.file.positioned hpos⟩
  · obtain ⟨hnone, hidle⟩ := h.refused start hlast hno
    refine ⟨hsession.trans hnone, Bool.eq_false_iff.2 fun hplay => ?_⟩
    rw [hgoes.isPlaying hplay] at hidle
    cases hidle

theorem PlaysFrom.of_same (h : PlaysFrom c last) (hs : KeepsPlayback c c') : PlaysFrom c' last :=
  h.goesOn (hs.controller ▸ .refl _) hs.session

/-- What the callback sends after a read. -/
theorem PlaysFrom.played (h : PlaysFrom c last) {o : Outcome}
    (ho : ReadsOn c.playbackController o) :
    PlaysFrom (c.played o).self last ∧ ∀ x ∈ (c.played o).sends, SentFrom last x := by
  refine ⟨h.goesOn ho.goesOn rfl, fun x hx => ?_⟩
  simp only [StreamController.played] at hx
  split at hx
  · next frame session hframe hsession =>
    rw [List.mem_singleton] at hx
    subst hx
    obtain ⟨hplay, hpiece⟩ := ho.frame frame hframe
    obtain ⟨⟨session', filename, content', loaded⟩, content, hlast, rfl, rfl, hsame, hdata, hpos⟩ :=
      h.playing hplay
    cases hsession.symm.trans hsame
    exact ⟨filename, content, frame, hlast, rfl, hdata ▸ hpiece hpos⟩
  · cases hx

/-- Without a playback there is nothing to go on with. -/
theorem PlaysFrom.idle (hidle : c.playbackController.isPlaying = false)
    (hrefused : ∀ start, last = some start → start.loaded = false → c.playbackSession = none) :
    PlaysFrom c last := by
  refine ⟨fun hplay => ?_, fun start hlast hno => ⟨hrefused start hlast hno, hidle⟩⟩
  rw [hidle] at hplay
  cases hplay

/-- **`start_playback` switches** the player, its file and the session together. -/
theorem startPlayback_playsFrom (P : Platform) (c : StreamController) (filename : Bytes)
    (session : SessionId) (content : Option Bytes) :
    PlaysFrom (c.stopPlayback.startPlayback P filename session content).self
        (some ⟨session, filename, content, c.loads filename content⟩) ∧
      ∀ x ∈ (c.stopPlayback.startPlayback P filename session content).sends,
        SentFrom (some ⟨session, filename, content, c.loads filename content⟩) x := by
  have hidle := loadRecording_isPlaying c.stopPlayback.playbackController
    (lit "recordings/" ++ filename) content
  unfold StreamController.startPlayback StreamController.loads
  rcases hload : c.stopPlayback.playbackController.loadRecording (lit "recordings/" ++ filename)
    content with ⟨p, result⟩
  rw [hload] at hidle
  cases result with
  | error e => exact ⟨.idle hidle fun _ _ _ => rfl, nofun⟩
  | ok loaded =>
    cases loaded with
    | false => exact ⟨.idle hidle fun _ _ _ => rfl, nofun⟩
    | true =>
      obtain ⟨d, rfl, hdata, hpos⟩ := loaded_file hload
      obtain ⟨hfile, hframe⟩ := startPlayback_reads P p
      refine ⟨⟨fun _ => ?_, fun start hlast hno => ?_⟩, fun x hx => ?_⟩
      · exact ⟨_, d, rfl, rfl, rfl, rfl, hfile.data.trans hdata, hfile.positioned hpos⟩
      · cases hlast
        cases hno
      · simp only [StreamController.played] at hx
        split at hx
        · next frame session' hsent hsession =>
          cases hsession
          rw [List.mem_singleton] at hx
          subst hx
          exact ⟨filename, d, frame, rfl, rfl, hdata ▸ hframe frame hsent hpos⟩
        · cases hx

/-- **What a segment of a method plays**, and to whom. -/
theorem Pc.run_playsFrom (P : Platform) (env : Env) (h : PlaysFrom c last) (pc : Pc) :
    PlaysFrom (pc.run P c env).self (pc.lastStart c env.content last) ∧
      ∀ x ∈ (pc.run P c env).sends, SentFrom (pc.lastStart c env.content last) x := by
  have silent : ∀ {sends : List (SessionId × Message)}, sends = [] →
      ∀ x ∈ sends, SentFrom last x := by
    rintro sends rfl
    exact nofun
  cases pc with
  | dispatch call =>
    cases call with
    | startStreaming cameraIndex resolution fps =>
      refine ⟨h.of_same (startStreaming_rest c cameraIndex resolution fps env.camera).playback, ?_⟩
      exact silent (startStreaming_sends c cameraIndex resolution fps env.camera)
    | stopStreaming =>
      exact ⟨h.of_same (stopStreaming_rest c).playback, silent (stopStreaming_sends c)⟩
    | removeViewerById id => exact ⟨h.of_same ⟨rfl, rfl⟩, nofun⟩
    | startPlayback filename session => exact ⟨h, nofun⟩
    | pausePlayback => exact ⟨h.goesOn (goesOn_pausePlayback _) rfl, nofun⟩
    | resumePlayback => exact h.played (readsOn_resumePlayback P _)
    | stopPlayback =>
      exact ⟨.idle (stopPlayback_isPlaying c.playbackController) fun _ _ _ => rfl, nofun⟩
    | setPlaybackSpeed speed => exact ⟨h.goesOn ⟨id, .refl _⟩ rfl, nofun⟩
  | polling =>
    refine ⟨h.of_same ?_, silent (poll_sends c)⟩
    simp only [Pc.run, StreamController.poll]
    split <;> exact ⟨rfl, rfl⟩
  | stoppingPlayback filename session =>
    exact startPlayback_playsFrom P c filename session env.content

end Controller

end AsciiStreamer
