import AsciiStreamer.Recording.Commands
import AsciiStreamer.Stream.PlaybackSession

/-!
# A recording is shown to a session

`start_playback` gives the player a callback that sends each frame to the session, so what the
session is sent is what the player has delivered. `PlaysBack` puts this together with the coherence of
the player: whatever has been sent of a completed recording is a prefix of its frames, and a player
that is not stopped ends only when it has shown them all.
-/

namespace AsciiStreamer

open Cxx

/-- The frames of a playback, as messages to its session. -/
def shownTo (id : SessionId) (frames : List Bytes) : List (SessionId × Message) :=
  frames.map fun frame => (id, .playback frame)

/-- The callback is called with the frame that is reported, if there is one. -/
def Reports (p : PlaybackController) (o : Outcome) : Prop :=
  o.self.frameCallback = p.frameCallback.map (· ++ o.frame.toList)

/-- The session has been shown these frames of the recording that is played to it. -/
structure PlaysBack (P : Platform) (c : StreamController) (id : SessionId) (r : Recording)
    (shown : List Bytes) : Prop where
  coherent : Coherent P [r] ⟨c.playbackController, some r, some r, none⟩
  session : c.playbackController.isPlaying = true → c.playbackSession = some id
  callback : c.playbackController.frameCallback = some shown
  finished : c.playbackController.isPlaying = false → shown = r.frames

/-! ## What the callback is called with -/

section Callback

variable {P : Platform} {p : PlaybackController}

theorem map_append_nil (l : Option (List Bytes)) : l = l.map (· ++ []) := by
  cases l with
  | none => rfl
  | some l => exact congrArg some (List.append_nil l).symm

theorem Reports.silent {p' : PlaybackController} (h : p'.frameCallback = p.frameCallback)
    (exn : Option Exn) : Reports p { self := p', exn := exn } := h.trans (map_append_nil _)

theorem stopPlayback_callback (p : PlaybackController) :
    p.stopPlayback.frameCallback = p.frameCallback := by
  unfold PlaybackController.stopPlayback
  split <;> rfl

theorem deliverFrame_reports (f : IFStream) (timestamp : Int) (length : Nat) :
    Reports p (p.deliverFrame P f timestamp length) := by
  simp only [Reports, PlaybackController.deliverFrame]
  cases p.frameCallback <;> rfl

theorem readFrame_reports (f : IFStream) (header : Bytes) :
    Reports p (p.readFrame P f header) := by
  unfold PlaybackController.readFrame
  split
  · exact .silent (stopPlayback_callback _) none
  · split
    · exact .silent rfl _
    · split
      · exact .silent rfl _
      · split
        · exact .silent rfl _
        · exact deliverFrame_reports f _ _

theorem readNextFrame_reports (P : Platform) (p : PlaybackController) :
    Reports p (p.readNextFrame P) := by
  unfold PlaybackController.readNextFrame
  split
  · exact .silent rfl none
  · simp only
    split
    · exact .silent (stopPlayback_callback _) none
    · exact readFrame_reports _ _

theorem resumePlayback_reports (P : Platform) (p : PlaybackController) :
    Reports p (p.resumePlayback P) := by
  unfold PlaybackController.resumePlayback
  split
  · exact readNextFrame_reports P { p with isPaused := false }
  · exact .silent rfl none

theorem handler_reports (P : Platform) (p : PlaybackController) (k : Nat) (c : Timer.Completion) :
    Reports p (p.handler P k c) := by
  unfold PlaybackController.handler PlaybackController.onTimer
  split
  · exact readNextFrame_reports P { p with playbackTimer := p.playbackTimer.take k }
  · exact .silent rfl none

end Callback

/-! ## Showing a recording -/

section Showing

variable {P : Platform} {c c' : StreamController} {id : SessionId} {r : Recording}
  {shown : List Bytes}

theorem PlaysBack.isPrefix (h : PlaysBack P c id r shown) : shown <+: r.frames := by
  obtain ⟨-, hprefix⟩ := h.coherent.started r rfl
  have hdelivered : c.playbackController.delivered = shown :=
    congrArg (Option.getD · []) h.callback
  exact hdelivered ▸ hprefix

theorem PlaysBack.of_same (h : PlaysBack P c id r shown) (hs : KeepsPlayback c c') :
    PlaysBack P c' id r shown := by
  refine ⟨?_, fun hplay => ?_, ?_, fun hidle => ?_⟩
  · rw [hs.controller]
    exact h.coherent
  · rw [hs.session]
    exact h.session (hs.controller ▸ hplay)
  · rw [hs.controller]
    exact h.callback
  · exact h.finished (hs.controller ▸ hidle)

/-- The player is told something that leaves its callback and its playback alone. -/
theorem PlaysBack.of_player (h : PlaysBack P c id r shown) {p : PlaybackController}
    (hcoherent : Coherent P [r] ⟨p, some r, some r, none⟩)
    (hplay : p.isPlaying = c.playbackController.isPlaying)
    (hcallback : p.frameCallback = c.playbackController.frameCallback) :
    PlaysBack P { c with playbackController := p } id r shown :=
  ⟨hcoherent, fun hp => h.session (hplay.symm.trans hp), hcallback.trans h.callback,
    fun hp => h.finished (hplay.symm.trans hp)⟩

theorem played_shownTo {o : Outcome}
    (hsession : o.frame.isSome = true → c.playbackSession = some id) :
    (c.played o).sends = shownTo id o.frame.toList := by
  cases hframe : o.frame with
  | none =>
    simp only [StreamController.played, hframe]
    rfl
  | some frame =>
    rw [hframe] at hsession
    simp only [StreamController.played, hframe, hsession rfl]
    rfl

/-- The player reads on: the session is sent what the callback is called with. -/
theorem PlaysBack.played (h : PlaysBack P c id r shown) {o : Outcome}
    (hcoherent : Coherent P [r] ⟨o.self, some r, some r, o.exn⟩)
    (hreads : ReadsOn c.playbackController o) (hreports : Reports c.playbackController o)
    (hover : c.playbackController.isPlaying = true → o.self.isPlaying = false →
      o.self.delivered = r.frames) :
    (c.played o).sends = shownTo id o.frame.toList ∧
      PlaysBack P (c.played o).self id r (shown ++ o.frame.toList) := by
  have hcallback : o.self.frameCallback = some (shown ++ o.frame.toList) := by
    rw [hreports, h.callback]
    rfl
  have hexn : o.exn = none := hcoherent.escaped
  refine ⟨?_, ?_, fun hplay => h.session (hreads.goesOn.isPlaying hplay), hcallback, fun hidle => ?_⟩
  · refine played_shownTo fun hsome => ?_
    obtain ⟨frame, hframe⟩ := Option.isSome_iff_exists.1 hsome
    exact h.session (hreads.frame frame hframe).1
  · rw [hexn] at hcoherent
    exact hcoherent
  · rcases Bool.eq_false_or_eq_true c.playbackController.isPlaying with hplay | hplay
    · have hdelivered : o.self.delivered = shown ++ o.frame.toList :=
        congrArg (Option.getD · []) hcallback
      exact hdelivered ▸ hover hplay hidle
    · have hnone : o.frame = none := by
        refine Option.eq_none_iff_forall_not_mem.2 fun frame hframe => ?_
        obtain ⟨hplay', -⟩ := hreads.frame frame hframe
        cases hplay.symm.trans hplay'
      rw [hnone, Option.toList_none, List.append_nil]
      exact h.finished hplay

theorem delivered_of_finished {s : PlaybackRun} (hstarted : s.started = some r)
    (h : Finished s) : s.player.delivered = r.frames := by
  obtain ⟨r', hr', hdelivered⟩ := h
  obtain rfl : r = r' := Option.some.inj (hstarted.symm.trans hr')
  exact hdelivered

theorem PlaysBack.resumePlayback (h : PlaysBack P c id r shown) :
    let o := c.playbackController.resumePlayback P
    (c.played o).sends = shownTo id o.frame.toList ∧
      PlaysBack P (c.played o).self id r (shown ++ o.frame.toList) := by
  obtain ⟨hcoherent, hover⟩ := h.coherent.resumePlayback
  exact h.played hcoherent (readsOn_resumePlayback P _) (resumePlayback_reports P _)
    fun hplay hidle => delivered_of_finished rfl (hover hplay hidle)

theorem PlaysBack.handler (h : PlaysBack P c id r shown) {k : Nat} {t : Timer.Completion}
    (hk : c.playbackController.playbackTimer.queued[k]? = some t) :
    let o := c.playbackController.handler P k t
    (c.played o).sends = shownTo id o.frame.toList ∧
      PlaysBack P (c.played o).self id r (shown ++ o.frame.toList) := by
  obtain ⟨hcoherent, hover⟩ := h.coherent.handler hk
  exact h.played hcoherent (readsOn_handler P _ k t) (handler_reports P _ k t)
    fun hplay hidle => delivered_of_finished rfl (hover hplay hidle)

theorem PlaysBack.pausePlayback (h : PlaysBack P c id r shown) :
    PlaysBack P { c with playbackController := c.playbackController.pausePlayback } id r shown := by
  refine h.of_player h.coherent.pausePlayback ?_ ?_
  · unfold PlaybackController.pausePlayback
    split <;> rfl
  · unfold PlaybackController.pausePlayback
    split <;> rfl

/-- A player that has just loaded a completed recording begins to show it. -/
theorem startPlayback_reads_recording {p : PlaybackController} {es : List (Int × Bytes)} {x : Bytes}
    (hplay : p.isPlaying = false) (hcur : Cursor p.playbackFile x) (hx : Frames P x es)
    (hframes : es.map Prod.snd = r.frames) :
    Coherent P [r] ⟨(p.startPlayback P).self, some r, some r, (p.startPlayback P).exn⟩ ∧
      ((p.startPlayback P).self.isPlaying = false → (p.startPlayback P).self.delivered = r.frames) ∧
      (p.startPlayback P).self.frameCallback = some (p.startPlayback P).frame.toList := by
  have hself : p.startPlayback P = { p with
      frameCallback := some []
      isPlaying := true
      isPaused := false
      currentFrame := 0
      nextFrameTime := 0 }.readNextFrame P := by
    simp only [PlaybackController.startPlayback, hcur.isOpen, hplay, Bool.not_true,
      Bool.false_eq_true, ↓reduceIte]
  rw [hself]
  obtain ⟨hcoherent, hover⟩ := coherent_read (P := P) (m := some r) (p := { p with
    frameCallback := some []
    isPlaying := true
    isPaused := false
    currentFrame := 0
    nextFrameTime := 0 }) (List.mem_singleton_self r) rfl rfl rfl ⟨x, es, hcur, hx, hframes⟩
    (List.nil_append _).symm
  exact ⟨hcoherent, hover, readNextFrame_reports P _⟩

/-- **`start_playback` of a completed recording**, whatever the player has done before. -/
theorem startPlayback_playsBack {filename content : Bytes} (hcontent : Completed P content r.frames)
    (hloads : c.loads filename (some content) = true) :
    ∃ shown, (c.stopPlayback.startPlayback P filename id (some content)).sends = shownTo id shown ∧
      PlaysBack P (c.stopPlayback.startPlayback P filename id (some content)).self id r shown := by
  have hclosed : c.stopPlayback.playbackController.stopPlayback.playbackFile.isOpen = false := by
    refine Bool.eq_false_of_not_eq_true fun hopen => ?_
    obtain ⟨f, hload, -⟩ := loadRecording_of_open hopen (lit "recordings/" ++ filename) (some content)
    rw [StreamController.loads, hload] at hloads
    cases hloads
  obtain ⟨f, info, x, es, hload, hcur, hx, hframes, -⟩ :=
    hcontent.load hclosed (lit "recordings/" ++ filename)
  obtain ⟨hcoherent, hover, hcallback⟩ := startPlayback_reads_recording
    (p := { c.stopPlayback.playbackController.stopPlayback with
      playbackFile := f, currentRecordingInfo := info }) (stopPlayback_isPlaying _) hcur hx hframes
  have hexn := hcoherent.escaped
  simp only [StreamController.startPlayback, hload]
  refine ⟨_, played_shownTo fun _ => rfl, hexn ▸ hcoherent, fun _ => rfl, hcallback, fun hidle => ?_⟩
  exact (congrArg (Option.getD · []) hcallback).symm.trans (hover hidle)

end Showing

end AsciiStreamer
