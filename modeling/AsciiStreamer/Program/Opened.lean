import AsciiStreamer.Http.Reported
import AsciiStreamer.Program.Listed
import AsciiStreamer.Program.Program
import AsciiStreamer.Recording.History

/-!
# What a playback finds of the recorder's files

`load_recording` goes through the same lines as the listing, so no file of the recorder makes it throw,
wherever that ends (`loads_of_fields`). Only a load that throws leaves a file open that nobody plays
(`dangling_step`); where none is open, a finished recording is played to its last frame
(`Completed.playsThrough`).
-/

namespace AsciiStreamer

open Cxx

/-- The session is shown the frames, one by one, and then the file is closed. -/
def PlaysThrough (P : Platform) (c : StreamController) (session : SessionId) (frames : List Bytes) :
    Prop :=
  c.playbackSession = some session ∧ ∃ p, (playFor P p 0).self = c.playbackController ∧
    ∀ n, (playFor P p n).exn = none ∧
      (playFor P p n).self.delivered = frames.take (n + 1) ∧
      (frames.length ≤ n → (playFor P p n).self.isPlaying = false ∧
        (playFor P p n).self.playbackFile.isOpen = false)

/-! ## Loading -/

section Loading

variable {p : PlaybackController} {c : StreamController} {text : Bytes}

theorem metadataLines_succeed {lines : List Bytes} (h : ∀ line ∈ lines, FieldOk line)
    (info : RecordingInfo) : Succeeds (lines.foldlM metadataLine info) := by
  induction lines generalizing info with
  | nil => exact succeeds_ok info
  | cons line lines ih =>
    obtain ⟨hline, hlines⟩ := List.forall_mem_cons.1 h
    obtain ⟨info', hinfo⟩ := metadataLine_ok info hline
    obtain ⟨info'', hrest⟩ := ih hlines info'
    refine ⟨info'', ?_⟩
    rw [List.foldlM_cons, hinfo]
    exact hrest

theorem loadRecording_of_fields (h : ∀ line ∈ metadataLines text, FieldOk line) (name : Bytes)
    (e : Exn) : (p.loadRecording name (some text)).2 ≠ .error e := by
  have hok : ∀ loaded : Bool, Except.ok loaded ≠ .error e := fun _ herror => by cases herror
  cases ho : p.stopPlayback.playbackFile.isOpen with
  | true =>
    obtain ⟨f, hload, -⟩ := loadRecording_of_open ho name (some text)
    rw [hload]
    exact hok _
  | false =>
    have hopen : p.stopPlayback.playbackFile.open' (some text) = IFStream.open' {} (some text) := by
      simp only [IFStream.open', ho, Bool.false_eq_true, ↓reduceIte]
    obtain ⟨info, hread⟩ := metadataLines_succeed h { filename := name : RecordingInfo }
    have hscan := scanLines_metadata metadataLine text [] { filename := name : RecordingInfo }
    rw [readMetadata_scan, hread] at hscan
    unfold PlaybackController.loadRecording
    simp only [hopen]
    split
    · exact hok _
    · split
      · exact hok _
      · rcases hm : readMetadata _ _ [] { filename := name } with ⟨f, info, err⟩
        rw [hm] at hscan
        cases err with
        | none => exact hok _
        | some e => cases hscan

/-- **What is loaded** of a file whose fields are in order, or of none. -/
theorem loads_of_fields {content : Option Bytes}
    (h : ∀ text, content = some text → ∀ line ∈ metadataLines text, FieldOk line)
    (filename : Bytes) : c.loads filename content = true ↔
      ¬c.playbackController.Dangling ∧ HasHeader content := by
  have hloadable : Loadable c.stopPlayback.playbackController content ↔
      ¬c.playbackController.Dangling ∧ HasHeader content := by
    rw [loadable_iff]
    exact and_congr_left' (not_congr stopPlayback_dangling)
  rw [← hloadable]
  unfold StreamController.loads
  rcases loadRecording_cases c.stopPlayback.playbackController (lit "recordings/" ++ filename) content
    with ⟨hno, p', hload⟩ | ⟨hyes, ⟨p', e, hload⟩ | ⟨p', hload, -⟩⟩
  · rw [hload]
    exact iff_of_false Bool.false_ne_true hno
  · obtain ⟨text, rfl, -⟩ := hyes.header
    exact absurd (congrArg Prod.snd hload) (loadRecording_of_fields (h text rfl) _ e)
  · rw [hload]
    exact iff_of_true rfl hyes

end Loading

/-! ## Files that are left open -/

section Dangling

variable {P : Platform} {api : Api} {c : StreamController}

/-- A load that throws leaves its file open, and no other segment does. -/
theorem dangling_segment {env : Env} {pc : Pc}
    (h : (pc.run P c env).self.playbackController.Dangling) : c.playbackController.Dangling ∨
      ∃ filename session e, pc = .stoppingPlayback filename session ∧
        (c.stopPlayback.playbackController.loadRecording (lit "recordings/" ++ filename)
          env.content).2 = .error e := by
  cases pc with
  | dispatch call =>
    left
    cases call with
    | startStreaming cameraIndex resolution fps =>
      rwa [← (startStreaming_rest c cameraIndex resolution fps env.camera).playback.controller]
    | stopStreaming => rwa [← (stopStreaming_rest c).playback.controller]
    | removeViewerById id => exact h
    | startPlayback filename session => exact h
    | pausePlayback => exact pausePlayback_dangling.1 h
    | resumePlayback => exact resumePlayback_dangling.1 h
    | stopPlayback => exact stopPlayback_dangling.1 h
    | setPlaybackSpeed speed => exact h
  | polling =>
    left
    have hsame : (c.poll).self.playbackController = c.playbackController := by
      unfold StreamController.poll
      split <;> rfl
    exact hsame ▸ h
  | stoppingPlayback filename session =>
    have hdangling := loadRecording_dangling (p := c.stopPlayback.playbackController)
      (lit "recordings/" ++ filename) env.content
    simp only [Pc.run, StreamController.startPlayback] at h
    rcases hload : c.stopPlayback.playbackController.loadRecording (lit "recordings/" ++ filename)
      env.content with ⟨p, result⟩
    rw [hload] at hdangling h
    cases result with
    | error e => exact Or.inr ⟨filename, session, e, rfl, congrArg Prod.snd hload⟩
    | ok loaded =>
      cases loaded with
      | true => exact absurd h not_dangling_startPlayback
      | false => exact absurd rfl (hdangling.1 h)

/-- **A file is left open** by a load that throws. -/
theorem dangling_step {s s' : Server} {e : ServerEvent P} (hs : (server P api).step s e = some s')
    (h : s'.stream.controller.playbackController.Dangling) :
    s.stream.controller.playbackController.Dangling ∨
      ∃ i camera content t filename session err, e = .segment i camera content ∧
        s.stream.tasks[i]? = some t ∧ t.pc = .stoppingPlayback filename session ∧
          (s.stream.controller.stopPlayback.playbackController.loadRecording
            (lit "recordings/" ++ filename) content).2 = .error err := by
  have kept : s'.stream.controller.playbackController = s.stream.controller.playbackController →
      s.stream.controller.playbackController.Dangling := fun hsame => hsame ▸ h
  cases serverStep_of_step hs with
  | connect => exact Or.inl h
  | session id e clock σ rs =>
    exact Or.inl (kept (session_requested s id e clock σ rs).playback.controller)
  | segment i camera content _ hseg =>
    obtain ⟨t, g, hsegment⟩ := Server.methodSegment_stream hseg
    obtain ⟨ht, rfl, hstream⟩ := segment_eq hsegment
    rw [hstream] at h
    rcases dangling_segment h with hbefore | ⟨filename, session, err, hpc, hload⟩
    · exact Or.inl hbefore
    · exact Or.inr ⟨i, camera, content, t, filename, session, err, rfl, ht, hpc, hload⟩
  | loop i capture stream sends hloop =>
    obtain ⟨pc, c, next, -, hc, rfl⟩ := loop_eq hloop
    refine Or.inl (kept ?_)
    rw [Server.sendAll_stream]
    exact (captureLoop_playback hc).controller
  | runAddViewer stream hadd =>
    obtain ⟨v, vs, -, rfl⟩ := runAddViewer_eq hadd
    exact Or.inl h
  | playbackExpire stream hexp =>
    have hstream := playbackExpire_timer hexp
    subst hstream
    exact Or.inl h
  | playbackHandler k stream sends hk =>
    obtain ⟨completion, -, rfl, -⟩ := playbackHandler_reads hk
    rw [Server.sendAll_stream] at h
    exact Or.inl ((handler_dangling k completion).1 h)
  | destroy id =>
    obtain ⟨tasks, -, hstream⟩ := Server.destroy_tasks s id
    rw [hstream] at h
    exact Or.inl h

end Dangling

/-! ## Playing -/

/-- **A finished recording is played** by a player that has left no file open. -/
theorem Completed.playsThrough {P : Platform} {content : Bytes} {frames : List Bytes}
    (h : Completed P content frames) {c : StreamController}
    (hclosed : ¬c.playbackController.Dangling) (filename : Bytes) (session : SessionId) :
    PlaysThrough P (c.stopPlayback.startPlayback P filename session (some content)).self session
      frames := by
  have hp : c.stopPlayback.playbackController.stopPlayback.playbackFile.isOpen = false := by
    rw [← Bool.not_eq_true, stopPlayback_isOpen]
    exact fun hopen => hclosed (stopPlayback_dangling.1 hopen)
  obtain ⟨f, info, text, fs, hload, hcur, hfs, hframes, -⟩ :=
    h.load hp (lit "recordings/" ++ filename)
  have hlen : fs.length = frames.length := by rw [← hframes, List.length_map]
  have hstopped : { c.stopPlayback.playbackController.stopPlayback with
      playbackFile := f, currentRecordingInfo := info }.isPlaying = false := stopPlayback_isPlaying _
  simp only [StreamController.startPlayback, hload]
  refine ⟨rfl, _, rfl, fun n => ?_⟩
  obtain ⟨hexn, hcase⟩ := playFor_frames (P := P) hstopped hcur hfs n
  refine ⟨hexn, ?_⟩
  rcases hcase with ⟨hlt, hwait⟩ | ⟨hle, hstop⟩
  · refine ⟨?_, fun hle => absurd (hlen ▸ hle) (Nat.not_le.2 hlt)⟩
    rw [PlaybackController.delivered, hwait.delivered, hframes]
    rfl
  · refine ⟨?_, fun _ => ⟨hstop.isPlaying, hstop.closed⟩⟩
    rw [PlaybackController.delivered, hstop.delivered, hframes,
      List.take_of_length_le (hlen ▸ Nat.le_succ_of_le hle)]
    rfl

end AsciiStreamer
