import AsciiStreamer.Lib.Machine
import AsciiStreamer.Recording.Commands

/-!
# Loading, whatever has happened before

`load_recording` leaves it to `stop_playback` to close the file of the load before, and that closes
nothing unless a playback is running. A file that has been loaded and never started, by a load that
returned or by one that threw, is still open, so the next `open` fails and the load is refused.
`loads_as_fresh_iff` says that nothing else of the past matters.
-/

namespace AsciiStreamer

open Cxx

/-! ## The player with every call that can reach it -/

/-- The calls of the player's methods, the expiry of its timer and the handlers of its waits. -/
inductive PlayerCall
  | loadRecording (filename : Bytes) (content : Option Bytes)
  | startPlayback
  | pausePlayback
  | resumePlayback
  | stopPlayback
  | setPlaybackSpeed (speed : Rat)
  | expire
  | handler (k : Nat)
  deriving DecidableEq, Repr

/-- The player under any calls, also after one that threw. -/
def player (P : Platform) : Machine PlaybackController PlayerCall where
  step p
    | .loadRecording filename content => some (p.loadRecording filename content).1
    | .startPlayback => some (p.startPlayback P).self
    | .pausePlayback => some p.pausePlayback
    | .resumePlayback => some (p.resumePlayback P).self
    | .stopPlayback => some p.stopPlayback
    | .setPlaybackSpeed speed => some (p.setPlaybackSpeed speed)
    | .expire =>
      if p.playbackTimer.pending.isSome then
        some { p with playbackTimer := p.playbackTimer.expire }
      else none
    | .handler k => (p.playbackTimer.queued[k]?).map fun c => (p.handler P k c).self

/-! ## The property and the condition -/

/-- A load has the result of a load by a new player and, where that is `true`, leaves the same
information and the same stream. -/
structure LoadsAsFresh (p : PlaybackController) (filename : Bytes) (content : Option Bytes) :
    Prop where
  result : (p.loadRecording filename content).2 =
    (PlaybackController.loadRecording {} filename content).2
  info : (p.loadRecording filename content).2 = .ok true →
    (p.loadRecording filename content).1.currentRecordingInfo =
      (PlaybackController.loadRecording {} filename content).1.currentRecordingInfo
  file : (p.loadRecording filename content).2 = .ok true →
    (p.loadRecording filename content).1.playbackFile =
      (PlaybackController.loadRecording {} filename content).1.playbackFile

/-- The file exists and its first line is that of a recording. -/
def HasHeader (content : Option Bytes) : Prop := ∃ d, content = some d ∧ (splitLine d).1 = magic

/-- The player has no file left open once its playback is stopped, and the file begins with the
line that the loader asks for. -/
structure Loadable (p : PlaybackController) (content : Option Bytes) : Prop where
  closed : p.stopPlayback.playbackFile.isOpen = false
  header : ∃ d, content = some d ∧ (splitLine d).1 = magic

/-- Whether the last load has returned `true` or thrown, with no start since. -/
def leftOpen (p : PlaybackController) (e : PlayerCall) (_ : PlaybackController) (b : Bool) : Bool :=
  match e with
  | .loadRecording filename content => (p.loadRecording filename content).2 != .ok false
  | .startPlayback => false
  | _ => b

/-- Nothing is playing, but a file is open. -/
def PlaybackController.Dangling (p : PlaybackController) : Prop :=
  p.isPlaying = false ∧ p.playbackFile.isOpen = true

/-! ## What the calls do to the open file -/

section Calls

variable {P : Platform} {p : PlaybackController}

theorem stopPlayback_isOpen :
    p.stopPlayback.playbackFile.isOpen = true ↔ p.Dangling := by
  unfold PlaybackController.stopPlayback PlaybackController.Dangling
  cases hplay : p.isPlaying with
  | false => simp only [Bool.false_eq_true, ↓reduceIte, true_and]
  | true =>
    refine iff_of_false ?_ fun h => nomatch h.1
    cases ho : p.playbackFile.isOpen with
    | true => simp only [↓reduceIte, close_isOpen ho, Bool.false_eq_true, not_false_eq_true]
    | false => simp only [↓reduceIte, ho, Bool.false_eq_true, not_false_eq_true]

theorem stopPlayback_dangling : p.stopPlayback.Dangling ↔ p.Dangling := by
  rw [PlaybackController.Dangling, stopPlayback_isOpen]
  exact and_iff_right (stopPlayback_isPlaying p)

/-- A player that plays ends with its file closed. -/
theorem not_dangling_stopPlayback (hplay : p.isPlaying = true) : ¬p.stopPlayback.Dangling := by
  rw [stopPlayback_dangling]
  intro h
  cases hplay.symm.trans h.1

theorem not_dangling_of_playing (hplay : p.isPlaying = true) : ¬p.Dangling :=
  fun h => nomatch hplay.symm.trans h.1

theorem not_dangling_readFrame (hplay : p.isPlaying = true) (f : IFStream) (header : Bytes) :
    ¬(p.readFrame P f header).self.Dangling := by
  unfold PlaybackController.readFrame
  cases frameHeader header with
  | none => exact not_dangling_stopPlayback (by exact hplay)
  | some x =>
    obtain ⟨timestampText, lengthText⟩ := x
    simp only
    cases stoll timestampText with
    | error e => exact not_dangling_of_playing hplay
    | ok timestamp =>
      cases stoul lengthText with
      | error e => exact not_dangling_of_playing hplay
      | ok length =>
        simp only
        split
        · exact not_dangling_of_playing hplay
        · exact not_dangling_of_playing hplay

/-- Whatever `read_next_frame` finds, it goes on playing or closes the file. -/
theorem not_dangling_readNextFrame (hplay : p.isPlaying = true) :
    ¬(p.readNextFrame P).self.Dangling := by
  unfold PlaybackController.readNextFrame
  split
  · exact not_dangling_of_playing hplay
  · simp only
    split
    · exact not_dangling_stopPlayback (by exact hplay)
    · exact not_dangling_readFrame hplay _ _

theorem not_dangling_startPlayback : ¬(p.startPlayback P).self.Dangling := by
  unfold PlaybackController.startPlayback
  cases ho : p.playbackFile.isOpen with
  | false =>
    rw [Bool.not_false, if_pos rfl]
    exact fun h => nomatch ho.symm.trans h.2
  | true =>
    rw [Bool.not_true, if_neg Bool.false_ne_true]
    split
    · next hplay => exact not_dangling_of_playing hplay
    · exact not_dangling_readNextFrame (by rfl)

theorem resumePlayback_dangling : (p.resumePlayback P).self.Dangling ↔ p.Dangling := by
  unfold PlaybackController.resumePlayback
  cases hplay : p.isPlaying with
  | false => rw [Bool.false_and, if_neg Bool.false_ne_true]
  | true =>
    refine iff_of_false ?_ (not_dangling_of_playing hplay)
    split
    · exact not_dangling_readNextFrame (by rfl)
    · exact not_dangling_of_playing hplay

theorem handler_dangling (k : Nat) (c : Timer.Completion) :
    (p.handler P k c).self.Dangling ↔ p.Dangling := by
  unfold PlaybackController.handler PlaybackController.onTimer
  split
  · next h =>
    exact iff_of_false (not_dangling_readNextFrame h.2.1) (not_dangling_of_playing h.2.1)
  · exact Iff.rfl

theorem pausePlayback_dangling : p.pausePlayback.Dangling ↔ p.Dangling := by
  unfold PlaybackController.pausePlayback
  split
  · exact Iff.rfl
  · exact Iff.rfl

/-! ## What a load leaves open -/

theorem readMetadata_isOpen (fuel : Nat) (f : IFStream) (line : Bytes) (info : RecordingInfo) :
    (readMetadata fuel f line info).1.isOpen = f.isOpen := by
  induction fuel generalizing f line info with
  | zero => rfl
  | succ fuel ih =>
    have hget := f.getline_isOpen line
    rcases hg : f.getline line with ⟨f', line'⟩
    rw [hg] at hget
    simp only [readMetadata, hg]
    split
    · exact hget
    · cases metadataLine info line' with
      | error e => exact hget
      | ok info' => exact (ih f' line' info').trans hget

theorem skipToFrames_isOpen (fuel : Nat) (f : IFStream) (line : Bytes) :
    (skipToFrames fuel f line).isOpen = f.isOpen := by
  induction fuel generalizing f line with
  | zero => rfl
  | succ fuel ih =>
    have hget := f.getline_isOpen line
    rcases hg : f.getline line with ⟨f', line'⟩
    rw [hg] at hget
    simp only [skipToFrames, hg]
    split
    · exact hget
    · exact (ih f' line').trans hget

theorem seekBeg_isOpen (f : IFStream) : f.seekBeg.isOpen = f.isOpen := by
  unfold IFStream.seekBeg
  split <;> rfl

theorem seekEnd_isOpen (f : IFStream) : f.seekEnd.isOpen = f.isOpen := by
  unfold IFStream.seekEnd
  split <;> rfl

/-- A load leaves its file open exactly if it does not return `false`. -/
theorem loadRecording_dangling (filename : Bytes) (content : Option Bytes) :
    (p.loadRecording filename content).1.Dangling ↔
      (p.loadRecording filename content).2 ≠ .ok false := by
  have hplay := stopPlayback_isPlaying p
  unfold PlaybackController.loadRecording
  simp only
  cases ho : (p.stopPlayback.playbackFile.open' content).isOpen with
  | false =>
    rw [Bool.not_false, if_pos rfl]
    exact iff_of_false (fun h => nomatch ho.symm.trans h.2) fun h => h rfl
  | true =>
    rw [Bool.not_true, if_neg Bool.false_ne_true]
    have hget := (p.stopPlayback.playbackFile.open' content).getline_isOpen []
    rcases hg : (p.stopPlayback.playbackFile.open' content).getline [] with ⟨f, header⟩
    rw [hg] at hget
    have hf : f.isOpen = true := hget.trans ho
    simp only
    split
    · refine iff_of_false (fun h => ?_) fun h => h rfl
      cases (close_isOpen hf).symm.trans h.2
    · have hmeta := readMetadata_isOpen (f.rest.length + 1) f [] { filename := filename }
      rcases hm : readMetadata (f.rest.length + 1) f [] { filename := filename } with ⟨f', info, e⟩
      rw [hm] at hmeta
      have hf' : f'.isOpen = true := hmeta.trans hf
      cases e with
      | some e => exact iff_of_true ⟨hplay, hf'⟩ nofun
      | none =>
        refine iff_of_true ⟨hplay, ?_⟩ nofun
        exact (skipToFrames_isOpen _ _ _).trans
          ((seekBeg_isOpen _).trans ((seekEnd_isOpen f').trans hf'))

end Calls

/-! ## Runs -/

section Runs

variable {P : Platform} {p p' : PlaybackController} {e : PlayerCall}

/-- The record says whether a file is open that nobody plays. -/
theorem leftOpen_step {b : Bool} (h : b = true ↔ p.Dangling) (hs : (player P).step p e = some p') :
    leftOpen p e p' b = true ↔ p'.Dangling := by
  cases e with
  | loadRecording filename content =>
    cases hs
    rw [loadRecording_dangling]
    exact bne_iff_ne
  | startPlayback =>
    cases hs
    exact iff_of_false Bool.false_ne_true not_dangling_startPlayback
  | pausePlayback =>
    cases hs
    exact h.trans pausePlayback_dangling.symm
  | resumePlayback =>
    cases hs
    exact h.trans resumePlayback_dangling.symm
  | stopPlayback =>
    cases hs
    exact h.trans stopPlayback_dangling.symm
  | setPlaybackSpeed speed =>
    cases hs
    exact h
  | expire =>
    obtain ⟨-, hs⟩ := Option.ite_none_right_eq_some.1 hs
    cases hs
    exact h
  | handler k =>
    obtain ⟨c, -, rfl⟩ := Option.map_eq_some_iff.1 hs
    exact h.trans (handler_dangling k c).symm

theorem leftOpen_run {es : List PlayerCall} (hrun : (player P).run {} es = some p) :
    (player P).record leftOpen {} es false = true ↔ p.Dangling := by
  have hinit : false = true ↔ ({} : PlaybackController).Dangling :=
    iff_of_false Bool.false_ne_true fun h => nomatch h.2
  exact Machine.record_invariant (C := fun _ _ => True) (I := fun p b => b = true ↔ p.Dangling)
    (fun h _ hs => leftOpen_step h hs) hinit (.of_forall (fun _ _ => trivial) es {}) hrun

end Runs

/-! ## Loading by a player with a past -/

section Load

variable {P : Platform} {p : PlaybackController}

/-- Where no file has been left open, a load depends on the file alone. -/
theorem loadRecording_of_closed (filename d : Bytes) : ∃ f info r, ∀ p : PlaybackController,
    p.stopPlayback.playbackFile.isOpen = false →
      p.loadRecording filename (some d) = ({ p.stopPlayback with
        playbackFile := f
        currentRecordingInfo :=
          if r = .ok false then p.stopPlayback.currentRecordingInfo else info }, r) := by
  have hopen : ∀ p : PlaybackController, p.stopPlayback.playbackFile.isOpen = false →
      p.stopPlayback.playbackFile.open' (some d) = { data := d, rest := d, isOpen := true } := by
    intro p hclosed
    simp only [IFStream.open', hclosed, Bool.false_eq_true, ↓reduceIte]
  rcases hg : ({ data := d, rest := d, isOpen := true } : IFStream).getline [] with ⟨f, header⟩
  by_cases hh : header = lit "ASCII_STREAM_RECORD"
  · rcases hm : readMetadata (f.rest.length + 1) f [] { filename := filename } with ⟨f', info, e⟩
    cases e with
    | some e =>
      refine ⟨f', info, .error e, fun p hclosed => ?_⟩
      simp only [PlaybackController.loadRecording, hopen p hclosed, hg, hh, hm, Bool.not_true,
        Bool.false_eq_true, ne_eq, not_true_eq_false, reduceCtorEq, ↓reduceIte]
    | none =>
      refine ⟨skipToFrames (f'.seekEnd.seekBeg.rest.length + 1) f'.seekEnd.seekBeg [],
        { info with fileSize := (f'.seekEnd.tellg % 2 ^ 64).toNat }, .ok true,
        fun p hclosed => ?_⟩
      simp only [PlaybackController.loadRecording, hopen p hclosed, hg, hh, hm, Bool.not_true,
        Bool.false_eq_true, ne_eq, not_true_eq_false, Except.ok.injEq, Bool.true_eq_false,
        ↓reduceIte]
  · refine ⟨f.close, {}, .ok false, fun p hclosed => ?_⟩
    simp only [PlaybackController.loadRecording, hopen p hclosed, hg, hh, Bool.not_true,
      Bool.false_eq_true, ne_eq, not_false_eq_true, ↓reduceIte]

theorem stopPlayback_of_stopped {p : PlaybackController} (h : p.isPlaying = false) :
    p.stopPlayback = p := by
  simp only [PlaybackController.stopPlayback, h, Bool.false_eq_true, ↓reduceIte]

/-- **What the loader accepts.** -/
theorem loadRecording_cases (p : PlaybackController) (name : Bytes) (content : Option Bytes) :
    ¬Loadable p content ∧ (∃ p', p.loadRecording name content = (p', .ok false)) ∨
      Loadable p content ∧ ((∃ p' e, p.loadRecording name content = (p', .error e)) ∨
        ∃ p', p.loadRecording name content = (p', .ok true) ∧ p'.playbackFile.isOpen = true ∧
          p'.isPlaying = false) := by
  have hstopped := stopPlayback_isPlaying p
  cases ho : p.stopPlayback.playbackFile.isOpen with
  | true =>
    obtain ⟨f, hload, -⟩ := loadRecording_of_open ho name content
    have hno : ¬Loadable p content := by
      intro h
      have hclosed := h.closed
      rw [ho] at hclosed
      cases hclosed
    exact Or.inl ⟨hno, _, hload⟩
  | false =>
    cases content with
    | none =>
      have hload : p.loadRecording name none = ({ p.stopPlayback with
          playbackFile := { p.stopPlayback.playbackFile with fail := true } }, .ok false) := by
        simp only [PlaybackController.loadRecording, IFStream.open', ho, Bool.false_eq_true,
          ↓reduceIte, Bool.not_false]
      have hno : ¬Loadable p none := by
        intro h
        obtain ⟨d, hd, -⟩ := h.header
        cases hd
      exact Or.inl ⟨hno, _, hload⟩
    | some d =>
      by_cases hd : (splitLine d).1 = magic
      · refine Or.inr ⟨⟨ho, d, rfl, hd⟩, ?_⟩
        by_cases hm : ∃ r body, d = magic ++ newline :: r ∧ Metadata r body
        · obtain ⟨r, body, rfl, hm⟩ := hm
          obtain ⟨f, info, hload, hcur, -⟩ := loadRecording_of_metadata ho hm name
          exact Or.inr ⟨_, hload, hcur.isOpen, hstopped⟩
        · have hnone : ∀ r body, d = magic ++ newline :: r → ¬Metadata r body :=
            fun r body hd hmeta => hm ⟨r, body, hd, hmeta⟩
          rcases loadRecording_stray ho hd hnone name with herr | ⟨f, info, hload, hopen, -⟩
          · exact Or.inl herr
          · exact Or.inr ⟨_, hload, hopen, hstopped⟩
      · obtain ⟨f, hload, -⟩ := loadRecording_of_header_ne ho hd name
        have hno : ¬Loadable p (some d) := by
          intro h
          obtain ⟨d', hd', hmagic⟩ := h.header
          cases hd'
          exact hd hmagic
        exact Or.inl ⟨hno, _, hload⟩

theorem loadsAsFresh_of_closed (hclosed : p.stopPlayback.playbackFile.isOpen = false)
    (filename d : Bytes) : LoadsAsFresh p filename (some d) := by
  obtain ⟨f, info, r, hload⟩ := loadRecording_of_closed filename d
  have hp := hload p hclosed
  have hfresh := hload {} rfl
  refine ⟨by rw [hp, hfresh], ?_, fun _ => by rw [hp, hfresh]⟩
  rw [hp, hfresh]
  rintro (rfl : r = .ok true)
  rfl

/-- What is refused has no result but `false`. -/
theorem loadsAsFresh_of_refused {filename : Bytes} {content : Option Bytes}
    (hp : (p.loadRecording filename content).2 = .ok false)
    (hfresh : (PlaybackController.loadRecording {} filename content).2 = .ok false) :
    LoadsAsFresh p filename content := by
  refine ⟨hp.trans hfresh.symm, fun h => ?_, fun h => ?_⟩
  · cases hp.symm.trans h
  · cases hp.symm.trans h

theorem loadable_iff {content : Option Bytes} :
    Loadable p content ↔ ¬p.Dangling ∧ HasHeader content := by
  rw [← stopPlayback_isOpen, Bool.not_eq_true]
  exact ⟨fun h => ⟨h.closed, h.header⟩, fun h => ⟨h.1, h.2⟩⟩

theorem loadRecording_refused {filename : Bytes} {content : Option Bytes}
    (h : ¬Loadable p content) : (p.loadRecording filename content).2 = .ok false := by
  rcases loadRecording_cases p filename content with ⟨-, p', hload⟩ | ⟨hyes, -⟩
  · rw [hload]
  · exact absurd hyes h

theorem loadRecording_not_refused {filename : Bytes} {content : Option Bytes}
    (h : Loadable p content) : (p.loadRecording filename content).2 ≠ .ok false := by
  rcases loadRecording_cases p filename content with
    ⟨hno, -⟩ | ⟨-, ⟨p', e, hload⟩ | ⟨p', hload, -, -⟩⟩
  · exact absurd h hno
  · rw [hload]
    exact nofun
  · rw [hload]
    exact nofun

theorem not_dangling_init : ¬({} : PlaybackController).Dangling := fun h => nomatch h.2

/-- A load is that of a new player exactly if no file has been left open, or the file it is given is
refused in any case. -/
theorem loadsAsFresh_iff (filename : Bytes) (content : Option Bytes) :
    LoadsAsFresh p filename content ↔ ¬p.Dangling ∨ ¬HasHeader content := by
  constructor
  · intro h
    by_contra hnot
    rw [not_or, not_not, not_not] at hnot
    obtain ⟨hdangling, hheader⟩ := hnot
    have hfresh : Loadable {} content := loadable_iff.2 ⟨not_dangling_init, hheader⟩
    have hrefused : ¬Loadable p content := fun hp => (loadable_iff.1 hp).1 hdangling
    exact loadRecording_not_refused hfresh (h.result.symm.trans (loadRecording_refused hrefused))
  · intro h
    by_cases hheader : HasHeader content
    · obtain ⟨d, rfl, hd⟩ := hheader
      have hclosed := h.resolve_right fun hno => hno ⟨d, rfl, hd⟩
      rw [← stopPlayback_isOpen, Bool.not_eq_true] at hclosed
      exact loadsAsFresh_of_closed hclosed filename d
    · refine loadsAsFresh_of_refused ?_ ?_
      · exact loadRecording_refused fun hp => hheader hp.header
      · exact loadRecording_refused fun hp => hheader hp.header

/-- **Loading after any calls** is loading by a new player exactly if the last load that has not
returned `false` has been followed by a start, or the file is refused in any case. -/
theorem loads_as_fresh_iff (P : Platform) (es : List PlayerCall) (p : PlaybackController)
    (hrun : (player P).run {} es = some p) (filename : Bytes) (content : Option Bytes) :
    LoadsAsFresh p filename content ↔
      (player P).record leftOpen {} es false = false ∨ ¬HasHeader content := by
  rw [loadsAsFresh_iff, ← leftOpen_run hrun, Bool.not_eq_true]

/-! ### A load that throws -/

/-- A recording whose `end_time` is no number. -/
def badEndTime : Bytes := lit "ASCII_STREAM_RECORD\nend_time:x\nframes:\n"

/-- A recording without frames. -/
def noFrames : Bytes := lit "ASCII_STREAM_RECORD\nframes:\n"

theorem loads_as_fresh_iff_badEndTime : ∃ p,
    (player x86_64).run {} [.loadRecording (lit "bad.asr") (some badEndTime)] = some p ∧
      (LoadsAsFresh p (lit "good.asr") (some noFrames) ↔
        (player x86_64).record leftOpen {}
            [.loadRecording (lit "bad.asr") (some badEndTime)] false = false ∨
          ¬HasHeader (some noFrames)) :=
  ⟨_, rfl, loads_as_fresh_iff x86_64 _ _ rfl _ _⟩

/-- After a load that threw, a good recording is refused. -/
theorem not_loads_as_fresh : ∃ p,
    (player x86_64).run {} [.loadRecording (lit "bad.asr") (some badEndTime)] = some p ∧
      (p.loadRecording (lit "good.asr") (some noFrames)).2 = .ok false ∧
      (PlaybackController.loadRecording {} (lit "good.asr") (some noFrames)).2 = .ok true ∧
      ¬LoadsAsFresh p (lit "good.asr") (some noFrames) := by
  have hrefused : ((PlaybackController.loadRecording {} (lit "bad.asr")
      (some badEndTime)).1.loadRecording (lit "good.asr") (some noFrames)).2 = .ok false := by
    decide +kernel
  have hfresh : (PlaybackController.loadRecording {} (lit "good.asr") (some noFrames)).2 =
      .ok true := by
    decide +kernel
  refine ⟨_, rfl, hrefused, hfresh, fun h => ?_⟩
  cases hrefused.symm.trans (h.result.trans hfresh)

end Load

end AsciiStreamer
