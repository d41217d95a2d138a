import AsciiStreamer.Recording.RoundTrip

/-!
# The player under commands

`playback` is the player with everything that can happen to it: the six commands, the completion of
its timer's wait, and the completion handlers the event loop has queued, which run whenever the loop
gets to them, also after a `cancel` or a restart. `Coherent` ties the cursor in the file, the two
flags, the pending wait and the queued handlers together; every event keeps it
(`Coherent.step`), so no interleaving loses, repeats or reorders a frame or stalls the playback
(`playback_commands`).
-/

namespace AsciiStreamer

open Cxx

/-- The player, the recording it has loaded, and the one `start_playback` last started. -/
structure PlaybackRun where
  player : PlaybackController := {}
  loaded : Option Recording := none
  started : Option Recording := none
  escaped : Option Exn := none

inductive PlaybackEvent
  | load (r : Recording)
  | start
  | pause
  | resume
  | setSpeed (speed : Rat)
  | stop
  | expire
  | handler (k : Nat)
  deriving DecidableEq, Repr

/-- The commands that end a playback by themselves. -/
def PlaybackEvent.ends : PlaybackEvent → Bool
  | .load _ | .stop => true
  | _ => false

namespace PlaybackRun

def settle (s : PlaybackRun) (o : Outcome) : PlaybackRun :=
  { s with player := o.self, escaped := o.exn }

def load (s : PlaybackRun) (r : Recording) (content : Option Bytes) : PlaybackRun :=
  match s.player.loadRecording r.name content with
  | (p, .ok true) => { s with player := p, loaded := some r }
  | (p, .ok false) => { s with player := p }
  | (p, .error e) => { s with player := p, escaped := some e }

def start (P : Platform) (s : PlaybackRun) : PlaybackRun :=
  let begins := s.player.playbackFile.isOpen && !s.player.isPlaying
  { s.settle (s.player.startPlayback P) with
    started := if begins then s.loaded else s.started }

def handler (P : Platform) (s : PlaybackRun) (k : Nat) (c : Timer.Completion) : PlaybackRun :=
  s.settle (s.player.handler P k c)

end PlaybackRun

/-- The player on the disk the recorder leaves after `es`, loading the recordings completed there.
An exception that escapes ends the run. -/
def playback (P : Platform) (es : List (RecordEvent P)) : Machine PlaybackRun PlaybackEvent where
  step s e :=
    if s.escaped.isSome then none
    else match e with
      | .load r =>
        if r ∈ (Journal.run es).completed then
          some (s.load r ((Recorder.run {} es).disk r.name))
        else none
      | .start => some (s.start P)
      | .pause => some { s with player := s.player.pausePlayback }
      | .resume => some (s.settle (s.player.resumePlayback P))
      | .setSpeed speed => some { s with player := s.player.setPlaybackSpeed speed }
      | .stop => some { s with player := s.player.stopPlayback }
      | .expire =>
        if s.player.playbackTimer.pending.isSome then
          some { s with player :=
            { s.player with playbackTimer := s.player.playbackTimer.expire } }
        else none
      | .handler k => (s.player.playbackTimer.queued[k]?).map (s.handler P k)

/-! ## The invariant -/

/-- The file stands at the frames `fs`. -/
def AtFrames (P : Platform) (f : IFStream) (fs : List Bytes) : Prop :=
  ∃ x es, Cursor f x ∧ Frames P x es ∧ es.map Prod.snd = fs

structure Coherent (P : Platform) (done : List Recording) (s : PlaybackRun) : Prop where
  escaped : s.escaped = none
  /-- What has been delivered and what the file still holds are the recording. -/
  playing : s.player.isPlaying = true → ∃ r l fs, s.started = some r ∧
    s.player.frameCallback = some l ∧ AtFrames P s.player.playbackFile fs ∧ r.frames = l ++ fs
  live : s.player.isPlaying = true → s.player.isPaused = false → s.player.playbackTimer.Live
  /-- A file that is open and not playing has just been loaded. -/
  loaded : s.player.isPlaying = false → s.player.playbackFile.isOpen = true → ∃ r ∈ done,
    s.loaded = some r ∧ AtFrames P s.player.playbackFile r.frames
  started : ∀ r, s.started = some r → r ∈ done ∧ s.player.delivered <+: r.frames

/-- A playback that is over by itself has delivered the whole recording. -/
def Finished (s : PlaybackRun) : Prop :=
  ∃ r, s.started = some r ∧ s.player.delivered = r.frames

section Keeps

variable {P : Platform} {done : List Recording} {s : PlaybackRun}

theorem coherent_init : Coherent P done {} :=
  ⟨rfl, nofun, nofun, nofun, nofun⟩

/-- One read of a playing player: it delivers the next frame and waits again, or it has
finished. -/
theorem coherent_read {p : PlaybackController} {r : Recording} {l fs : List Bytes}
    {m : Option Recording} (hr : r ∈ done) (hplay : p.isPlaying = true) (hpause : p.isPaused = false)
    (hl : p.frameCallback = some l) (hfs : AtFrames P p.playbackFile fs)
    (hframes : r.frames = l ++ fs) :
    Coherent P done ⟨(p.readNextFrame P).self, m, some r, (p.readNextFrame P).exn⟩ ∧
      ((p.readNextFrame P).self.isPlaying = false →
        (p.readNextFrame P).self.delivered = r.frames) := by
  obtain ⟨x, es, hcur, hx, hes⟩ := hfs
  have hready : Ready P p l es := ⟨hplay, hpause, hl, x, hcur, hx⟩
  obtain ⟨hexn, hadv⟩ := hready.read
  generalize p.readNextFrame P = o at hexn hadv ⊢
  cases es with
  | nil =>
    have hstop : Stopped o.self l := hadv
    have hall : r.frames = l := by rw [hframes, ← hes]; simp
    have hdel : o.self.delivered = r.frames := by
      rw [PlaybackController.delivered, hstop.delivered, hall]; rfl
    refine ⟨⟨hexn, ?_, ?_, ?_, ?_⟩, fun _ => hdel⟩
    · intro h
      rw [show o.self.isPlaying = false from hstop.isPlaying] at h
      cases h
    · intro h
      rw [show o.self.isPlaying = false from hstop.isPlaying] at h
      cases h
    · intro _ h
      rw [show o.self.playbackFile.isOpen = false from hstop.closed] at h
      cases h
    · rintro r' ⟨⟩
      exact ⟨hr, hdel ▸ List.prefix_refl _⟩
  | cons e es =>
    obtain ⟨t, b⟩ := e
    have hwait : Waiting P o.self (l ++ [b]) es := hadv
    have hall : r.frames = (l ++ [b]) ++ es.map Prod.snd := by rw [hframes, ← hes]; simp
    have hnot : o.self.isPlaying ≠ false := by rw [hwait.isPlaying]; decide
    refine ⟨⟨hexn, ?_, ?_, ?_, ?_⟩, fun h => absurd h hnot⟩
    · intro _
      obtain ⟨x', hc', hx'⟩ := hwait.cursor
      exact ⟨r, l ++ [b], es.map Prod.snd, rfl, hwait.delivered, ⟨x', es, hc', hx', rfl⟩, hall⟩
    · intro _ _
      exact Or.inl hwait.pending
    · intro h
      exact absurd h hnot
    · rintro r' ⟨⟩
      refine ⟨hr, ?_⟩
      change o.self.delivered <+: r.frames
      rw [PlaybackController.delivered, hwait.delivered, hall]
      exact List.prefix_append _ _

/-- What a playing player that is not paused does next. -/
theorem Coherent.read (h : Coherent P done s) (t : Timer) {b : Bool} (hb : b = false)
    (hplay : s.player.isPlaying = true) :
    let o := { s.player with isPaused := b, playbackTimer := t }.readNextFrame P
    Coherent P done (s.settle o) ∧ (o.self.isPlaying = false → Finished (s.settle o)) := by
  obtain ⟨r, l, fs, hr, hl, hfs, hframes⟩ := h.playing hplay
  obtain ⟨hc, hfin⟩ := coherent_read (m := s.loaded)
    (p := { s.player with isPaused := b, playbackTimer := t }) (h.started r hr).1 hplay hb hl
    hfs hframes
  intro o
  have hs : s.settle o = ⟨o.self, s.loaded, some r, o.exn⟩ := by
    rw [PlaybackRun.settle, ← hr]
  rw [hs]
  exact ⟨hc, fun hstop => ⟨r, rfl, hfin hstop⟩⟩

/-- Anything that leaves the file, the callback and the flags alone and keeps the timer live. -/
theorem Coherent.of_timer (h : Coherent P done s) {t : Timer}
    (hlive : s.player.isPlaying = true → s.player.isPaused = false → t.Live) :
    Coherent P done { s with player := { s.player with playbackTimer := t } } :=
  ⟨h.escaped, h.playing, hlive, h.loaded, h.started⟩

theorem Coherent.expire (h : Coherent P done s) :
    Coherent P done { s with player :=
      { s.player with playbackTimer := s.player.playbackTimer.expire } } :=
  h.of_timer fun hplay hpause => Timer.live_expire (h.live hplay hpause)

theorem Coherent.setPlaybackSpeed (h : Coherent P done s) (speed : Rat) :
    Coherent P done { s with player := s.player.setPlaybackSpeed speed } :=
  ⟨h.escaped, h.playing, h.live, h.loaded, h.started⟩

theorem Coherent.pausePlayback (h : Coherent P done s) :
    Coherent P done { s with player := s.player.pausePlayback } := by
  unfold PlaybackController.pausePlayback
  split
  · exact ⟨h.escaped, h.playing, (fun _ hpause => nomatch hpause), h.loaded, h.started⟩
  · exact h

theorem Coherent.stopPlayback (h : Coherent P done s) :
    Coherent P done { s with player := s.player.stopPlayback } := by
  unfold PlaybackController.stopPlayback
  split
  · refine ⟨h.escaped, nofun, nofun, ?_, h.started⟩
    intro _ hopen
    -- the file has been closed
    exfalso
    revert hopen
    change (if s.player.playbackFile.isOpen then s.player.playbackFile.close
      else s.player.playbackFile).isOpen = true → False
    by_cases ho : s.player.playbackFile.isOpen
    · rw [if_pos ho, close_isOpen ho]
      exact nofun
    · rw [if_neg ho]
      exact ho
  · exact h

theorem Coherent.resumePlayback (h : Coherent P done s) :
    Coherent P done (s.settle (s.player.resumePlayback P)) ∧ (s.player.isPlaying = true →
      (s.player.resumePlayback P).self.isPlaying = false →
        Finished (s.settle (s.player.resumePlayback P))) := by
  unfold PlaybackController.resumePlayback
  split
  · next hboth =>
    have hplay : s.player.isPlaying = true := (Bool.and_eq_true_iff.1 hboth).1
    obtain ⟨hc, hfin⟩ := h.read s.player.playbackTimer (b := false) rfl hplay
    exact ⟨hc, fun _ => hfin⟩
  · refine ⟨⟨rfl, h.playing, h.live, h.loaded, h.started⟩, fun hplay hstop => ?_⟩
    rw [show s.player.isPlaying = false from hstop] at hplay
    cases hplay

/-- A handler does not trust its own completion: it looks at both flags, so a stale one reads the
next frame like any other. -/
theorem Coherent.handler (h : Coherent P done s) {k : Nat} {c : Timer.Completion}
    (hk : s.player.playbackTimer.queued[k]? = some c) :
    Coherent P done (s.handler P k c) ∧ (s.player.isPlaying = true →
      (s.handler P k c).player.isPlaying = false → Finished (s.handler P k c)) := by
  unfold PlaybackRun.handler PlaybackController.handler PlaybackController.onTimer
  split
  · next hcond =>
    obtain ⟨-, hplay, hpause⟩ := hcond
    obtain ⟨hc, hfin⟩ := h.read (s.player.playbackTimer.take k) (b := s.player.isPaused) hpause hplay
    exact ⟨hc, fun _ => hfin⟩
  · next hcond =>
    refine ⟨⟨rfl, h.playing, ?_, h.loaded, h.started⟩, fun hplay hstop => ?_⟩
    · intro hplay hpause
      cases c with
      | success => exact absurd ⟨rfl, hplay, hpause⟩ hcond
      | aborted => exact Timer.live_take (h.live hplay hpause) hk
    · rw [show s.player.isPlaying = false from hstop] at hplay
      cases hplay

theorem Coherent.start (h : Coherent P done s) :
    Coherent P done (s.start P) ∧ (s.player.isPlaying = true →
      (s.start P).player.isPlaying = false → Finished (s.start P)) := by
  unfold PlaybackRun.start PlaybackController.startPlayback
  by_cases ho : s.player.playbackFile.isOpen
  · by_cases hplay : s.player.isPlaying
    · simp only [ho, hplay, Bool.not_true, Bool.false_eq_true, ↓reduceIte, Bool.and_false]
      refine ⟨⟨rfl, h.playing, h.live, h.loaded, h.started⟩, fun _ hstop => ?_⟩
      rw [show s.player.isPlaying = false from hstop] at hplay
      cases hplay
    · rw [Bool.not_eq_true] at hplay
      obtain ⟨r, hr, hload, hfs⟩ := h.loaded hplay ho
      simp only [ho, hplay, Bool.not_true, Bool.false_eq_true, ↓reduceIte, Bool.not_false,
        Bool.and_self]
      obtain ⟨hc, -⟩ := coherent_read (m := s.loaded) (p := { s.player with
        frameCallback := some []
        isPlaying := true
        isPaused := false
        currentFrame := 0
        nextFrameTime := 0 }) hr rfl rfl rfl hfs (List.nil_append _).symm
      rw [hload]
      exact ⟨hc, nofun⟩
  · rw [Bool.not_eq_true] at ho
    simp only [ho, Bool.not_false, ↓reduceIte, Bool.false_and, Bool.false_eq_true]
    refine ⟨⟨rfl, h.playing, h.live, h.loaded, h.started⟩, fun hplay hstop => ?_⟩
    rw [show s.player.isPlaying = false from hstop] at hplay
    cases hplay

/-! ## Loading -/

/-- `open` on a stream that is open already fails, and the load closes it. -/
theorem loadRecording_of_open {p : PlaybackController}
    (ho : p.stopPlayback.playbackFile.isOpen = true) (name : Bytes) (content : Option Bytes) :
    ∃ f, p.loadRecording name content = ({ p.stopPlayback with playbackFile := f }, .ok false) ∧
      f.isOpen = false := by
  have hopen : (p.stopPlayback.playbackFile.open' content).isOpen = true := by
    simp [IFStream.open', ho]
  have hgood : (p.stopPlayback.playbackFile.open' content).good = false := by
    simp [IFStream.open', ho, IFStream.good]
  have hne : ([] : Bytes) ≠ lit "ASCII_STREAM_RECORD" := by decide
  refine ⟨{ p.stopPlayback.playbackFile.open' content with fail := true }.close, ?_,
    close_isOpen (by exact hopen)⟩
  simp only [PlaybackController.loadRecording, hopen, IFStream.getline_of_not_good hgood,
    Bool.not_true, Bool.false_eq_true, ↓reduceIte, ne_eq, hne, not_false_eq_true]

theorem stopPlayback_isPlaying (p : PlaybackController) : p.stopPlayback.isPlaying = false := by
  unfold PlaybackController.stopPlayback
  split
  · rfl
  · next h => simpa using h

theorem stopPlayback_delivered (p : PlaybackController) :
    p.stopPlayback.delivered = p.delivered := by
  unfold PlaybackController.stopPlayback
  split <;> rfl

theorem Coherent.load (h : Coherent P done s) {r : Recording} (hr : r ∈ done) {content : Bytes}
    (hc : Completed P content r.frames) : Coherent P done (s.load r (some content)) := by
  have hplay : s.player.stopPlayback.isPlaying ≠ true := by
    rw [stopPlayback_isPlaying]; decide
  have hdel : ∀ r, s.started = some r →
      r ∈ done ∧ s.player.stopPlayback.delivered <+: r.frames := by
    rw [stopPlayback_delivered]
    exact h.started
  by_cases ho : s.player.stopPlayback.playbackFile.isOpen
  · obtain ⟨f, hload, hclosed⟩ := loadRecording_of_open ho r.name (some content)
    simp only [PlaybackRun.load, hload]
    refine ⟨h.escaped, fun hp => absurd hp hplay, fun hp => absurd hp hplay, ?_, hdel⟩
    intro _ hopen
    rw [show f.isOpen = true from hopen] at hclosed
    cases hclosed
  · rw [Bool.not_eq_true] at ho
    obtain ⟨f, info, x, es, hload, hcur, hx, hframes, -⟩ := hc.load ho r.name
    simp only [PlaybackRun.load, hload]
    exact ⟨h.escaped, fun hp => absurd hp hplay, fun hp => absurd hp hplay,
      fun _ _ => ⟨r, hr, rfl, x, es, hcur, hx, hframes⟩, hdel⟩

/-! ## Every event -/

variable {es : List (RecordEvent P)} {s' : PlaybackRun} {e : PlaybackEvent}

theorem Coherent.step (hown : (Journal.run es).opened.Nodup)
    (h : Coherent P (Journal.run es).completed s) (hs : (playback P es).step s e = some s') :
    Coherent P (Journal.run es).completed s' ∧ (e.ends = false → s.player.isPlaying = true →
      s'.player.isPlaying = false → Finished s') := by
  have hesc : s.escaped.isSome = false := by rw [h.escaped]; rfl
  simp only [playback, hesc, Bool.false_eq_true, ↓reduceIte] at hs
  have hsame : ∀ {t : PlaybackController}, t.isPlaying = s.player.isPlaying →
      s.player.isPlaying = true → t.isPlaying = false → Finished { s with player := t } := by
    intro t heq hplay hstop
    rw [heq, hplay] at hstop
    cases hstop
  cases e with
  | load r =>
    simp only [Option.ite_none_right_eq_some, Option.some.injEq] at hs
    obtain ⟨hr, rfl⟩ := hs
    obtain ⟨content, hdisk, hc⟩ := (Recorder.run_tracks es hown).completed r hr
    rw [hdisk]
    exact ⟨h.load hr hc, nofun⟩
  | start =>
    obtain rfl := Option.some.inj hs
    exact ⟨h.start.1, fun _ => h.start.2⟩
  | pause =>
    obtain rfl := Option.some.inj hs
    refine ⟨h.pausePlayback, fun _ => hsame ?_⟩
    unfold PlaybackController.pausePlayback
    split <;> rfl
  | resume =>
    obtain rfl := Option.some.inj hs
    exact ⟨h.resumePlayback.1, fun _ => h.resumePlayback.2⟩
  | setSpeed speed =>
    obtain rfl := Option.some.inj hs
    exact ⟨h.setPlaybackSpeed speed, fun _ => hsame rfl⟩
  | stop =>
    obtain rfl := Option.some.inj hs
    exact ⟨h.stopPlayback, nofun⟩
  | expire =>
    simp only [Option.ite_none_right_eq_some, Option.some.injEq] at hs
    obtain ⟨-, rfl⟩ := hs
    exact ⟨h.expire, fun _ => hsame rfl⟩
  | handler k =>
    obtain ⟨c, hk, rfl⟩ := Option.map_eq_some_iff.1 hs
    exact ⟨(h.handler hk).1, fun _ => (h.handler hk).2⟩

/-- **Playback under any interleaving of commands, expiries and late handlers**: what has been
delivered is a prefix of the recording, a playback that is not paused has a wait or a handler
outstanding that will go on with it, and one that ends by itself has delivered every frame. -/
theorem playback_commands (P : Platform) (es : List (RecordEvent P))
    (hown : (Journal.run es).opened.Nodup) (cs : List PlaybackEvent) (s : PlaybackRun)
    (hrun : (playback P es).run {} cs = some s) :
    s.escaped = none ∧
      (∀ r, s.started = some r →
        r ∈ (Journal.run es).completed ∧ s.player.delivered <+: r.frames) ∧
      (s.player.isPlaying = true → s.started.isSome = true) ∧
      (s.player.isPlaying = true → s.player.isPaused = false → s.player.playbackTimer.Live) ∧
      ∀ e s', (playback P es).step s e = some s' → e.ends = false →
        s.player.isPlaying = true → s'.player.isPlaying = false →
          ∃ r, s'.started = some r ∧ s'.player.delivered = r.frames := by
  have h : Coherent P (Journal.run es).completed s :=
    Machine.run_invariant (fun hi hs => (hi.step hown hs).1) cs coherent_init hrun
  refine ⟨h.escaped, h.started, ?_, h.live, fun e s' hs => (h.step hown hs).2⟩
  intro hplay
  obtain ⟨r, -, -, hr, -⟩ := h.playing hplay
  rw [hr]
  rfl

/-- A paused and resumed playback whose first wait completed just before the pause. -/
def lateHandler : List PlaybackEvent :=
  [.load { name := recordingName noon, frames := [lit "frames:\nframe:1:2\nend_time:3\n", []] },
    .start, .expire, .pause, .resume, .handler 0]

theorem playback_commands_lateHandler :
    ∃ s, (playback x86_64 shortRun).run {} lateHandler = some s ∧ s.escaped = none ∧
      (∀ r, s.started = some r →
        r ∈ (Journal.run shortRun).completed ∧ s.player.delivered <+: r.frames) ∧
      (s.player.isPlaying = true → s.started.isSome = true) ∧
      (s.player.isPlaying = true → s.player.isPaused = false → s.player.playbackTimer.Live) ∧
      ∀ e s', (playback x86_64 shortRun).step s e = some s' → e.ends = false →
        s.player.isPlaying = true → s'.player.isPlaying = false →
          ∃ r, s'.started = some r ∧ s'.player.delivered = r.frames := by
  have hruns : ((playback x86_64 shortRun).run {} lateHandler).isSome = true := by decide +kernel
  obtain ⟨s, hs⟩ := Option.isSome_iff_exists.1 hruns
  exact ⟨s, hs, playback_commands x86_64 shortRun (by decide) lateHandler s hs⟩

end Keeps

end AsciiStreamer
