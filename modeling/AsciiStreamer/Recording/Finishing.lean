import AsciiStreamer.Lib.Liveness
import AsciiStreamer.Recording.Commands

/-!
# Every playback comes to its end

A playback goes on by a read at a time: of its timer's handler, or of a resume. `PlayStep` is what an
event does to a playback that it does not cut off. Where the event loop attends to the timer and no
pause lasts for ever, each read is followed by another one, and the last frame of the recording is
delivered (`every_frame_delivered`).
-/

namespace AsciiStreamer

open Cxx Machine

/-- The player plays the recording, and this many frames are still to be delivered. -/
structure Plays (P : Platform) (done : List Recording) (r : Recording) (k : Nat) (s : PlaybackRun) :
    Prop where
  coherent : Coherent P done s
  isPlaying : s.player.isPlaying = true
  started : s.started = some r
  left : s.player.delivered.length + k = r.frames.length

/-- The player has delivered the recording, and has stopped. -/
structure Played (r : Recording) (s : PlaybackRun) : Prop where
  isPlaying : s.player.isPlaying = false
  started : s.started = some r
  delivered : s.player.delivered = r.frames

/-- The timer's wait completes, or the loop runs one of its handlers. -/
def RunsTimer (_ : PlaybackRun) (e : PlaybackEvent) : Prop := e = .expire ∨ ∃ k, e = .handler k

/-- **What an event does to a playback that it does not cut off.** -/
inductive PlayStep (P : Platform) (done : List Recording) (r : Recording) (k : Nat)
    (s : PlaybackRun) (e : PlaybackEvent) (s' : PlaybackRun) : Prop
  | finishes (last : k = 0) (played : Played r s')
  | delivers (n : Nat) (fewer : k = n + 1) (plays : Plays P done r n s')
  | pauses (plays : Plays P done r k s') (before : s.player.isPaused = false)
      (after : s'.player.isPaused = true)
  | stays (plays : Plays P done r k s') (isPaused : s'.player.isPaused = s.player.isPaused)
      (outstanding : s'.player.playbackTimer.outstanding ≤ s.player.playbackTimer.outstanding)
      (fewer : RunsTimer s e →
        s'.player.playbackTimer.outstanding < s.player.playbackTimer.outstanding)

section Steps

variable {P : Platform} {done : List Recording} {r : Recording} {k : Nat} {s s' : PlaybackRun}
  {e : PlaybackEvent}

/-- The player reads: it delivers the next frame, or has delivered them all. -/
theorem Plays.read (h : Plays P done r k s) (t : Timer) {b : Bool} (hb : b = false) :
    PlayStep P done r k s e
      (s.settle ({ s.player with isPaused := b, playbackTimer := t }.readNextFrame P)) := by
  obtain ⟨r', l, fs, hr', hl, ⟨x, es, hcur, hx, hes⟩, hframes⟩ := h.coherent.playing h.isPlaying
  obtain rfl : r' = r := Option.some.inj (hr'.symm.trans h.started)
  have hdel : s.player.delivered = l := by rw [PlaybackController.delivered, hl]; rfl
  have hready : Ready P { s.player with isPaused := b, playbackTimer := t } l es :=
    ⟨h.isPlaying, hb, hl, x, hcur, hx⟩
  obtain ⟨hc, -⟩ := h.coherent.read t hb h.isPlaying
  obtain ⟨-, hadv⟩ := hready.read
  have hleft := h.left
  rw [hdel, hframes, List.length_append, ← hes, List.length_map] at hleft
  cases es with
  | nil =>
    have hstop : Stopped ({ s.player with isPaused := b, playbackTimer := t }.readNextFrame P).self
      l := hadv
    rw [List.map_nil] at hes
    rw [List.length_nil] at hleft
    refine .finishes (by omega) ⟨hstop.isPlaying, h.started, ?_⟩
    rw [hframes, ← hes, List.append_nil]
    exact congrArg (Option.getD · []) hstop.delivered
  | cons y es =>
    have hwait : Waiting P ({ s.player with isPaused := b, playbackTimer := t }.readNextFrame P).self
      (l ++ [y.2]) es := hadv
    have hdel' : ({ s.player with isPaused := b, playbackTimer := t }.readNextFrame P).self.delivered =
        l ++ [y.2] := congrArg (Option.getD · []) hwait.delivered
    rw [List.length_cons] at hleft
    refine .delivers es.length (by omega) ⟨hc, hwait.isPlaying, h.started, ?_⟩
    change ({ s.player with isPaused := b, playbackTimer := t }.readNextFrame P).self.delivered.length +
      es.length = r'.frames.length
    rw [hdel', hframes, ← hes, List.length_append, List.length_append, List.length_map,
      List.length_singleton, List.length_cons]
    omega

/-- An event that leaves the player where it is, but for its timer. -/
theorem Plays.of_timer (h : Plays P done r k s) {p : PlaybackController} {x : Option Exn}
    (hc : Coherent P done { s with player := p, escaped := x })
    (hplay : p.isPlaying = s.player.isPlaying) (hpause : p.isPaused = s.player.isPaused)
    (hdel : p.frameCallback = s.player.frameCallback)
    (hle : p.playbackTimer.outstanding ≤ s.player.playbackTimer.outstanding)
    (hlt : RunsTimer s e → p.playbackTimer.outstanding < s.player.playbackTimer.outstanding) :
    PlayStep P done r k s e { s with player := p, escaped := x } := by
  refine .stays ⟨hc, hplay.trans h.isPlaying, h.started, ?_⟩ hpause hle hlt
  have hsame : p.delivered = s.player.delivered := congrArg (Option.getD · []) hdel
  change p.delivered.length + k = r.frames.length
  rw [hsame]
  exact h.left

/-- And an event that does not run it. -/
theorem Plays.of_untimed (h : Plays P done r k s) {x : Option Exn}
    (hc : Coherent P done { s with escaped := x }) (hexpire : e ≠ .expire)
    (hhandler : ∀ i, e ≠ .handler i) : PlayStep P done r k s e { s with escaped := x } := by
  refine h.of_timer hc rfl rfl rfl (Nat.le_refl _) fun hrun => ?_
  rcases hrun with he | ⟨i, he⟩
  · exact absurd he hexpire
  · exact absurd he (hhandler i)

theorem playStep_of_step {es : List (RecordEvent P)} (hown : (Journal.run es).opened.Nodup)
    (h : Plays P (Journal.run es).completed r k s) (hends : e.ends = false)
    (hs : (playback P es).step s e = some s') :
    PlayStep P (Journal.run es).completed r k s e s' := by
  obtain ⟨hc, -⟩ := h.coherent.step hown hs
  have hesc : s.escaped.isSome = false := by rw [h.coherent.escaped]; rfl
  simp only [playback, hesc, Bool.false_eq_true, ↓reduceIte] at hs
  cases e with
  | load r' => cases hends
  | stop => cases hends
  | start =>
    obtain rfl := Option.some.inj hs
    have hself : s.start P = { s with player := s.player, escaped := none } := by
      cases ho : s.player.playbackFile.isOpen <;>
        simp only [PlaybackRun.start, PlaybackController.startPlayback, PlaybackRun.settle, ho,
          h.isPlaying, Bool.not_true, Bool.not_false, Bool.false_eq_true, Bool.and_false, ↓reduceIte]
    rw [hself] at hc ⊢
    exact h.of_untimed hc (by simp) (by simp)
  | pause =>
    obtain rfl := Option.some.inj hs
    cases hpause : s.player.isPaused with
    | true =>
      have hself : s.player.pausePlayback = s.player := by
        simp only [PlaybackController.pausePlayback, hpause, Bool.not_true, Bool.and_false,
          Bool.false_eq_true, ↓reduceIte]
      rw [hself] at hc ⊢
      exact h.of_untimed hc (by simp) (by simp)
    | false =>
      have hself : s.player.pausePlayback = { s.player with
          isPaused := true, playbackTimer := s.player.playbackTimer.cancel } := by
        simp only [PlaybackController.pausePlayback, hpause, h.isPlaying, Bool.not_false,
          Bool.and_self, ↓reduceIte]
      rw [hself] at hc ⊢
      exact .pauses ⟨hc, h.isPlaying, h.started, h.left⟩ hpause rfl
  | resume =>
    obtain rfl := Option.some.inj hs
    cases hpause : s.player.isPaused with
    | true =>
      have hself : s.player.resumePlayback P = { s.player with isPaused := false }.readNextFrame P := by
        simp only [PlaybackController.resumePlayback, hpause, h.isPlaying, Bool.and_self, ↓reduceIte]
      rw [hself]
      exact h.read s.player.playbackTimer rfl
    | false =>
      have hself : s.player.resumePlayback P = { self := s.player } := by
        simp only [PlaybackController.resumePlayback, hpause, Bool.and_false, Bool.false_eq_true,
          ↓reduceIte]
      rw [hself] at hc ⊢
      exact h.of_untimed hc (by simp) (by simp)
  | setSpeed speed =>
    obtain rfl := Option.some.inj hs
    exact h.of_timer hc rfl rfl rfl (Nat.le_refl _) (by simp [RunsTimer])
  | expire =>
    simp only [Option.ite_none_right_eq_some, Option.some.injEq] at hs
    obtain ⟨hpending, rfl⟩ := hs
    have hlt := Timer.outstanding_expire hpending
    exact h.of_timer hc rfl rfl rfl (Nat.le_of_lt hlt) fun _ => hlt
  | handler i =>
    obtain ⟨c, hi, rfl⟩ := Option.map_eq_some_iff.1 hs
    by_cases hreads : c = .success ∧ s.player.isPaused = false
    · obtain ⟨hc', hpause⟩ := hreads
      have hself : s.player.handler P i c =
          { s.player with playbackTimer := s.player.playbackTimer.take i }.readNextFrame P :=
        if_pos ⟨hc', h.isPlaying, hpause⟩
      rw [PlaybackRun.handler, hself]
      exact h.read (s.player.playbackTimer.take i) hpause
    · have hself : s.player.handler P i c =
          { self := { s.player with playbackTimer := s.player.playbackTimer.take i } } :=
        if_neg fun hcond => hreads ⟨hcond.1, hcond.2.2⟩
      have hlt := Timer.outstanding_take hi
      rw [PlaybackRun.handler, hself] at hc ⊢
      exact h.of_timer hc rfl rfl rfl (Nat.le_of_lt hlt) fun _ => hlt

end Steps

/-! ## Executions -/

section Executions

variable {P : Platform} {es : List (RecordEvent P)} {x : (playback P es).Execution}
  {r : Recording} {k : Nat}

theorem coherent_always (hown : (Journal.run es).opened.Nodup) (hinit : x.state 0 = {}) (n : Nat) :
    Coherent P (Journal.run es).completed (x.state n) := by
  induction n with
  | zero => exact hinit ▸ coherent_init
  | succ n ih => exact (ih.step hown (x.step n)).1

/-- A playback that is not paused gets on, or is paused. -/
theorem unpaused_leadsTo (hown : (Journal.run es).opened.Nodup)
    (hends : ∀ n, (x.state n).player.isPlaying = true → (x.event n).ends = false)
    (hfair : x.Fair (fun s => s.player.playbackTimer.pending.isSome = true ∨
      s.player.playbackTimer.queued ≠ []) RunsTimer) :
    x.LeadsTo (fun s => Plays P (Journal.run es).completed r k s ∧ s.player.isPaused = false)
      fun s => (Played r s ∨ ∃ n, k = n + 1 ∧ Plays P (Journal.run es).completed r n s) ∨
        Plays P (Journal.run es).completed r k s ∧ s.player.isPaused = true := by
  refine Execution.LeadsTo.of_fair (fun s => s.player.playbackTimer.outstanding)
    (hfair.mono fun n h => ?_) fun n h => ?_
  · exact (h.1.coherent.live h.1.isPlaying h.2).outstanding
  · cases playStep_of_step hown h.1 (hends n h.1.isPlaying) (x.step n) with
    | finishes last played => exact Or.inl (Or.inl (Or.inl played))
    | delivers m fewer plays => exact Or.inl (Or.inl (Or.inr ⟨m, fewer, plays⟩))
    | pauses plays before after => exact Or.inl (Or.inr ⟨plays, after⟩)
    | stays plays isPaused outstanding fewer =>
      exact Or.inr ⟨⟨plays, isPaused.trans h.2⟩, outstanding, fewer⟩

/-- A pause that ends ends with a read. -/
theorem paused_leadsTo (hown : (Journal.run es).opened.Nodup)
    (hends : ∀ n, (x.state n).player.isPlaying = true → (x.event n).ends = false)
    (hresumed : x.LeadsTo (·.player.isPaused = true) (·.player.isPaused = false)) :
    x.LeadsTo (fun s => Plays P (Journal.run es).completed r k s ∧ s.player.isPaused = true)
      fun s => Played r s ∨ ∃ n, k = n + 1 ∧ Plays P (Journal.run es).completed r n s := by
  intro n hn
  obtain ⟨m, hnm, hm⟩ := hresumed n hn.2
  have hover : ¬(Plays P (Journal.run es).completed r k (x.state m) ∧
      (x.state m).player.isPaused = true) := by
    rintro ⟨-, hpause⟩
    cases hm.symm.trans hpause
  obtain ⟨j, hnj, -, hj, hj'⟩ := Execution.exists_last (P := fun s =>
    Plays P (Journal.run es).completed r k s ∧ s.player.isPaused = true) hnm hn hover
  refine ⟨j + 1, Nat.le_succ_of_le hnj, ?_⟩
  cases playStep_of_step hown hj.1 (hends j hj.1.isPlaying) (x.step j) with
  | finishes last played => exact Or.inl played
  | delivers i fewer plays => exact Or.inr ⟨i, fewer, plays⟩
  | pauses plays before after => cases before.symm.trans hj.2
  | stays plays isPaused => exact absurd ⟨plays, isPaused.trans hj.2⟩ hj'

/-- Each read leaves fewer frames. -/
theorem read_leadsTo (hown : (Journal.run es).opened.Nodup)
    (hends : ∀ n, (x.state n).player.isPlaying = true → (x.event n).ends = false)
    (hfair : x.Fair (fun s => s.player.playbackTimer.pending.isSome = true ∨
      s.player.playbackTimer.queued ≠ []) RunsTimer)
    (hresumed : x.LeadsTo (·.player.isPaused = true) (·.player.isPaused = false)) :
    x.LeadsTo (Plays P (Journal.run es).completed r k) fun s =>
      Played r s ∨ ∃ n, k = n + 1 ∧ Plays P (Journal.run es).completed r n s := by
  have hpaused := paused_leadsTo (r := r) (k := k) hown hends hresumed
  have hunpaused := (unpaused_leadsTo (r := r) (k := k) hown hends hfair).trans
    ((Execution.LeadsTo.refl _).or hpaused)
  refine (Execution.LeadsTo.of_imp fun n h => ?_).trans (hunpaused.or hpaused)
  rcases Bool.eq_false_or_eq_true (x.state n).player.isPaused with hp | hp
  · exact Or.inr ⟨h, hp⟩
  · exact Or.inl ⟨h, hp⟩

theorem plays_leadsTo (hown : (Journal.run es).opened.Nodup)
    (hends : ∀ n, (x.state n).player.isPlaying = true → (x.event n).ends = false)
    (hfair : x.Fair (fun s => s.player.playbackTimer.pending.isSome = true ∨
      s.player.playbackTimer.queued ≠ []) RunsTimer)
    (hresumed : x.LeadsTo (·.player.isPaused = true) (·.player.isPaused = false)) (k : Nat) :
    x.LeadsTo (Plays P (Journal.run es).completed r k) (Played r) := by
  induction k with
  | zero =>
    refine (read_leadsTo hown hends hfair hresumed).trans (.of_imp fun n h => ?_)
    rcases h with h | ⟨m, hm, -⟩
    · exact h
    · cases hm
  | succ k ih =>
    refine (read_leadsTo hown hends hfair hresumed).trans
      ((Execution.LeadsTo.refl _).or fun n ⟨m, hm, hplays⟩ => ?_)
    cases hm
    exact ih n hplays

/-- **Every frame of a playback is delivered.** Where the event loop attends to the timer, no pause
lasts for ever and no load or stop cuts the playback off, the player delivers the whole recording,
byte for byte and in order, and then stops by itself. -/
theorem every_frame_delivered (P : Platform) (es : List (RecordEvent P))
    (hown : (Journal.run es).opened.Nodup) (x : (playback P es).Execution) (hinit : x.state 0 = {})
    (hfair : x.Fair (fun s => s.player.playbackTimer.pending.isSome = true ∨
      s.player.playbackTimer.queued ≠ []) RunsTimer)
    (hresumed : x.LeadsTo (·.player.isPaused = true) (·.player.isPaused = false))
    (n : Nat) (hplaying : (x.state n).player.isPlaying = true)
    (hends : ∀ m, n ≤ m → (x.state m).player.isPlaying = true → (x.event m).ends = false) :
    ∃ r ∈ (Journal.run es).completed, (x.state n).started = some r ∧ ∃ m, n ≤ m ∧
      (x.state m).started = some r ∧ (x.state m).player.isPlaying = false ∧
      (x.state m).player.delivered = r.frames := by
  have hcoherent := coherent_always hown hinit n
  obtain ⟨r, l, fs, hr, hl, -, hframes⟩ := hcoherent.playing hplaying
  have hdel : (x.state n).player.delivered = l := by rw [PlaybackController.delivered, hl]; rfl
  have hplays : Plays P (Journal.run es).completed r fs.length (x.state n) := by
    refine ⟨hcoherent, hplaying, hr, ?_⟩
    rw [hdel, hframes, List.length_append]
  obtain ⟨m, -, hm⟩ := plays_leadsTo hown (x := x.drop n) (fun k => hends (n + k) (Nat.le_add_right n k))
    (hfair.drop n) (hresumed.drop n) fs.length 0 hplays
  exact ⟨r, (hcoherent.started r hr).1, hr, n + m, Nat.le_add_right n m, hm.started, hm.isPlaying,
    hm.delivered⟩

/-! ### A playback that is resumed -/

/-- A recording of two frames is started and paused, ... -/
def pausedPlayback : List PlaybackEvent :=
  [.load { name := recordingName noon, frames := [lit "frames:\nframe:1:2\nend_time:3\n", []] },
    .start, .expire, .pause]

/-- ... and resumed, with the handler of its first wait still to come. -/
def resumedPlayback : List PlaybackEvent := [.resume, .handler 0, .handler 0]

theorem every_frame_delivered_resumed : ∃ x : (playback x86_64 shortRun).Execution,
    x.state 0 = {} ∧ ∃ n, (x.state n).player.isPlaying = true ∧ (x.state n).player.isPaused = true ∧
      ∃ r ∈ (Journal.run shortRun).completed, (x.state n).started = some r ∧ ∃ m, n ≤ m ∧
        (x.state m).started = some r ∧ (x.state m).player.isPlaying = false ∧
        (x.state m).player.delivered = r.frames := by
  have hfacts : ((((playback x86_64 shortRun).restrict fun s e => s.player.isPlaying = true →
      e.ends = false).run {} pausedPlayback).bind fun t => (((playback x86_64 shortRun).restrict
        fun s e => s.player.isPlaying = true → e.ends = false).run t resumedPlayback).map
          fun u => (t, u)).any (fun x => x.1.player.isPlaying && x.1.player.isPaused &&
            !x.2.player.isPlaying && !x.2.player.isPaused && !x.2.escaped.isSome &&
            x.2.player.playbackTimer == {}) = true := by decide +kernel
  obtain ⟨⟨t, u⟩, htu, hfacts⟩ := (Option.any_eq_true _ _).1 hfacts
  obtain ⟨t', hpaused, hresumed⟩ := Option.bind_eq_some_iff.1 htu
  obtain ⟨u', hresumed, heq⟩ := Option.map_eq_some_iff.1 hresumed
  cases heq
  simp only [Bool.and_eq_true, beq_iff_eq, Bool.not_eq_true'] at hfacts
  obtain ⟨⟨⟨⟨⟨hplaying, hpause⟩, hover⟩, hunpaused⟩, hescaped⟩, htimer⟩ := hfacts
  obtain ⟨hpausedC, hpaused⟩ := Machine.run_restrict.1 hpaused
  obtain ⟨hresumedC, hresumed⟩ := Machine.run_restrict.1 hresumed
  -- a player that has stopped can be paused for ever
  have hself : u.player.pausePlayback = u.player := by
    simp only [PlaybackController.pausePlayback, hover, Bool.false_and, Bool.false_eq_true, ↓reduceIte]
  have hagain : (playback x86_64 shortRun).step u .pause = some u := by
    simp only [playback, hescaped, Bool.false_eq_true, ↓reduceIte, hself]
  obtain ⟨x, hx, hxC, hstart, -, hend⟩ :=
    Execution.exists_settled hpaused hresumed hpausedC hresumedC hagain fun _ => rfl
  refine ⟨x, hx, pausedPlayback.length, hstart ▸ hplaying, hstart ▸ hpause, ?_⟩
  refine every_frame_delivered x86_64 shortRun (by decide) x hx (fun n hlasts => ?_) (fun n _ => ?_)
    _ (hstart ▸ hplaying) fun m _ => hxC m
  · obtain ⟨m, hnm, hm⟩ := hend n
    have hlast := hlasts m hnm
    rw [hm, htimer] at hlast
    rcases hlast with h | h
    · cases h
    · exact absurd rfl h
  · obtain ⟨m, hnm, hm⟩ := hend n
    exact ⟨m, hnm, hm ▸ hunpaused⟩

end Executions

end AsciiStreamer
