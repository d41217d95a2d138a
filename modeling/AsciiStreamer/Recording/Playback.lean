import AsciiStreamer.Recording.Format

/-!
# Playing a file to its end

`playFor P p n` is `start_playback` followed by the first `n` timer callbacks, each run as soon as
its wait completes. On a frame section the player delivers exactly its records and stops
(`playFor_frames`); anywhere else it throws or gets stuck (`stuck_of_stray`). The files that
playback survives are therefore exactly the `Playable` ones (`survives_iff`).
-/

namespace AsciiStreamer

open Cxx

/-! ## Timer callbacks -/

/-- The pending wait completes and its handler runs. -/
def fire (P : Platform) (p : PlaybackController) : Outcome :=
  match p.playbackTimer.pending with
  | none => { self := p }
  | some _ =>
    { p with playbackTimer := p.playbackTimer.expire }.handler P p.playbackTimer.queued.length
      .success

/-- The first `n` timer callbacks after `o`. An exception ends the event loop. -/
def Outcome.after (P : Platform) (o : Outcome) : Nat → Outcome
  | 0 => o
  | n + 1 => match (o.after P n).exn with
    | some _ => o.after P n
    | none => fire P (o.after P n).self

def playFor (P : Platform) (p : PlaybackController) (n : Nat) : Outcome :=
  (p.startPlayback P).after P n

section Fire

variable {P : Platform} {p : PlaybackController}

theorem after_succ {o : Outcome} {n : Nat} (h : (o.after P n).exn = none) :
    o.after P (n + 1) = fire P (o.after P n).self := by
  simp only [Outcome.after, h]

theorem after_add_one {o : Outcome} (h : o.exn = none) (n : Nat) :
    o.after P (n + 1) = (fire P o.self).after P n := by
  induction n with
  | zero =>
    rw [after_succ (by exact h)]
    rfl
  | succ n ih =>
    simp only [Outcome.after] at ih ⊢
    rw [ih]

theorem fire_pending (h : p.playbackTimer.pending.isSome = true) :
    ∃ t, fire P p = { p with playbackTimer := t }.onTimer P .success ∧ t.pending = none := by
  obtain ⟨d, hd⟩ := Option.isSome_iff_exists.1 h
  refine ⟨p.playbackTimer.expire.take p.playbackTimer.queued.length, ?_, ?_⟩
  · simp only [fire, hd, PlaybackController.handler]
  · simp [Timer.expire, Timer.complete, hd, Timer.take]

theorem fire_none (h : p.playbackTimer.pending = none) : fire P p = { self := p } := by
  simp only [fire, h]

end Fire

/-! ## A frame section -/

/-- The player is about to read the frames `fs`, having delivered `l`. -/
structure Ready (P : Platform) (p : PlaybackController) (l : List Bytes)
    (fs : List (Int × Bytes)) : Prop where
  isPlaying : p.isPlaying = true
  isPaused : p.isPaused = false
  delivered : p.frameCallback = some l
  cursor : ∃ s, Cursor p.playbackFile s ∧ Frames P s fs

/-- The player waits for its timer with the frames `fs` to go. -/
structure Waiting (P : Platform) (p : PlaybackController) (l : List Bytes)
    (fs : List (Int × Bytes)) : Prop extends Ready P p l fs where
  pending : p.playbackTimer.pending.isSome = true

/-- The player has stopped after delivering `l`. -/
structure Stopped (p : PlaybackController) (l : List Bytes) : Prop where
  isPlaying : p.isPlaying = false
  closed : p.playbackFile.isOpen = false
  pending : p.playbackTimer.pending = none
  delivered : p.frameCallback = some l

/-- What one read leaves: the last one stops the player, any other delivers a frame. -/
def Advanced (P : Platform) (p : PlaybackController) (l : List Bytes) :
    List (Int × Bytes) → Prop
  | [] => Stopped p l
  | (_, b) :: fs => Waiting P p (l ++ [b]) fs

section Play

variable {P : Platform} {p : PlaybackController} {l : List Bytes} {fs : List (Int × Bytes)}

theorem Ready.of_timer (h : Ready P p l fs) (t : Timer) :
    Ready P { p with playbackTimer := t } l fs :=
  ⟨h.isPlaying, h.isPaused, h.delivered, h.cursor⟩

theorem Ready.read (h : Ready P p l fs) :
    (p.readNextFrame P).exn = none ∧ Advanced P (p.readNextFrame P).self l fs := by
  obtain ⟨s, hcur, hs⟩ := h.cursor
  cases fs with
  | nil =>
    obtain ⟨f, heq, ho, -⟩ := readNextFrame_nil h.isPlaying h.isPaused hcur hs
    rw [heq]
    exact ⟨rfl, rfl, ho, Timer.cancel_pending _, h.delivered⟩
  | cons e fs =>
    obtain ⟨t, b⟩ := e
    obtain ⟨f, s', heq, hcur', hs', -⟩ := readNextFrame_cons h.isPlaying h.isPaused hcur hs
    rw [heq]
    refine ⟨rfl, ⟨h.isPlaying, h.isPaused, ?_, s', hcur', hs'⟩, rfl⟩
    simp [h.delivered]

theorem Waiting.fire (h : Waiting P p l fs) :
    (fire P p).exn = none ∧ Advanced P (fire P p).self l fs := by
  obtain ⟨t, heq, -⟩ := fire_pending (P := P) h.pending
  have hread := (h.toReady.of_timer t).read
  have hon : { p with playbackTimer := t }.onTimer P .success =
      { p with playbackTimer := t }.readNextFrame P :=
    if_pos ⟨rfl, h.isPlaying, h.isPaused⟩
  rw [heq, hon]
  exact hread

theorem startPlayback_eq (hplay : p.isPlaying = false) (ho : p.playbackFile.isOpen = true) :
    p.startPlayback P = { p with
      frameCallback := some []
      isPlaying := true
      isPaused := false
      currentFrame := 0
      nextFrameTime := 0 }.readNextFrame P := by
  simp only [PlaybackController.startPlayback, ho, hplay, Bool.not_true, Bool.false_eq_true,
    ↓reduceIte]

theorem take_concat {α : Type} {fs : List α} {n : Nat} {b : α} {bs : List α}
    (h : fs.drop n = b :: bs) : fs.take n ++ [b] = fs.take (n + 1) := by
  rw [List.take_add, h]
  rfl

/-- **Playing a frame section**: after `n` callbacks the first `n + 1` frames have been delivered
in order, and once there are no more the player has stopped. -/
theorem playFor_frames (hplay : p.isPlaying = false) {s : Bytes} (hcur : Cursor p.playbackFile s)
    (hs : Frames P s fs) (n : Nat) : (playFor P p n).exn = none ∧
      (n < fs.length ∧ Waiting P (playFor P p n).self ((fs.map Prod.snd).take (n + 1))
          (fs.drop (n + 1)) ∨
        fs.length ≤ n ∧ Stopped (playFor P p n).self (fs.map Prod.snd)) := by
  induction n with
  | zero =>
    have hready : Ready P { p with
        frameCallback := some []
        isPlaying := true
        isPaused := false
        currentFrame := 0
        nextFrameTime := 0 } [] fs := ⟨rfl, rfl, rfl, s, hcur, hs⟩
    have hread := hready.read
    rw [← startPlayback_eq hplay hcur.isOpen] at hread
    refine ⟨hread.1, ?_⟩
    cases fs with
    | nil => exact Or.inr ⟨Nat.le_refl 0, hread.2⟩
    | cons e fs => exact Or.inl ⟨Nat.succ_pos _, hread.2⟩
  | succ n ih =>
    obtain ⟨hexn, hcase⟩ := ih
    have hstep : playFor P p (n + 1) = fire P (playFor P p n).self := after_succ hexn
    rw [hstep]
    rcases hcase with ⟨hn, hwait⟩ | ⟨hn, hstop⟩
    · have hfire := hwait.fire
      refine ⟨hfire.1, ?_⟩
      cases hd : fs.drop (n + 1) with
      | nil =>
        have hle : fs.length ≤ n + 1 := by
          have := congrArg List.length hd
          simp only [List.length_drop, List.length_nil] at this
          omega
        rw [hd] at hfire
        rw [List.take_of_length_le (by simpa using hle)] at hfire
        exact Or.inr ⟨hle, hfire.2⟩
      | cons e es =>
        obtain ⟨t, b⟩ := e
        have hlt : n + 1 < fs.length := by
          have := congrArg List.length hd
          simp only [List.length_drop, List.length_cons] at this
          omega
        have htake : (fs.map Prod.snd).take (n + 1) ++ [b] =
            (fs.map Prod.snd).take (n + 1 + 1) := by
          refine take_concat (?_ : _ = b :: es.map Prod.snd)
          rw [← List.map_drop, hd]
          rfl
        have hdrop : fs.drop (n + 1 + 1) = es := by
          rw [← List.drop_drop, hd]
          rfl
        rw [hd] at hfire
        rw [← htake, hdrop]
        exact Or.inl ⟨hlt, hfire.2⟩
    · rw [fire_none hstop.pending]
      exact ⟨rfl, Or.inr ⟨Nat.le_succ_of_le hn, hstop⟩⟩

end Play

/-! ## Anything else -/

section Stray

variable {P : Platform} {p : PlaybackController}

/-- At some point after `o` an exception has escaped, or no timer is pending and the player still
counts as playing. -/
def Stuck (P : Platform) (o : Outcome) : Prop :=
  ∃ n, (o.after P n).exn ≠ none ∨
    (o.after P n).self.playbackTimer.pending = none ∧ (o.after P n).self.isPlaying = true

theorem Stuck.of_fire {o : Outcome} (h : o.exn = none) (hs : Stuck P (fire P o.self)) :
    Stuck P o := by
  obtain ⟨n, hn⟩ := hs
  exact ⟨n + 1, by rwa [after_add_one h]⟩

theorem fire_of_waiting (hplay : p.isPlaying = true) (hpause : p.isPaused = false)
    (hpend : p.playbackTimer.pending.isSome = true) :
    ∃ t, fire P p = { p with playbackTimer := t }.readNextFrame P ∧ t.pending = none := by
  obtain ⟨t, heq, hnone⟩ := fire_pending (P := P) hpend
  exact ⟨t, heq.trans (if_pos ⟨rfl, hplay, hpause⟩), hnone⟩

/-- From a place that is no frame section the player does not reach its stopped state. -/
theorem stuck_of_stray {s : Bytes} (hplay : p.isPlaying = true) (hpause : p.isPaused = false)
    (hc : Cursor p.playbackFile s) (hs : ∀ fs, ¬Frames P s fs) : Stuck P (p.readNextFrame P) := by
  induction hn : s.length using Nat.strong_induction_on generalizing s p with
  | _ n ih =>
    -- what the pending callback does once the frame is delivered
    have next : ∀ {p' : PlaybackController} {frame : Option Bytes},
        p.readNextFrame P = { self := p', frame := frame } → Delivering p' →
        (∀ t, t.pending = none → Stuck P ({ p' with playbackTimer := t }.readNextFrame P)) →
        Stuck P (p.readNextFrame P) := by
      intro p' frame heq hdel hstuck
      obtain ⟨t, hfire, hnone⟩ := fire_of_waiting (P := P) hdel.isPlaying hdel.isPaused hdel.pending
      rw [heq]
      refine Stuck.of_fire rfl ?_
      change Stuck P (fire P p')
      rw [hfire]
      exact hstuck t hnone
    cases readNextFrame_stray hplay hpause hc hs with
    | throws p' e heq =>
      rw [heq]
      exact ⟨0, Or.inl (by simp [Outcome.after])⟩
    | fails p' frame heq hdel hfail =>
      refine next heq hdel fun t hnone => ?_
      rw [readNextFrame_of_fail (by exact hfail)]
      exact ⟨0, Or.inr ⟨hnone, hdel.isPlaying⟩⟩
    | strays p' frame s' heq hdel hlt hc' hs' =>
      refine next heq hdel fun t _ => ?_
      exact ih s'.length (hn ▸ hlt) (by exact hdel.isPlaying) (by exact hdel.isPaused)
        (by exact hc') hs' rfl

end Stray

/-! ## Which files playback survives -/

section Survival

/-- Loading the file, starting playback and all the timer callbacks it leads to throw nothing,
and once no timer is pending the player has stopped and closed its file. -/
structure Survives (P : Platform) (content name : Bytes) : Prop where
  load : ∀ p e, PlaybackController.loadRecording {} name (some content) ≠ (p, .error e)
  refused : ∀ p, PlaybackController.loadRecording {} name (some content) = (p, .ok false) →
    p.isPlaying = false ∧ p.playbackFile.isOpen = false
  play : ∀ p, PlaybackController.loadRecording {} name (some content) = (p, .ok true) →
    ∀ n, (playFor P p n).exn = none
  ends : ∀ p, PlaybackController.loadRecording {} name (some content) = (p, .ok true) →
    ∃ n, (playFor P p n).self.playbackTimer.pending = none
  final : ∀ p, PlaybackController.loadRecording {} name (some content) = (p, .ok true) →
    ∀ n, (playFor P p n).self.playbackTimer.pending = none →
      (playFor P p n).self.isPlaying = false ∧
        (playFor P p n).self.playbackFile.isOpen = false

/-- The first line is another one, or behind it stand metadata and a frame section. -/
def Playable (P : Platform) (content : Bytes) : Prop :=
  (splitLine content).1 ≠ magic ∨
    ∃ r body fs, content = magic ++ newline :: r ∧ Metadata r body ∧ Frames P body fs

variable {P : Platform} {content name : Bytes}

theorem survives_of_refused (h : (splitLine content).1 ≠ magic) : Survives P content name := by
  obtain ⟨f, hload, ho⟩ := loadRecording_of_header_ne (p := {}) rfl h name
  refine ⟨?_, ?_, ?_, ?_, ?_⟩ <;> intro p <;> rw [hload] <;> intro hp
  · exact fun heq => by simp at heq
  · rw [Prod.mk.injEq] at hp
    obtain ⟨rfl, -⟩ := hp
    exact ⟨rfl, ho⟩
  all_goals simp at hp

theorem survives_of_frames {r body : Bytes} {fs : List (Int × Bytes)} (hm : Metadata r body)
    (hf : Frames P body fs) : Survives P (magic ++ newline :: r) name := by
  obtain ⟨f, info, hload, hcur, -⟩ := loadRecording_of_metadata (p := {}) rfl hm name
  have hplay : ∀ p, PlaybackController.loadRecording {} name (some (magic ++ newline :: r)) =
      (p, .ok true) → p.isPlaying = false ∧ p.playbackFile = f := by
    intro p hp
    rw [hload, Prod.mk.injEq] at hp
    obtain ⟨rfl, -⟩ := hp
    exact ⟨rfl, rfl⟩
  refine ⟨?_, ?_, ?_, ?_, ?_⟩ <;> intro p
  · intro e heq
    rw [hload] at heq
    simp at heq
  · intro heq
    rw [hload] at heq
    simp at heq
  · intro hp n
    obtain ⟨h1, h2⟩ := hplay p hp
    exact (playFor_frames h1 (h2 ▸ hcur) hf n).1
  · intro hp
    obtain ⟨h1, h2⟩ := hplay p hp
    rcases (playFor_frames h1 (h2 ▸ hcur) hf fs.length).2 with ⟨hlt, -⟩ | ⟨-, hstop⟩
    · exact absurd hlt (Nat.lt_irrefl _)
    · exact ⟨fs.length, hstop.pending⟩
  · intro hp n hnone
    obtain ⟨h1, h2⟩ := hplay p hp
    rcases (playFor_frames h1 (h2 ▸ hcur) hf n).2 with ⟨-, hwait⟩ | ⟨-, hstop⟩
    · have := hwait.pending
      rw [hnone] at this
      cases this
    · exact ⟨hstop.isPlaying, hstop.closed⟩

theorem not_survives_of_stuck {p : PlaybackController}
    (hload : PlaybackController.loadRecording {} name (some content) = (p, .ok true))
    (hstuck : Stuck P (p.startPlayback P)) : ¬Survives P content name := by
  intro h
  obtain ⟨n, hexn | ⟨hnone, hplay⟩⟩ := hstuck
  · exact hexn (h.play p hload n)
  · have hstop : (playFor P p n).self.isPlaying = false := (h.final p hload n hnone).1
    rw [playFor, hplay] at hstop
    cases hstop

/-- **Which files playback survives**: exactly the playable ones. -/
theorem survives_iff (P : Platform) (content name : Bytes) :
    Survives P content name ↔ Playable P content := by
  constructor
  · intro h
    by_cases hd : (splitLine content).1 = magic
    · right
      by_cases hm : ∃ r body, content = magic ++ newline :: r ∧ Metadata r body
      · obtain ⟨r, body, rfl, hm⟩ := hm
        by_cases hf : ∃ fs, Frames P body fs
        · obtain ⟨fs, hf⟩ := hf
          exact ⟨r, body, fs, rfl, hm, hf⟩
        · exfalso
          push Not at hf
          obtain ⟨f, info, hload, hcur, -⟩ := loadRecording_of_metadata (p := {}) rfl hm name
          refine not_survives_of_stuck hload ?_ h
          rw [startPlayback_eq (by rfl) (by exact hcur.isOpen)]
          exact stuck_of_stray rfl rfl hcur hf
      · exfalso
        push Not at hm
        rcases loadRecording_stray (p := {}) rfl hd hm name with
          ⟨p', e, hload⟩ | ⟨f, info, hload, ho, hfail⟩
        · exact h.load p' e hload
        · refine not_survives_of_stuck hload ?_ h
          rw [startPlayback_eq (by rfl) (by exact ho), readNextFrame_of_fail (by exact hfail)]
          exact ⟨0, Or.inr ⟨rfl, rfl⟩⟩
    · exact Or.inl hd
  · rintro (hd | ⟨r, body, fs, rfl, hm, hf⟩)
    · exact survives_of_refused hd
    · exact survives_of_frames hm hf

/-- A timer callback throws on a file whose second frame header holds no number. -/
theorem not_survives_bad_header : ¬Survives x86_64
    (lit "ASCII_STREAM_RECORD\nframes:\nframe:0:1\na\nframe:x:1\nb\n") (lit "bad.asr") := by
  intro h
  have hthrow := h.play _ rfl 1
  exact absurd hthrow (by decide)

end Survival

end AsciiStreamer
