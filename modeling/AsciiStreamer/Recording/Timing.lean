import Mathlib.Algebra.BigOperators.Intervals
import AsciiStreamer.Recording.Commands

/-!
# The timing of a playback

`read_next_frame` delivers a frame and then waits for the time that has passed between the frame
before and this one. So every gap of the recording is waited for one frame late
(`playFor_clock`), and the recorded timing is kept only where there are no gaps
(`timing_kept_iff`).
-/

namespace AsciiStreamer

open Cxx

/-! ## The property -/

/-- The delay of the wait that `read_next_frame` sets behind the frame `k`. -/
def delayAfter (P : Platform) (p : PlaybackController) (k : Nat) : Int :=
  (playFor P p k).self.playbackTimer.pending.getD 0

/-- The delays before a frame add up to its time in the recording, and each of them is the time to
the next frame. -/
structure TimingKept (P : Platform) (p : PlaybackController) (fs : List (Int × Bytes)) : Prop where
  before : ∀ k (hk : k < fs.length), ∑ i ∈ Finset.range k, delayAfter P p i = fs[k].1 - fs[0].1
  between : ∀ k (hk : k + 1 < fs.length),
    (playFor P p k).self.playbackTimer.pending = some (fs[k + 1].1 - fs[k].1)

/-! ## The clock of the player -/

/-- The delay behind the frame `k`, with the timestamps of the frames: nothing behind the first
one, and then the gap in front of the frame. -/
def lateDelay (P : Platform) (speed : Rat) (fs : List (Int × Bytes)) : Nat → Int
  | 0 => castInt P (((0 : Int) : Rat) / speed)
  | k + 1 => castInt P (toInt64 ((fs[k + 1]?.map Prod.fst).getD 0 -
      (fs[k]?.map Prod.fst).getD 0) / speed)

/-- `k + 1` frames have been delivered, the last of them with this timestamp. -/
structure Ticking (p : PlaybackController) (speed : Rat) (k : Nat) (timestamp delay : Int) :
    Prop where
  playbackSpeed : p.playbackSpeed = speed
  currentFrame : p.currentFrame = k + 1
  nextFrameTime : p.nextFrameTime = timestamp
  pending : p.playbackTimer.pending = some delay

section Clock

variable {P : Platform} {p : PlaybackController} {l : List Bytes} {fs : List (Int × Bytes)}

/-- What reading a frame does to the clock. -/
theorem Ready.ticking {t : Int} {b : Bytes} (h : Ready P p l ((t, b) :: fs)) :
    Ticking (p.readNextFrame P).self p.playbackSpeed p.currentFrame t (p.nextDelay P t) := by
  obtain ⟨s, hcur, hs⟩ := h.cursor
  obtain ⟨f, s', heq, -, -, -⟩ := readNextFrame_cons h.isPlaying h.isPaused hcur hs
  rw [heq]
  exact ⟨rfl, rfl, rfl, rfl⟩

/-- **The clock of a playback**: behind every frame but the first it waits for the gap in front of
the frame. -/
theorem playFor_clock (hplay : p.isPlaying = false) {s : Bytes} (hcur : Cursor p.playbackFile s)
    (hs : Frames P s fs) (k : Nat) (hk : k < fs.length) :
    Ticking (playFor P p k).self p.playbackSpeed k fs[k].1 (lateDelay P p.playbackSpeed fs k) := by
  induction k with
  | zero =>
    obtain ⟨⟨t, b⟩, rest, rfl⟩ := List.exists_cons_of_length_pos hk
    have hready : Ready P { p with
        frameCallback := some []
        isPlaying := true
        isPaused := false
        currentFrame := 0
        nextFrameTime := 0 } [] ((t, b) :: rest) := ⟨rfl, rfl, rfl, s, hcur, hs⟩
    have hclock := hready.ticking
    rw [← startPlayback_eq hplay hcur.isOpen] at hclock
    exact hclock
  | succ k ih =>
    have hk' : k < fs.length := Nat.lt_of_succ_lt hk
    obtain ⟨hspeed, hframe, htime, hpend⟩ := ih hk'
    obtain ⟨hexn, ⟨-, hwait⟩ | ⟨hle, -⟩⟩ := playFor_frames hplay hcur hs k
    · obtain ⟨t, hfire, -⟩ := fire_of_waiting (P := P) hwait.isPlaying hwait.isPaused hwait.pending
      have hstep : playFor P p (k + 1) = fire P (playFor P p k).self := after_succ hexn
      have hdrop : fs.drop (k + 1) = fs[k + 1] :: fs.drop (k + 1 + 1) :=
        List.drop_eq_getElem_cons hk
      have hready := hwait.toReady.of_timer t
      rw [hdrop] at hready
      have hclock : Ticking (playFor P p (k + 1)).self (playFor P p k).self.playbackSpeed
          (playFor P p k).self.currentFrame fs[k + 1].1
          ((playFor P p k).self.nextDelay P fs[k + 1].1) := by
        rw [hstep, hfire]
        exact hready.ticking
      -- the player still remembers the timestamp of the frame before
      have hdelay : (playFor P p k).self.nextDelay P fs[k + 1].1 =
          lateDelay P p.playbackSpeed fs (k + 1) := by
        simp only [PlaybackController.nextDelay, hframe, Nat.succ_pos, ↓reduceIte, htime, hspeed,
          lateDelay, List.getElem?_eq_getElem hk, List.getElem?_eq_getElem hk', Option.map_some,
          Option.getD_some, gt_iff_lt]
      rw [hdelay, hspeed, hframe] at hclock
      exact hclock
    · omega

/-! ## Speed 1 -/

theorem castInt_int {z : Int} (hmin : INT_MIN ≤ z) (hmax : z ≤ INT_MAX) :
    castInt P ((z : Rat) / 1) = z := by
  have hz : (z : Rat) / 1 = (z : Rat) := div_one _
  simp only [castInt, hz, Rat.num_intCast, Rat.den_intCast, Nat.cast_one, Int.tdiv_one, hmin, hmax,
    and_self, ↓reduceIte]

theorem toInt64_of_bounds {z : Int} (hmin : LLONG_MIN ≤ z) (hmax : z ≤ LLONG_MAX) :
    toInt64 z = z := by
  simp only [LLONG_MIN, LLONG_MAX, toInt64] at *
  omega

theorem lateDelay_zero : lateDelay P 1 fs 0 = 0 := castInt_int (by decide) (by decide)

theorem lateDelay_succ {k : Nat} (hk : k + 1 < fs.length) (hmono : fs[k].1 ≤ fs[k + 1].1)
    (hint : fs[k + 1].1 - fs[k].1 ≤ INT_MAX) :
    lateDelay P 1 fs (k + 1) = fs[k + 1].1 - fs[k].1 := by
  have hmin : INT_MIN ≤ fs[k + 1].1 - fs[k].1 := by
    have hneg : INT_MIN ≤ 0 := by decide
    omega
  have hk' : k < fs.length := Nat.lt_of_succ_lt hk
  have hexact : toInt64 (fs[k + 1].1 - fs[k].1) = fs[k + 1].1 - fs[k].1 :=
    toInt64_of_bounds (Int.le_trans (by decide) hmin) (Int.le_trans hint (by decide))
  simp only [lateDelay, List.getElem?_eq_getElem hk, List.getElem?_eq_getElem hk',
    Option.map_some, Option.getD_some, hexact, castInt_int hmin hint]

end Clock

/-! ## Where the timing is kept -/

section Timing

variable {P : Platform} {p q : PlaybackController} {r body name : Bytes} {fs : List (Int × Bytes)}

/-- What a successful load leaves: the player idle, with the cursor at the frames. -/
theorem loaded_at_frames (hm : Metadata r body)
    (hload : q.loadRecording name (some (magic ++ newline :: r)) = (p, .ok true)) :
    p.isPlaying = false ∧ Cursor p.playbackFile body := by
  cases ho : q.stopPlayback.playbackFile.isOpen with
  | true =>
    obtain ⟨f, hfalse, -⟩ := loadRecording_of_open ho name (some (magic ++ newline :: r))
    rw [hfalse] at hload
    cases hload
  | false =>
    obtain ⟨f, info, htrue, hcur, -⟩ := loadRecording_of_metadata ho hm name
    rw [htrue, Prod.mk.injEq] at hload
    obtain ⟨rfl, -⟩ := hload
    exact ⟨stopPlayback_isPlaying q, hcur⟩

/-- **The recorded timing is kept** where all the frames of the recording carry the same time, and
nowhere else: every gap is waited for behind the frame that follows it. -/
theorem timing_kept_iff (P : Platform) {q p : PlaybackController} {r body name : Bytes}
    {fs : List (Int × Bytes)} (hm : Metadata r body) (hf : Frames P body fs)
    (hmono : ∀ k (hk : k + 1 < fs.length), fs[k].1 ≤ fs[k + 1].1)
    (hint : ∀ k (hk : k + 1 < fs.length), fs[k + 1].1 - fs[k].1 ≤ INT_MAX)
    (hload : q.loadRecording name (some (magic ++ newline :: r)) = (p, .ok true))
    (hspeed : p.playbackSpeed = 1) :
    TimingKept P p fs ↔ ∀ k (hk : k + 1 < fs.length), fs[k + 1].1 = fs[k].1 := by
  obtain ⟨hplay, hcur⟩ := loaded_at_frames hm hload
  have clock : ∀ k (hk : k < fs.length),
      (playFor P p k).self.playbackTimer.pending = some (lateDelay P 1 fs k) := by
    intro k hk
    have hpending := (playFor_clock hplay hcur hf k hk).pending
    rwa [hspeed] at hpending
  constructor
  · intro h k
    -- the gap behind the frame `k` is the one that was there in front of it
    induction k with
    | zero =>
      intro hk
      have hgap := (clock 0 (Nat.lt_of_succ_lt hk)).symm.trans (h.between 0 hk)
      rw [Option.some.injEq, lateDelay_zero] at hgap
      omega
    | succ k ih =>
      intro hk
      have hk' := Nat.lt_of_succ_lt hk
      have hgap := (clock (k + 1) hk').symm.trans (h.between (k + 1) hk)
      rw [Option.some.injEq, lateDelay_succ hk' (hmono k hk') (hint k hk')] at hgap
      have hprev := ih hk'
      omega
  · intro h
    have still : ∀ k (hk : k < fs.length), lateDelay P 1 fs k = 0 := by
      intro k hk
      cases k with
      | zero => exact lateDelay_zero
      | succ k =>
        rw [lateDelay_succ hk (hmono k hk) (hint k hk), h k hk]
        omega
    have same : ∀ k (hk : k < fs.length) (hpos : 0 < fs.length), fs[k].1 = fs[0].1 := by
      intro k
      induction k with
      | zero => exact fun _ _ => rfl
      | succ k ih => exact fun hk hpos => (h k hk).trans (ih (Nat.lt_of_succ_lt hk) hpos)
    refine ⟨fun k hk => ?_, fun k hk => ?_⟩
    · rw [same k hk (Nat.zero_lt_of_lt hk), Int.sub_self]
      refine Finset.sum_eq_zero fun i hi => ?_
      have hi' : i < fs.length := Nat.lt_trans (Finset.mem_range.1 hi) hk
      rw [delayAfter, clock i hi', still i hi']
      rfl
    · rw [clock k (Nat.lt_of_succ_lt hk), still k (Nat.lt_of_succ_lt hk), h k hk, Int.sub_self]

/-! ### A recording with a gap -/

/-- Two frames, a tenth of a second apart. -/
def gapFrames : List (Int × Bytes) := [(0, lit "a"), (100, lit "b")]

def gapRecording : Bytes :=
  lit "ASCII_STREAM_RECORD\nframes:\nframe:0:1\na\nframe:100:1\nb\n"

theorem frames_gapFrames :
    Frames x86_64 (lit "frame:0:1\na\nframe:100:1\nb\n") gapFrames := by
  have htext : lit "frame:0:1\na\nframe:100:1\nb\n" = lit "frame:0:1" ++ newline :: (lit "a" ++
      newline :: (lit "frame:100:1" ++ newline :: (lit "b" ++ [newline]))) := by decide
  have hzero : frameHeader (lit "frame:0:1") = some (lit "0", lit "1") := by decide
  have hhundred : frameHeader (lit "frame:100:1") = some (lit "100", lit "1") := by decide
  have hsecond : Frames x86_64 (lit "frame:100:1" ++ newline :: (lit "b" ++ [newline]))
      [(100, lit "b")] :=
    .frame (by decide) hhundred rfl rfl (by decide) (.nil x86_64)
  rw [htext]
  exact .frame (by decide) hzero rfl rfl (by decide) hsecond

theorem gapRecording_eq : gapRecording = magic ++ newline ::
    (lit "frames:" ++ newline :: lit "frame:0:1\na\nframe:100:1\nb\n") := by
  decide

theorem load_gapRecording : ∃ p,
    PlaybackController.loadRecording {} (lit "gap.asr") (some gapRecording) = (p, .ok true) ∧
      p.playbackSpeed = 1 := by
  rw [gapRecording_eq]
  obtain ⟨f, info, hload, -, -⟩ := loadRecording_of_metadata (p := {}) rfl
    (.frames (lit "frame:0:1\na\nframe:100:1\nb\n")) (lit "gap.asr")
  exact ⟨_, hload, rfl⟩

theorem timing_kept_iff_gapRecording : ∃ p,
    PlaybackController.loadRecording {} (lit "gap.asr") (some gapRecording) = (p, .ok true) ∧
      (TimingKept x86_64 p gapFrames ↔
        ∀ k (hk : k + 1 < gapFrames.length), gapFrames[k + 1].1 = gapFrames[k].1) := by
  obtain ⟨p, hload, hspeed⟩ := load_gapRecording
  have hzero : ∀ k, k + 1 < gapFrames.length → k = 0 := fun k hk => by simpa [gapFrames] using hk
  refine ⟨p, hload, ?_⟩
  rw [gapRecording_eq] at hload
  refine timing_kept_iff x86_64 (.frames _) frames_gapFrames ?_ ?_ hload hspeed
  · intro k hk
    obtain rfl := hzero k hk
    exact (by decide : (0 : Int) ≤ 100)
  · intro k hk
    obtain rfl := hzero k hk
    exact (by decide : (100 - 0 : Int) ≤ INT_MAX)

/-- The player does not wait at all between the two frames. -/
theorem timing_lost : ∃ p,
    PlaybackController.loadRecording {} (lit "gap.asr") (some gapRecording) = (p, .ok true) ∧
      (playFor x86_64 p 0).self.playbackTimer.pending = some 0 ∧
      ¬TimingKept x86_64 p gapFrames := by
  obtain ⟨p, hload, hspeed⟩ := load_gapRecording
  obtain ⟨hplay, hcur⟩ := loaded_at_frames (.frames _) (gapRecording_eq ▸ hload)
  have hclock := (playFor_clock hplay hcur frames_gapFrames 0 (Nat.succ_pos 1)).pending
  rw [hspeed, lateDelay_zero] at hclock
  refine ⟨p, hload, hclock, fun h => ?_⟩
  have hgap := hclock.symm.trans (h.between 0 (Nat.lt_add_one 1))
  cases hgap

end Timing

end AsciiStreamer
