import Mathlib.Algebra.Order.Floor.Ring
import Mathlib.Data.Rat.Floor
import AsciiStreamer.Recording.History
import AsciiStreamer.Recording.Timing
import AsciiStreamer.Recording.Written

/-!
# The arithmetic of the delays

`read_next_frame` takes the difference of two timestamps in 64 bits, divides it by the speed and
casts the quotient to `int` before it makes milliseconds of it. On what the recorder writes the
difference always fits; the quotient does exactly where the gap in front of the frame is shorter than
2³¹ milliseconds of playback (`delays_fit_iff`), which is about 25 days at speed 1 and two and a half
at the slowest one.
-/

namespace AsciiStreamer

open Cxx

/-! ## The property -/

/-- Towards zero. -/
def trunc (q : Rat) : Int := q.num.tdiv q.den

namespace PlaybackController

/-- `delay_ms`, exactly. -/
def exactDelay (p : PlaybackController) (timestamp : Int) : Int :=
  if p.currentFrame > 0 then timestamp - p.nextFrameTime else 0

/-- The timestamp that `read_next_frame` computes a delay from, if it gets that far: it counts the
frame right behind the computation. -/
def readTimestamp (P : Platform) (p : PlaybackController) : Option Int :=
  let o := p.readNextFrame P
  if o.self.currentFrame = p.currentFrame then none else some o.self.nextFrameTime

/-- The object as a call finds it when it calls `read_next_frame`, if it does. -/
def reading (p : PlaybackController) : PlayerCall → Option PlaybackController
  | .startPlayback =>
    if p.playbackFile.isOpen = true ∧ p.isPlaying = false then
      some { p with
        frameCallback := some []
        isPlaying := true
        isPaused := false
        currentFrame := 0
        nextFrameTime := 0 }
    else none
  | .resumePlayback =>
    if p.isPlaying = true ∧ p.isPaused = true then some { p with isPaused := false } else none
  | .handler k =>
    if p.playbackTimer.queued[k]? = some .success ∧ p.isPlaying = true ∧ p.isPaused = false then
      some { p with playbackTimer := p.playbackTimer.take k }
    else none
  | _ => none

end PlaybackController

/-- The difference is a `long long`, and the quotient an `int` once it is truncated. -/
structure DelayFits (p : PlaybackController) (timestamp : Int) : Prop where
  difference : LLONG_MIN ≤ p.exactDelay timestamp ∧ p.exactDelay timestamp ≤ LLONG_MAX
  quotient : INT_MIN ≤ trunc (p.exactDelay timestamp / p.playbackSpeed) ∧
    trunc (p.exactDelay timestamp / p.playbackSpeed) ≤ INT_MAX

/-- The player loads nothing but what the recorder can write. -/
def LoadsWritten (P : Platform) : PlayerCall → Prop
  | .loadRecording _ (some d) => Written P d
  | _ => True

abbrev WrittenCall (P : Platform) := { call : PlayerCall // LoadsWritten P call }

/-- The player, under any calls, on the files of the recorder. -/
def writtenPlayer (P : Platform) : Machine PlaybackController (WrittenCall P) where
  step p call := (player P).step p call

/-- The delay that the call computes, if it computes one, fits. -/
def CallFits (P : Platform) (p : PlaybackController) (call : WrittenCall P) : Prop :=
  ∀ q, p.reading call = some q → ∀ timestamp, q.readTimestamp P = some timestamp →
    DelayFits q timestamp

/-- Where the call reads a frame of a recording other than the first one, the gap in front of the
frame is short for the speed. -/
def ShortGap (P : Platform) (p : PlaybackController) (call : WrittenCall P) : Prop :=
  ∀ q, p.reading call = some q → ∀ fs, Holds P q.playbackFile.data fs →
    ∀ k prev next, q.currentFrame = k + 1 → fs[k]? = some prev → fs[k + 1]? = some next →
      ((next.1 - prev.1 : Int) : Rat) < 2 ^ 31 * q.playbackSpeed

/-! ## Truncation -/

section Truncation

variable {q v : Rat} {z : Int}

theorem trunc_eq_floor (h : 0 ≤ q) : trunc q = ⌊q⌋ := by
  rw [trunc, Int.tdiv_eq_ediv_of_nonneg (Rat.num_nonneg.2 h)]
  exact Rat.floor_def'.symm

/-- A quotient that is not negative is an `int` exactly if it is less than 2³¹. -/
theorem trunc_fits_iff (hz : 0 ≤ z) (hv : 0 < v) :
    INT_MIN ≤ trunc (z / v) ∧ trunc (z / v) ≤ INT_MAX ↔ (z : Rat) < 2 ^ 31 * v := by
  have hnonneg : 0 ≤ (z : Rat) / v := div_nonneg (Int.cast_nonneg hz) hv.le
  have hfloor : 0 ≤ ⌊(z : Rat) / v⌋ := Int.floor_nonneg.2 hnonneg
  have hlt : ⌊(z : Rat) / v⌋ < 2 ^ 31 ↔ (z : Rat) < 2 ^ 31 * v := by
    rw [Int.floor_lt, div_lt_iff₀ hv]
    norm_num
  rw [trunc_eq_floor hnonneg, ← hlt]
  simp only [INT_MIN, INT_MAX]
  omega

end Truncation

/-! ## The wait -/

section Wait

variable {P : Platform} {p : PlaybackController} {timestamp : Int}

theorem stopPlayback_currentFrame (p : PlaybackController) :
    p.stopPlayback.currentFrame = p.currentFrame := by
  unfold PlaybackController.stopPlayback
  split <;> rfl

/-- A read counts a frame exactly if it gets to the delay. -/
theorem readNextFrame_cases (P : Platform) (p : PlaybackController) :
    (p.readNextFrame P).self.currentFrame = p.currentFrame ∨
      ∃ f t n, p.readNextFrame P = p.deliverFrame P f t n := by
  unfold PlaybackController.readNextFrame
  split
  · exact Or.inl rfl
  · simp only
    split
    · exact Or.inl (stopPlayback_currentFrame _)
    · unfold PlaybackController.readFrame
      split
      · exact Or.inl (stopPlayback_currentFrame _)
      · split
        · exact Or.inl rfl
        · split
          · exact Or.inl rfl
          · split
            · exact Or.inl rfl
            · exact Or.inr ⟨_, _, _, rfl⟩

/-- The delay computed from the timestamp is the one of the wait that is set. -/
theorem pending_of_readTimestamp (h : p.readTimestamp P = some timestamp) :
    (p.readNextFrame P).self.playbackTimer.pending = some (p.nextDelay P timestamp) := by
  unfold PlaybackController.readTimestamp at h
  rcases readNextFrame_cases P p with hsame | ⟨f, t, n, hread⟩
  · simp only [hsame, ↓reduceIte, reduceCtorEq] at h
  · have htime : t = timestamp := by
      have hne : p.currentFrame + 1 ≠ p.currentFrame := Nat.succ_ne_self _
      simpa only [hread, PlaybackController.deliverFrame, hne, ↓reduceIte, Option.some.injEq] using h
    rw [hread, ← htime]
    rfl

theorem DelayFits.nextDelay_eq (h : DelayFits p timestamp) :
    p.nextDelay P timestamp = trunc (p.exactDelay timestamp / p.playbackSpeed) := by
  have hdelay : (if p.currentFrame > 0 then toInt64 (timestamp - p.nextFrameTime) else 0) =
      p.exactDelay timestamp := by
    have hdifference := h.difference
    unfold PlaybackController.exactDelay at hdifference ⊢
    by_cases hframe : p.currentFrame > 0
    · rw [if_pos hframe] at hdifference
      rw [if_pos hframe, if_pos hframe]
      exact toInt64_of_bounds hdifference.1 hdifference.2
    · rw [if_neg hframe, if_neg hframe]
  unfold PlaybackController.nextDelay
  rw [hdelay]
  exact if_pos h.quotient

/-- **A delay that fits** is the one the player waits for. -/
theorem DelayFits.pending_eq (h : DelayFits p timestamp) (ht : p.readTimestamp P = some timestamp) :
    (p.readNextFrame P).self.playbackTimer.pending =
      some (trunc (p.exactDelay timestamp / p.playbackSpeed)) := by
  rw [pending_of_readTimestamp ht, h.nextDelay_eq]

end Wait

/-! ## The player keeps its place -/

section Place

variable {P : Platform} {p q : PlaybackController} {done rest : List (Int × Bytes)}

/-- The file is the recording `done ++ rest`, in time, and stands at `rest`. -/
structure Reel (P : Platform) (f : IFStream) (done rest : List (Int × Bytes)) : Prop where
  holds : Holds P f.data (done ++ rest)
  timeline : Timeline (done ++ rest)
  cursor : ∃ s, Cursor f s ∧ Frames P s rest

/-- The player has delivered `done` and remembers when the last of it was. -/
structure Running (P : Platform) (p : PlaybackController) (done rest : List (Int × Bytes)) :
    Prop where
  isPlaying : p.isPlaying = true
  playbackSpeed : 0 < p.playbackSpeed
  reel : Reel P p.playbackFile done rest
  currentFrame : p.currentFrame = done.length
  nextFrameTime : ∀ e, done.getLast? = some e → p.nextFrameTime = e.1

/-- What every call keeps. -/
structure Paced (P : Platform) (p : PlaybackController) : Prop where
  playbackSpeed : 0 < p.playbackSpeed
  playing : p.isPlaying = true → ∃ done rest, Running P p done rest
  loaded : p.isPlaying = false → p.playbackFile.isOpen = true →
    ∃ fs, Reel P p.playbackFile [] fs

theorem Running.paced (h : Running P p done rest) : Paced P p := by
  refine ⟨h.playbackSpeed, fun _ => ⟨done, rest, h⟩, fun hstop => ?_⟩
  cases hstop.symm.trans h.isPlaying

/-- A player that has closed its file. -/
theorem Paced.of_closed (hspeed : 0 < p.playbackSpeed) (hplay : p.isPlaying = false)
    (hopen : p.playbackFile.isOpen = false) : Paced P p := by
  refine ⟨hspeed, fun h => ?_, fun _ h => ?_⟩
  · cases h.symm.trans hplay
  · cases h.symm.trans hopen

/-- What a read at the end of the recording leaves. -/
theorem Running.read_nil (h : Running P p done []) (hpause : p.isPaused = false) :
    Paced P (p.readNextFrame P).self ∧ p.readTimestamp P = none := by
  obtain ⟨s, hcur, hs⟩ := h.reel.cursor
  obtain ⟨f, hread, hopen, -⟩ := readNextFrame_nil h.isPlaying hpause hcur hs
  refine ⟨?_, ?_⟩
  · rw [hread]
    exact .of_closed h.playbackSpeed rfl hopen
  · simp only [PlaybackController.readTimestamp, hread, ↓reduceIte]

/-- What a read of a frame leaves. -/
theorem Running.read_cons {e : Int × Bytes} (h : Running P p done (e :: rest))
    (hpause : p.isPaused = false) :
    Running P (p.readNextFrame P).self (done ++ [e]) rest ∧ p.readTimestamp P = some e.1 := by
  obtain ⟨s, hcur, hs⟩ := h.reel.cursor
  obtain ⟨f, s', hread, hcur', hs', hdata⟩ := readNextFrame_cons h.isPlaying hpause hcur hs
  have hassoc : done ++ e :: rest = done ++ [e] ++ rest := by
    rw [List.append_assoc, List.singleton_append]
  refine ⟨?_, ?_⟩
  · rw [hread]
    refine ⟨h.isPlaying, h.playbackSpeed, ⟨?_, ?_, s', hcur', hs'⟩, ?_, fun e' he' => ?_⟩
    · rw [← hassoc]
      exact hdata ▸ h.reel.holds
    · rw [← hassoc]
      exact h.reel.timeline
    · rw [List.length_append, List.length_singleton, ← h.currentFrame]
    · rw [List.getLast?_concat, Option.some.injEq] at he'
      rw [← he']
  · have hne : p.currentFrame + 1 ≠ p.currentFrame := Nat.succ_ne_self _
    simp only [PlaybackController.readTimestamp, hread, hne, ↓reduceIte]

theorem Running.read (h : Running P p done rest) (hpause : p.isPaused = false) :
    Paced P (p.readNextFrame P).self := by
  cases rest with
  | nil => exact (h.read_nil hpause).1
  | cons e es => exact (h.read_cons hpause).1.paced

end Place

/-! ## Every call -/

section Calls

variable {P : Platform} {p p' q : PlaybackController} {done rest : List (Int × Bytes)}

theorem stopPlayback_playbackSpeed (p : PlaybackController) :
    p.stopPlayback.playbackSpeed = p.playbackSpeed := by
  unfold PlaybackController.stopPlayback
  split <;> rfl

/-- What a load changes, once it has stopped the playback. -/
theorem loadRecording_self (p : PlaybackController) (filename : Bytes) (content : Option Bytes) :
    ∃ f info, (p.loadRecording filename content).1 =
      { p.stopPlayback with playbackFile := f, currentRecordingInfo := info } := by
  unfold PlaybackController.loadRecording
  simp only
  split
  · exact ⟨_, _, rfl⟩
  · split
    · exact ⟨_, _, rfl⟩
    · split <;> exact ⟨_, _, rfl⟩

theorem Paced.stopPlayback (h : Paced P p) : Paced P p.stopPlayback := by
  refine ⟨?_, fun hplay => ?_, fun _ hopen => ?_⟩
  · rw [stopPlayback_playbackSpeed]
    exact h.playbackSpeed
  · cases hplay.symm.trans (stopPlayback_isPlaying p)
  · -- a file is open only where there was nothing to stop
    have hdangling := stopPlayback_isOpen.1 hopen
    rw [stopPlayback_of_stopped hdangling.1]
    exact h.loaded hdangling.1 hdangling.2

theorem Paced.loadRecording (h : Paced P p) (filename : Bytes) {content : Option Bytes}
    (hc : ∀ d, content = some d → Written P d) : Paced P (p.loadRecording filename content).1 := by
  obtain ⟨f, info, hself⟩ := loadRecording_self p filename content
  have hplay : (p.loadRecording filename content).1.isPlaying = false := by
    rw [hself]
    exact stopPlayback_isPlaying p
  refine ⟨?_, fun hp => ?_, fun _ hopen => ?_⟩
  · rw [hself]
    exact (stopPlayback_playbackSpeed p).symm ▸ h.playbackSpeed
  · cases hp.symm.trans hplay
  · have hresult := (loadRecording_dangling filename content).1 ⟨hplay, hopen⟩
    have hloadable : Loadable p content := by
      by_contra hno
      exact hresult (loadRecording_refused hno)
    obtain ⟨d, rfl, -⟩ := hloadable.header
    obtain ⟨fs, hholds, htime⟩ := (hc d rfl).holds
    obtain ⟨r, body, rfl, hm, hframes⟩ := id hholds
    obtain ⟨f', info', hload, hcur, hdata⟩ := loadRecording_of_metadata hloadable.closed hm filename
    rw [hload]
    exact ⟨fs, hdata.symm ▸ hholds, htime, body, hcur, hframes⟩

/-- Anything that leaves the file and the place in it alone. -/
theorem Paced.congr (h : Paced P p) (hplay : q.isPlaying = p.isPlaying)
    (hfile : q.playbackFile = p.playbackFile) (hframe : q.currentFrame = p.currentFrame)
    (htime : q.nextFrameTime = p.nextFrameTime) (hspeed : 0 < q.playbackSpeed) : Paced P q := by
  refine ⟨hspeed, fun hp => ?_, fun hp hopen => ?_⟩
  · obtain ⟨done, rest, hrun⟩ := h.playing (hplay.symm.trans hp)
    exact ⟨done, rest, hp, hspeed, hfile ▸ hrun.reel, hframe.trans hrun.currentFrame,
      fun e he => htime.trans (hrun.nextFrameTime e he)⟩
  · rw [hfile] at hopen ⊢
    exact h.loaded (hplay.symm.trans hp) hopen

theorem Paced.of_timer (h : Paced P p) (t : Timer) : Paced P { p with playbackTimer := t } :=
  h.congr rfl rfl rfl rfl h.playbackSpeed

theorem Paced.of_paused (h : Paced P p) (b : Bool) : Paced P { p with isPaused := b } :=
  h.congr rfl rfl rfl rfl h.playbackSpeed

theorem Paced.pausePlayback (h : Paced P p) : Paced P p.pausePlayback := by
  unfold PlaybackController.pausePlayback
  split
  · exact (h.of_paused true).of_timer _
  · exact h

theorem Paced.setPlaybackSpeed (h : Paced P p) (speed : Rat) :
    Paced P (p.setPlaybackSpeed speed) := by
  have hspeed : 0 < (p.setPlaybackSpeed speed).playbackSpeed :=
    lt_of_lt_of_le (by norm_num : (0 : Rat) < 1 / 10) (le_max_left _ _)
  exact h.congr rfl rfl rfl rfl hspeed

/-- A call that reads does nothing else. -/
theorem step_of_reading {call : PlayerCall} (hq : p.reading call = some q) :
    (player P).step p call = some (q.readNextFrame P).self := by
  cases call with
  | startPlayback =>
    obtain ⟨⟨hopen, hplay⟩, hq⟩ := Option.ite_none_right_eq_some.1 hq
    obtain rfl := Option.some.inj hq
    exact congrArg (fun o : Outcome => some o.self) (startPlayback_eq hplay hopen)
  | resumePlayback =>
    obtain ⟨⟨hplay, hpause⟩, hq⟩ := Option.ite_none_right_eq_some.1 hq
    obtain rfl := Option.some.inj hq
    have hboth : (p.isPlaying && p.isPaused) = true := by rw [hplay, hpause]; rfl
    exact congrArg (fun o : Outcome => some o.self) (if_pos hboth)
  | handler k =>
    obtain ⟨⟨hqueued, hplay, hpause⟩, hq⟩ := Option.ite_none_right_eq_some.1 hq
    obtain rfl := Option.some.inj hq
    have hon : (p.handler P k .success) =
        { p with playbackTimer := p.playbackTimer.take k }.readNextFrame P :=
      if_pos ⟨rfl, hplay, hpause⟩
    simp only [player, hqueued, Option.map_some, hon]
  | loadRecording filename content => cases hq
  | pausePlayback => cases hq
  | stopPlayback => cases hq
  | setPlaybackSpeed speed => cases hq
  | expire => cases hq

/-- What a call that does not read keeps. -/
theorem Paced.step_still (h : Paced P p) {call : PlayerCall} (hc : LoadsWritten P call)
    (hq : p.reading call = none) (hs : (player P).step p call = some p') : Paced P p' := by
  cases call with
  | loadRecording filename content =>
    obtain rfl := Option.some.inj hs
    refine h.loadRecording filename fun d hd => ?_
    subst hd
    exact hc
  | startPlayback =>
    have hno : ¬(p.playbackFile.isOpen = true ∧ p.isPlaying = false) := fun hyes =>
      nomatch (if_pos hyes).symm.trans hq
    have hself : (p.startPlayback P).self = p := by
      unfold PlaybackController.startPlayback
      split
      · rfl
      · next hopen =>
        have hplay : p.isPlaying = true := by simpa using fun hp => hno ⟨by simpa using hopen, hp⟩
        rw [if_pos hplay]
    obtain rfl := Option.some.inj hs
    rw [hself]
    exact h
  | pausePlayback =>
    obtain rfl := Option.some.inj hs
    exact h.pausePlayback
  | resumePlayback =>
    have hno : ¬(p.isPlaying = true ∧ p.isPaused = true) := fun hyes =>
      nomatch (if_pos hyes).symm.trans hq
    have hself : (p.resumePlayback P).self = p := by
      unfold PlaybackController.resumePlayback
      rw [if_neg (by rwa [Bool.and_eq_true])]
    obtain rfl := Option.some.inj hs
    rw [hself]
    exact h
  | stopPlayback =>
    obtain rfl := Option.some.inj hs
    exact h.stopPlayback
  | setPlaybackSpeed speed =>
    obtain rfl := Option.some.inj hs
    exact h.setPlaybackSpeed speed
  | expire =>
    obtain ⟨-, hs⟩ := Option.ite_none_right_eq_some.1 hs
    obtain rfl := Option.some.inj hs
    exact h.of_timer _
  | handler k =>
    obtain ⟨c, hqueued, rfl⟩ := Option.map_eq_some_iff.1 hs
    have hno : ¬(c = .success ∧ p.isPlaying = true ∧ p.isPaused = false) := fun hyes =>
      nomatch (if_pos ⟨hyes.1 ▸ hqueued, hyes.2⟩).symm.trans hq
    have hself : (p.handler P k c).self = { p with playbackTimer := p.playbackTimer.take k } := by
      unfold PlaybackController.handler PlaybackController.onTimer
      rw [if_neg hno]
    rw [hself]
    exact h.of_timer _

/-- A call that reads finds the player running. -/
theorem Paced.reading (h : Paced P p) {call : PlayerCall} (hq : p.reading call = some q) :
    ∃ done rest, Running P q done rest ∧ q.isPaused = false := by
  cases call with
  | startPlayback =>
    obtain ⟨⟨hopen, hplay⟩, hq⟩ := Option.ite_none_right_eq_some.1 hq
    obtain rfl := Option.some.inj hq
    obtain ⟨fs, hreel⟩ := h.loaded hplay hopen
    exact ⟨[], fs, ⟨rfl, h.playbackSpeed, hreel, rfl, nofun⟩, rfl⟩
  | resumePlayback =>
    obtain ⟨⟨hplay, -⟩, hq⟩ := Option.ite_none_right_eq_some.1 hq
    obtain rfl := Option.some.inj hq
    obtain ⟨done, rest, hrun⟩ := (h.of_paused false).playing hplay
    exact ⟨done, rest, hrun, rfl⟩
  | handler k =>
    obtain ⟨⟨-, hplay, hpause⟩, hq⟩ := Option.ite_none_right_eq_some.1 hq
    obtain rfl := Option.some.inj hq
    obtain ⟨done, rest, hrun⟩ := (h.of_timer (p.playbackTimer.take k)).playing hplay
    exact ⟨done, rest, hrun, hpause⟩
  | loadRecording filename content => cases hq
  | pausePlayback => cases hq
  | stopPlayback => cases hq
  | setPlaybackSpeed speed => cases hq
  | expire => cases hq

theorem Paced.step (h : Paced P p) {call : WrittenCall P}
    (hs : (writtenPlayer P).step p call = some p') : Paced P p' := by
  cases hq : p.reading call with
  | none => exact h.step_still call.2 hq hs
  | some q =>
    obtain rfl := Option.some.inj ((step_of_reading hq).symm.trans hs)
    obtain ⟨done, rest, hrun, hpause⟩ := h.reading hq
    exact hrun.read hpause

theorem paced_init : Paced P {} := ⟨by norm_num, nofun, fun _ hopen => nomatch hopen⟩

end Calls

/-! ## Which delays fit -/

section Fits

variable {P : Platform} {p q : PlaybackController} {done rest : List (Int × Bytes)}

theorem trunc_zero (v : Rat) : trunc (((0 : Int) : Rat) / v) = 0 := by
  rw [Int.cast_zero, zero_div]
  rfl

/-- There is no delay behind the first frame. -/
theorem delayFits_first (hframe : q.currentFrame = 0) (timestamp : Int) : DelayFits q timestamp := by
  have hzero : q.exactDelay timestamp = 0 := by
    simp only [PlaybackController.exactDelay, hframe, Nat.lt_irrefl, gt_iff_lt, ↓reduceIte]
  refine ⟨?_, ?_⟩
  · rw [hzero]
    decide
  · rw [hzero, trunc_zero]
    decide

/-- The delay behind a later frame is the gap in front of it, which is an `int` at the speed exactly
if it is short. -/
theorem Running.delayFits_iff {l e : Int × Bytes} (h : Running P q (done ++ [l]) (e :: rest)) :
    DelayFits q e.1 ↔ ((e.1 - l.1 : Int) : Rat) < 2 ^ 31 * q.playbackSpeed := by
  have hlast : q.nextFrameTime = l.1 := h.nextFrameTime l List.getLast?_concat
  have hpos : 0 < q.currentFrame := by
    rw [h.currentFrame, List.length_append, List.length_singleton]
    exact Nat.succ_pos _
  have hdelay : q.exactDelay e.1 = e.1 - l.1 := by
    simp only [PlaybackController.exactDelay, gt_iff_lt, hpos, ↓reduceIte, hlast]
  obtain ⟨hnonneg, hbounded, hordered⟩ := h.reel.timeline
  have hl : l ∈ done ++ [l] ++ e :: rest := by simp
  have he : e ∈ done ++ [l] ++ e :: rest := by simp
  have hle : l.1 ≤ e.1 :=
    (List.pairwise_append.1 hordered).2.2 l (by simp) e List.mem_cons_self
  have hmin := hnonneg l hl
  have hmax := hbounded e he
  have hquotient := trunc_fits_iff (Int.sub_nonneg.2 hle) h.playbackSpeed
  constructor
  · intro hfits
    have hq := hfits.quotient
    rw [hdelay] at hq
    exact hquotient.1 hq
  · intro hshort
    refine ⟨?_, ?_⟩
    · rw [hdelay]
      simp only [LLONG_MIN, LLONG_MAX] at hmax ⊢
      omega
    · rw [hdelay]
      exact hquotient.2 hshort

/-- The gap in front of the frame that is read. -/
theorem Running.short_iff {l e : Int × Bytes} (h : Running P q (done ++ [l]) (e :: rest)) :
    (∀ fs, Holds P q.playbackFile.data fs → ∀ k prev next, q.currentFrame = k + 1 →
      fs[k]? = some prev → fs[k + 1]? = some next →
        ((next.1 - prev.1 : Int) : Rat) < 2 ^ 31 * q.playbackSpeed) ↔
      ((e.1 - l.1 : Int) : Rat) < 2 ^ 31 * q.playbackSpeed := by
  have hframe : q.currentFrame = done.length + 1 := by
    rw [h.currentFrame, List.length_append, List.length_singleton]
  have hprev : (done ++ [l] ++ e :: rest)[done.length]? = some l := by simp
  have hnext : (done ++ [l] ++ e :: rest)[done.length + 1]? = some e := by simp
  constructor
  · exact fun hshort => hshort _ h.reel.holds done.length l e hframe hprev hnext
  · intro hshort fs hfs k prev next hk hkprev hknext
    obtain rfl := h.reel.holds.unique hfs
    obtain rfl : done.length = k := by omega
    obtain rfl := Option.some.inj (hprev.symm.trans hkprev)
    obtain rfl := Option.some.inj (hnext.symm.trans hknext)
    exact hshort

/-- **One call**: what it computes fits exactly if the gap in front of the frame is short. -/
theorem Paced.callFits_iff (h : Paced P p) (call : WrittenCall P) :
    CallFits P p call ↔ ShortGap P p call := by
  refine forall_congr' fun q => forall_congr' fun hq => ?_
  obtain ⟨done, rest, hrun, hpause⟩ := h.reading hq
  cases rest with
  | nil =>
    have hnone := (hrun.read_nil hpause).2
    refine iff_of_true (fun t ht => nomatch hnone.symm.trans ht) fun fs hfs k _ _ hk _ hnext => ?_
    -- all the frames are behind the player
    obtain rfl := hrun.reel.holds.unique hfs
    obtain ⟨hlt, -⟩ := List.getElem?_eq_some_iff.1 hnext
    rw [List.append_nil, ← hrun.currentFrame, hk] at hlt
    exact absurd hlt (Nat.lt_irrefl _)
  | cons e rest =>
    have hread := (hrun.read_cons hpause).2
    have hfits : (∀ t, q.readTimestamp P = some t → DelayFits q t) ↔ DelayFits q e.1 := by
      rw [hread]
      exact ⟨fun h => h e.1 rfl, fun h t ht => Option.some.inj ht ▸ h⟩
    rw [hfits]
    rcases List.eq_nil_or_concat done with rfl | ⟨done, l, rfl⟩
    · refine iff_of_true (delayFits_first hrun.currentFrame e.1) fun fs _ k _ _ hk _ _ => ?_
      cases hrun.currentFrame.symm.trans hk
    · rw [List.concat_eq_append] at hrun
      exact hrun.delayFits_iff.trans hrun.short_iff.symm

/-- **Which delays fit**: in a run of the player on what the recorder writes, every delay does
exactly if no frame is read behind a gap that is too long for the speed. -/
theorem delays_fit_iff (P : Platform) (calls : List (WrittenCall P)) (p : PlaybackController)
    (hrun : (writtenPlayer P).run {} calls = some p) :
    (writtenPlayer P).AllSteps (CallFits P) {} calls ↔
      (writtenPlayer P).AllSteps (ShortGap P) {} calls :=
  Machine.allSteps_congr (J := Paced P) (fun h hs => h.step hs) (fun h _ => h.callFits_iff _)
    paced_init hrun

/-! ### A recording with an idle gap -/

/-- Two frames, with three days between them. -/
def idleRun : List (RecordEvent x86_64) :=
  [.startRecording noon 0, .frameConverted ⟨lit "a", by decide⟩ 0,
    .frameConverted ⟨lit "b", by decide⟩ 259200000000000, .stopRecording 259200000000000]

def idleRecording : Bytes :=
  recordingText noon [(0, lit "a"), (259200000, lit "b")] 259200

theorem written_idleRecording : Written x86_64 idleRecording :=
  ⟨idleRun, by decide, recordingName noon, by decide +kernel⟩

/-- The recording is played at a speed up to the second frame. -/
def playIdle (speed : Rat) : List (WrittenCall x86_64) :=
  [⟨.loadRecording (recordingName noon) (some idleRecording), written_idleRecording⟩,
    ⟨.setPlaybackSpeed speed, trivial⟩, ⟨.startPlayback, trivial⟩, ⟨.expire, trivial⟩,
    ⟨.handler 0, trivial⟩]

theorem delays_fit_iff_playIdle : ∃ p, (writtenPlayer x86_64).run {} (playIdle 1) = some p ∧
    ((writtenPlayer x86_64).AllSteps (CallFits x86_64) {} (playIdle 1) ↔
      (writtenPlayer x86_64).AllSteps (ShortGap x86_64) {} (playIdle 1)) := by
  have hruns : ((writtenPlayer x86_64).run {} (playIdle 1)).isSome = true := by decide +kernel
  obtain ⟨p, hp⟩ := Option.isSome_iff_exists.1 hruns
  exact ⟨p, hp, delays_fit_iff x86_64 (playIdle 1) p hp⟩

/-- At the slowest speed the quotient is no `int` any more, and the wait is over at once. -/
theorem not_delays_fit_playIdle :
    ((writtenPlayer x86_64).run {} (playIdle (1 / 10))).map
        (fun p => p.playbackTimer.pending) = some (some INT_MIN) ∧
      ¬(writtenPlayer x86_64).AllSteps (CallFits x86_64) {} (playIdle (1 / 10)) := by
  refine ⟨by decide +kernel, fun h => ?_⟩
  -- what the last of the calls computes
  have hcomputes : ((writtenPlayer x86_64).run {} ((playIdle (1 / 10)).take 4)).bind
      (fun p => (p.reading (.handler 0)).bind fun q => (q.readTimestamp x86_64).map fun t =>
        (t, trunc (q.exactDelay t / q.playbackSpeed))) = some (259200000, 2592000000) := by
    decide +kernel
  obtain ⟨p, hrun, hcomputes⟩ := Option.bind_eq_some_iff.1 hcomputes
  obtain ⟨q, hq, hcomputes⟩ := Option.bind_eq_some_iff.1 hcomputes
  obtain ⟨t, ht, hcomputes⟩ := Option.map_eq_some_iff.1 hcomputes
  have hlast := ((Machine.allSteps_append hrun).1 h).2
  have hfits := (hlast.1 q hq t ht).quotient.2
  rw [(Prod.mk.inj hcomputes).2] at hfits
  exact absurd hfits (by decide)

end Fits

end AsciiStreamer
