import Mathlib.Data.List.Nodup
import AsciiStreamer.Recording.RoundTrip

/-!
# What becomes of a finished recording

The name of a recording is its local start time, to the second, and opening it truncates what is
there. The name determines the time (`recordingName_inj`), so a finished recording is overwritten
exactly by one that starts in the same second of local time (`finished_kept_iff`).
-/

namespace AsciiStreamer

open Cxx

/-! ## Local times and file names -/

/-- What `std::localtime` can fill in. -/
structure Tm.Valid (t : Tm) : Prop where
  mon : t.mon ≤ 12
  mday : t.mday ≤ 31
  hour : t.hour ≤ 23
  min : t.min ≤ 59
  sec : t.sec ≤ 60

/-- A local time. -/
abbrev LocalTime := { t : Tm // t.Valid }

section Names

theorem digitsValue_pad2 (n : Nat) : digitsValue (pad2 n) = n := by
  unfold pad2
  split
  · have hzero : digitsValue (lit "0") = 0 := rfl
    rw [digitsValue_append, hzero, Nat.zero_mul, Nat.zero_add, digitsValue_natToDec]
  · exact digitsValue_natToDec n

theorem length_pad2_all : ∀ n : Fin 100, (pad2 n).length = 2 := by decide

theorem length_pad2 {n : Nat} (h : n < 100) : (pad2 n).length = 2 := length_pad2_all ⟨n, h⟩

/-- Text ending in a two-digit field. -/
theorem append_pad2_inj {a b : Bytes} {m n : Nat} (hm : m < 100) (hn : n < 100)
    (h : a ++ pad2 m = b ++ pad2 n) : a = b ∧ m = n := by
  obtain ⟨hab, hpad⟩ := List.append_inj' h ((length_pad2 hm).trans (length_pad2 hn).symm)
  have hval := congrArg digitsValue hpad
  rw [digitsValue_pad2, digitsValue_pad2] at hval
  exact ⟨hab, hval⟩

/-- **The name of a recording determines its start time.** -/
theorem recordingName_inj {t t' : LocalTime} (h : recordingName t.1 = recordingName t'.1) :
    t = t' := by
  obtain ⟨⟨year, mon, mday, hour, min, sec⟩, hmon, hmday, hhour, hmin, hsec⟩ := t
  obtain ⟨⟨year', mon', mday', hour', min', sec'⟩, hmon', hmday', hhour', hmin', hsec'⟩ := t'
  simp only at hmon hmday hhour hmin hsec hmon' hmday' hhour' hmin' hsec'
  unfold recordingName at h
  simp only at h
  have h := List.append_cancel_right h
  obtain ⟨h, hsec⟩ := append_pad2_inj (by omega) (by omega) h
  obtain ⟨h, hmin⟩ := append_pad2_inj (by omega) (by omega) h
  obtain ⟨h, hhour⟩ := append_pad2_inj (by omega) (by omega) h
  have h := List.append_cancel_right h
  obtain ⟨h, hmday⟩ := append_pad2_inj (by omega) (by omega) h
  obtain ⟨h, hmon⟩ := append_pad2_inj (by omega) (by omega) h
  have hyear := congrArg digitsValue (List.append_cancel_left h)
  rw [digitsValue_natToDec, digitsValue_natToDec] at hyear
  subst hyear hmon hmday hhour hmin hsec
  rfl

end Names

/-! ## Calls and what they finish -/

/-- The operations of `RecordController`. `opens` is whether the file can be opened. -/
inductive RecorderCall
  | startRecording (wallClock : Int) (now : Instant) (opens : Bool)
  | stopRecording (now : Instant)
  | writeFrame (frame : Bytes) (now : Instant)

/-- The recorder with what it has done: the local start times of its recordings, and the name and
the content of every file that it has finished. -/
structure Archive where
  controller : RecordController := {}
  disk : Disk := fun _ => none
  started : List LocalTime := []
  finished : List (Bytes × Bytes) := []

namespace Archive

variable (localtime : Int → LocalTime)

def step (s : Archive) : RecorderCall → Archive
  | .startRecording wallClock now opens =>
    let t := localtime wallClock
    let (c, d, accepted) := s.controller.startRecording s.disk t.1 now opens
    { s with
      controller := c
      disk := d
      started := if accepted then s.started ++ [t] else s.started }
  | .stopRecording now =>
    let (c, d) := s.controller.stopRecording s.disk now
    { s with
      controller := c
      disk := d
      finished := match s.controller.isRecording, s.controller.recordFile with
        | true, some name => s.finished ++ [(name, (d name).getD [])]
        | _, _ => s.finished }
  | .writeFrame frame now =>
    let (c, d) := s.controller.writeFrame s.disk frame now
    { s with controller := c, disk := d }

/-- The recorder as a machine: every call can be made at any time. -/
def machine : Machine Archive RecorderCall where
  step s call := some (s.step localtime call)

/-- The finished files are as they were finished, and no two recordings share a name. -/
structure Kept (s : Archive) : Prop where
  content : ∀ f ∈ s.finished, s.disk f.1 = some f.2
  names : (s.started.map fun t => recordingName t.1).Nodup

/-- The call does not create a file in a second of local time in which another recording has
started. -/
def OwnSecond (s : Archive) : RecorderCall → Prop
  | .startRecording wallClock _ opens =>
    s.controller.isRecording = false → opens = true → localtime wallClock ∉ s.started
  | _ => True

/-! ## Keeping -/

/-- The file that is being written. -/
def current (s : Archive) : Option Bytes :=
  if s.controller.isRecording then s.controller.recordFile else none

/-- Every recording that has been started is finished or being written. -/
structure Filed (s : Archive) : Prop where
  names : (s.started.map fun t => recordingName t.1) =
    s.finished.map Prod.fst ++ s.current.toList
  recording : s.controller.isRecording = true →
    ∃ name content, s.controller.recordFile = some name ∧ s.disk name = some content

variable {localtime} {s : Archive} {wallClock : Int} {now : Instant} {opens : Bool}

theorem current_idle (h : s.controller.isRecording = false) : s.current = none := by
  unfold current
  rw [h]
  rfl

theorem current_recording (h : s.controller.isRecording = true) {name : Bytes}
    (hfile : s.controller.recordFile = some name) : s.current = some name := by
  unfold current
  rw [h, if_pos rfl, hfile]

/-- A start that creates a file. -/
theorem step_started (h : s.controller.isRecording = false) :
    s.step localtime (.startRecording wallClock now true) =
      { s with
        controller :=
          { recordFile := some (recordingName (localtime wallClock).1)
            isRecording := true
            filename := recordingName (localtime wallClock).1
            startTime := now
            frameCount := 0 }
        disk := s.disk.write (recordingName (localtime wallClock).1)
          (headerText (localtime wallClock).1)
        started := s.started ++ [localtime wallClock] } := by
  simp only [step, RecordController.startRecording, h, Bool.false_eq_true, ↓reduceIte]

/-- Any other start leaves the files alone. -/
theorem step_not_started (h : s.controller.isRecording = true ∨ opens = false) :
    let s' := s.step localtime (.startRecording wallClock now opens)
    s'.disk = s.disk ∧ s'.started = s.started ∧ s'.finished = s.finished ∧
      s'.controller.isRecording = s.controller.isRecording ∧
      (s.controller.isRecording = true → s'.controller = s.controller) := by
  cases hrec : s.controller.isRecording with
  | true =>
    simp only [step, RecordController.startRecording, hrec, ↓reduceIte, Bool.false_eq_true,
      and_self, implies_true]
  | false =>
    have hopens : opens = false := by
      rcases h with h | h
      · rw [hrec] at h
        cases h
      · exact h
    subst hopens
    simp only [step, RecordController.startRecording, hrec, ↓reduceIte, Bool.false_eq_true,
      false_implies, and_self]

/-- A stop finishes the file that is being written. -/
theorem step_stopped {name content : Bytes} (h : s.controller.isRecording = true)
    (hfile : s.controller.recordFile = some name) (hdisk : s.disk name = some content) :
    ∃ footer, s.step localtime (.stopRecording now) =
      { s with
        controller := { s.controller with isRecording := false, recordFile := none }
        disk := s.disk.append name footer
        finished := s.finished ++ [(name, content ++ footer)] } := by
  refine ⟨footerText (durationCast now s.controller.startTime 1000000000) s.controller.frameCount,
    ?_⟩
  simp only [step, RecordController.stopRecording, h, hfile, ↓reduceIte, Disk.append_self hdisk,
    Option.getD_some]

theorem step_written {name content frame : Bytes} (h : s.controller.isRecording = true)
    (hfile : s.controller.recordFile = some name) (hdisk : s.disk name = some content) :
    ∃ text, let s' := s.step localtime (.writeFrame frame now)
      s'.disk = s.disk.append name text ∧ s'.disk name = some (content ++ text) ∧
        s'.started = s.started ∧ s'.finished = s.finished ∧
        s'.controller.isRecording = true ∧ s'.controller.recordFile = some name := by
  refine ⟨frameText (durationCast now s.controller.startTime 1000000) frame, ?_⟩
  simp only [step, RecordController.writeFrame, h, hfile, Disk.append_self hdisk, and_self]

/-- While nothing is being recorded, there is nothing to stop or to write to. -/
theorem step_stop_idle (h : s.controller.isRecording = false) :
    s.step localtime (.stopRecording now) = s := by
  simp only [step, RecordController.stopRecording, h, Bool.false_eq_true, ↓reduceIte]

theorem step_write_idle (h : s.controller.isRecording = false) (frame : Bytes) :
    s.step localtime (.writeFrame frame now) = s := by
  simp only [step, RecordController.writeFrame, h]

theorem filed_init : Filed {} := ⟨rfl, fun h => absurd h (by decide)⟩

theorem Filed.startRecording (h : Filed s) :
    Filed (s.step localtime (.startRecording wallClock now opens)) := by
  by_cases hstart : s.controller.isRecording = false ∧ opens = true
  · obtain ⟨hrec, rfl⟩ := hstart
    have hnames := h.names
    rw [current_idle hrec, Option.toList_none, List.append_nil] at hnames
    rw [step_started hrec]
    refine ⟨?_, fun _ => ⟨_, _, rfl, Disk.write_self _ _ _⟩⟩
    rw [current_recording (by rfl) (by rfl), List.map_append, hnames]
    rfl
  · have hother : s.controller.isRecording = true ∨ opens = false := by
      rw [not_and_or, Bool.not_eq_false, Bool.not_eq_true] at hstart
      exact hstart
    obtain ⟨hdisk, hstarted, hfinished, hrec, hsame⟩ :=
      step_not_started hother
    have hcurrent : (s.step localtime (.startRecording wallClock now opens)).current =
        s.current := by
      cases hr : s.controller.isRecording with
      | true =>
        unfold current
        rw [hsame hr]
      | false => rw [current_idle hr, current_idle (hrec.trans hr)]
    refine ⟨by rw [hstarted, hfinished, hcurrent, h.names], fun hr => ?_⟩
    rw [hrec] at hr
    rw [hsame hr, hdisk]
    exact h.recording hr

theorem Filed.stopRecording (h : Filed s) : Filed (s.step localtime (.stopRecording now)) := by
  cases hrec : s.controller.isRecording with
  | false => rwa [step_stop_idle hrec]
  | true =>
    obtain ⟨name, content, hfile, hdisk⟩ := h.recording hrec
    obtain ⟨footer, hstep⟩ := step_stopped hrec hfile hdisk
    have hnames := h.names
    rw [current_recording hrec hfile] at hnames
    rw [hstep]
    refine ⟨?_, fun hr => absurd hr (by simp)⟩
    rw [current_idle (by rfl), List.map_append, hnames]
    exact (List.append_nil _).symm

theorem Filed.writeFrame (h : Filed s) {frame : Bytes} :
    Filed (s.step localtime (.writeFrame frame now)) := by
  cases hrec : s.controller.isRecording with
  | false => rwa [step_write_idle hrec]
  | true =>
    obtain ⟨name, content, hfile, hdisk⟩ := h.recording hrec
    obtain ⟨text, -, hself, hstarted, hfinished, hrec', hfile'⟩ :=
      step_written hrec hfile hdisk
    refine ⟨?_, fun _ => ⟨name, _, hfile', hself⟩⟩
    rw [hstarted, hfinished, h.names, current_recording hrec hfile, current_recording hrec' hfile']

theorem Filed.step (h : Filed s) (call : RecorderCall) : Filed (s.step localtime call) := by
  cases call with
  | startRecording wallClock now opens => exact h.startRecording
  | stopRecording now => exact h.stopRecording
  | writeFrame frame now => exact h.writeFrame

/-- The file that is being written is none of the finished ones. -/
theorem Filed.name_ne (h : Filed s) (hk : Kept s) {name : Bytes} (hcur : s.current = some name) :
    ∀ f ∈ s.finished, f.1 ≠ name := by
  intro f hf heq
  have hnodup := hk.names
  rw [h.names, hcur] at hnodup
  exact (List.nodup_append.1 hnodup).2.2 _ (List.mem_map_of_mem hf) name
    (List.mem_singleton_self _) heq

/-- The name is new exactly if the second is. -/
theorem name_not_mem_iff {t : LocalTime} {started : List LocalTime} :
    recordingName t.1 ∉ started.map (fun t => recordingName t.1) ↔ t ∉ started := by
  rw [not_iff_not, List.mem_map]
  constructor
  · rintro ⟨t', ht', heq⟩
    exact recordingName_inj heq ▸ ht'
  · exact fun ht => ⟨t, ht, rfl⟩

/-- A start keeps the finished files exactly if no recording has started in its second. -/
theorem kept_startRecording_iff (h : Filed s) (hk : Kept s) :
    Kept (s.step localtime (.startRecording wallClock now opens)) ↔
      s.OwnSecond localtime (.startRecording wallClock now opens) := by
  by_cases hstart : s.controller.isRecording = false ∧ opens = true
  · obtain ⟨hrec, rfl⟩ := hstart
    have hnames := h.names
    rw [current_idle hrec, Option.toList_none, List.append_nil] at hnames
    rw [step_started hrec]
    constructor
    · intro hk' _ _
      have hnodup := hk'.names
      rw [List.map_append] at hnodup
      refine name_not_mem_iff.1 fun hmem => ?_
      exact (List.nodup_append.1 hnodup).2.2 _ hmem _ (List.mem_singleton_self _) rfl
    · intro hown
      have hnew := name_not_mem_iff.2 (hown hrec rfl)
      refine ⟨fun f hf => ?_, ?_⟩
      · have hne : f.1 ≠ recordingName (localtime wallClock).1 := by
          rintro heq
          rw [hnames, ← heq] at hnew
          exact hnew (List.mem_map_of_mem hf)
        simp only [Disk.write_other hne]
        exact hk.content f hf
      · rw [List.map_append]
        refine List.nodup_append.2 ⟨hk.names, List.nodup_singleton _, ?_⟩
        intro a ha b hb heq
        rw [List.map_singleton, List.mem_singleton] at hb
        exact hnew (hb ▸ heq ▸ ha)
  · have hother : s.controller.isRecording = true ∨ opens = false := by
      rw [not_and_or, Bool.not_eq_false, Bool.not_eq_true] at hstart
      exact hstart
    obtain ⟨hdisk, hstarted, hfinished, -, -⟩ :=
      step_not_started hother
    refine ⟨fun _ hrec hopens => absurd ⟨hrec, hopens⟩ hstart, fun _ => ⟨?_, ?_⟩⟩
    · rw [hdisk, hfinished]
      exact hk.content
    · rw [hstarted]
      exact hk.names

theorem Kept.stopRecording (h : Filed s) (hk : Kept s) :
    Kept (s.step localtime (.stopRecording now)) := by
  cases hrec : s.controller.isRecording with
  | false => rwa [step_stop_idle hrec]
  | true =>
    obtain ⟨name, content, hfile, hdisk⟩ := h.recording hrec
    obtain ⟨footer, hstep⟩ := step_stopped hrec hfile hdisk
    rw [hstep]
    refine ⟨fun f hf => ?_, hk.names⟩
    rcases List.mem_append.1 hf with hf | hf
    · simp only [Disk.append_other (h.name_ne hk (current_recording hrec hfile) f hf)]
      exact hk.content f hf
    · rw [List.mem_singleton.1 hf]
      exact Disk.append_self hdisk footer

theorem Kept.writeFrame (h : Filed s) (hk : Kept s) {frame : Bytes} :
    Kept (s.step localtime (.writeFrame frame now)) := by
  cases hrec : s.controller.isRecording with
  | false => rwa [step_write_idle hrec]
  | true =>
    obtain ⟨name, content, hfile, hdisk⟩ := h.recording hrec
    obtain ⟨text, happend, -, hstarted, hfinished, -, -⟩ :=
      step_written hrec hfile hdisk
    refine ⟨fun f hf => ?_, hstarted ▸ hk.names⟩
    rw [hfinished] at hf
    rw [happend, Disk.append_other (h.name_ne hk (current_recording hrec hfile) f hf)]
    exact hk.content f hf

theorem kept_step_iff (h : Filed s) (hk : Kept s) (call : RecorderCall) :
    Kept (s.step localtime call) ↔ s.OwnSecond localtime call := by
  cases call with
  | startRecording wallClock now opens => exact kept_startRecording_iff h hk
  | stopRecording now => exact ⟨fun _ => trivial, fun _ => hk.stopRecording h⟩
  | writeFrame frame now => exact ⟨fun _ => trivial, fun _ => hk.writeFrame h⟩

theorem run_total (s : Archive) (calls : List RecorderCall) :
    ∃ s', (machine localtime).run s calls = some s' := by
  induction calls generalizing s with
  | nil => exact ⟨s, rfl⟩
  | cons call calls ih =>
    obtain ⟨s', hs'⟩ := ih (s.step localtime call)
    exact ⟨s', Machine.run_cons_some.2 ⟨_, rfl, hs'⟩⟩

/-- **When finished recordings are kept**: exactly if no recording is started in a second of local
time in which another has been. -/
theorem finished_kept_iff (localtime : Int → LocalTime) (calls : List RecorderCall) :
    (machine localtime).AllStates Kept {} calls ↔
      (machine localtime).AllSteps (OwnSecond localtime) {} calls := by
  obtain ⟨s', hs'⟩ := run_total {} calls
  refine Machine.allStates_iff_allSteps (J := Filed) ?_ ?_ filed_init
    ⟨fun _ hf => absurd hf List.not_mem_nil, List.nodup_nil⟩ hs'
  · intro s call s' h hstep
    cases hstep
    exact h.step call
  · intro s call s' h hk hstep
    cases hstep
    exact kept_step_iff h hk call

theorem noon_valid : noon.Valid := by constructor <;> decide

def noonTime : LocalTime := ⟨noon, noon_valid⟩

/-- Two recordings within one second: the first is gone. -/
theorem finished_lost : ¬(machine fun _ => noonTime).AllStates Kept {}
    [.startRecording 0 0 true, .writeFrame (lit "ab") 5, .stopRecording 9,
      .startRecording 0 10 true] := by
  rintro ⟨-, h⟩
  have hlast := ((((h _ rfl).2 _ rfl).2 _ rfl).2 _ rfl).head
  have hcontent := hlast.content _ (List.mem_singleton_self _)
  exact absurd hcontent (by decide)

end Archive

end AsciiStreamer
