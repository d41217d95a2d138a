import AsciiStreamer.Recording.RoundTrip

/-!
# What the recorder can write

`Written` are the contents of the files that some run of the recorder leaves, completed or not. With
a clock that does not go back each of them holds frames whose timestamps start from zero or later
and do not decrease (`Written.holds`). The frames that a file holds are determined by it
(`Holds.unique`), because the player is.
-/

namespace AsciiStreamer

open Cxx

/-! ## Files and their frames -/

section Written

variable {P : Platform}

/-- The reading of the steady clock that comes with an event. -/
def RecordEvent.now : RecordEvent P → Instant
  | .startRecording _ now | .stopRecording now | .frameConverted _ now => now

/-- The steady clock does not go back. -/
def SteadyClock (es : List (RecordEvent P)) : Prop := (es.map RecordEvent.now).Pairwise (· ≤ ·)

instance (es : List (RecordEvent P)) : Decidable (SteadyClock es) :=
  inferInstanceAs (Decidable (List.Pairwise _ _))

variable (P) in
/-- What some run of the recorder leaves in some file. -/
def Written (d : Bytes) : Prop :=
  ∃ es : List (RecordEvent P), SteadyClock es ∧ ∃ name, (Recorder.run {} es).disk name = some d

variable (P) in
/-- The file is a recording of these frames, each with its timestamp. -/
def Holds (d : Bytes) (fs : List (Int × Bytes)) : Prop :=
  ∃ r body, d = magic ++ newline :: r ∧ Metadata r body ∧ Frames P body fs

/-- Timestamps as a steady clock gives them, in 64 bits. -/
structure Timeline (fs : List (Int × Bytes)) : Prop where
  nonneg : ∀ e ∈ fs, 0 ≤ e.1
  bounded : ∀ e ∈ fs, e.1 ≤ LLONG_MAX
  ordered : fs.Pairwise fun x y => x.1 ≤ y.1

end Written

/-! ## The recorder keeps time -/

section KeepsTime

variable {P : Platform} {s : Recorder} {last now : Instant}

theorem timeline_nil : Timeline [] :=
  ⟨List.forall_mem_nil _, List.forall_mem_nil _, .nil⟩

theorem Timeline.concat {fs : List (Int × Bytes)} (h : Timeline fs) {t : Int} (b : Bytes)
    (hpos : 0 ≤ t) (hmax : t ≤ LLONG_MAX) (hle : ∀ e ∈ fs, e.1 ≤ t) : Timeline (fs ++ [(t, b)]) := by
  refine ⟨?_, ?_, ?_⟩
  · exact List.forall_mem_append.2 ⟨h.nonneg, List.forall_mem_singleton.2 hpos⟩
  · exact List.forall_mem_append.2 ⟨h.bounded, List.forall_mem_singleton.2 hmax⟩
  · refine List.pairwise_append.2 ⟨h.ordered, List.pairwise_singleton _ _, fun x hx y hy => ?_⟩
    rw [List.mem_singleton.1 hy]
    exact hle x hx

theorem durationCast_nonneg {start : Instant} (h : start ≤ now) {d : Int} (hd : 0 ≤ d) :
    0 ≤ durationCast now start d := by
  have hle : (start : Int) ≤ (now : Int) := Int.ofNat_le.2 h
  exact Int.tdiv_nonneg (by omega) hd

theorem durationCast_mono {start : Instant} (h : last ≤ now) {d : Int} (hd : 0 < d) :
    durationCast last start d ≤ durationCast now start d := by
  have hle : (last : Int) ≤ (now : Int) := Int.ofNat_le.2 h
  exact Int.tdiv_le_tdiv hd (by omega)

/-- The header and frames in time, and what may stand behind them. -/
def InTime (P : Platform) (d : Bytes) : Prop :=
  ∃ t fs footer, d = headerText t ++ entriesText fs ++ footer ∧ EntriesOk P fs ∧ Timeline fs ∧
    (footer = [] ∨ ∃ seconds count, footer = footerText seconds count)

/-- Every file is in time, and the one that is being written is so up to the clock. -/
structure KeepsTime (P : Platform) (s : Recorder) (last : Instant) : Prop where
  files : ∀ name d, s.disk name = some d → InTime P d
  recording : s.controller.isRecording = true → s.controller.startTime ≤ last ∧
    ∃ name t fs, s.controller.recordFile = some name ∧
      s.disk name = some (headerText t ++ entriesText fs) ∧ EntriesOk P fs ∧ Timeline fs ∧
      ∀ e ∈ fs, e.1 ≤ durationCast last s.controller.startTime 1000000

/-- One file is written anew. -/
theorem files_write {d : Disk} (h : ∀ name c, d name = some c → InTime P c) {content : Bytes}
    (hc : InTime P content) (file name c : Bytes) (hd : d.write file content name = some c) :
    InTime P c := by
  by_cases hname : name = file
  · subst hname
    rw [Disk.write_self, Option.some.injEq] at hd
    rwa [← hd]
  · rw [Disk.write_other hname] at hd
    exact h name c hd

theorem KeepsTime.later (h : KeepsTime P s last) (hle : last ≤ now) : KeepsTime P s now := by
  refine ⟨h.files, fun hrec => ?_⟩
  obtain ⟨hstart, name, t, fs, hfile, hdisk, hok, htime, hlast⟩ := h.recording hrec
  refine ⟨Fin.le_trans hstart hle, name, t, fs, hfile, hdisk, hok, htime, fun e he => ?_⟩
  exact Int.le_trans (hlast e he) (durationCast_mono hle (by decide))

theorem KeepsTime.startRecording (h : KeepsTime P s now) (t : Tm) :
    KeepsTime P (s.step (P := P) (.startRecording t now)) now := by
  cases hrec : s.controller.isRecording with
  | true =>
    have hs : s.step (P := P) (.startRecording t now) = s := by
      simp [Recorder.step, RecordController.startRecording, hrec]
    rw [hs]
    exact h
  | false =>
    have hempty : headerText t = headerText t ++ entriesText [] := (List.append_nil _).symm
    have hheader : InTime P (headerText t) :=
      ⟨t, [], [], by rw [← hempty, List.append_nil], fun _ hx => absurd hx List.not_mem_nil,
        timeline_nil, Or.inl rfl⟩
    simp only [Recorder.step, RecordController.startRecording, hrec, Bool.false_eq_true, ↓reduceIte]
    refine ⟨files_write h.files hheader _, fun _ => ⟨Fin.le_refl now, _, t, [], rfl, ?_, ?_,
      timeline_nil, List.forall_mem_nil _⟩⟩
    · rw [← hempty]
      exact Disk.write_self _ _ _
    · exact fun _ hx => absurd hx List.not_mem_nil

theorem KeepsTime.stopRecording (h : KeepsTime P s now) :
    KeepsTime P (s.step (P := P) (.stopRecording now)) now := by
  cases hrec : s.controller.isRecording with
  | false =>
    have hs : s.step (P := P) (.stopRecording now) = s := by
      simp [Recorder.step, RecordController.stopRecording, hrec]
    rw [hs]
    exact h
  | true =>
    obtain ⟨-, name, t, fs, hfile, hdisk, hok, htime, -⟩ := h.recording hrec
    simp only [Recorder.step, RecordController.stopRecording, hrec, ↓reduceIte, hfile]
    refine ⟨files_write h.files ?_ name, fun hstop => absurd hstop Bool.false_ne_true⟩
    rw [hdisk, Option.getD_some]
    exact ⟨t, fs, _, rfl, hok, htime, Or.inr ⟨_, _, rfl⟩⟩

theorem KeepsTime.frameConverted (h : KeepsTime P s now) (frame : Str P) :
    KeepsTime P (s.step (.frameConverted frame now)) now := by
  cases hrec : s.controller.isRecording with
  | false =>
    have hs : s.step (.frameConverted frame now) = s := by simp [Recorder.step, hrec]
    rw [hs]
    exact h
  | true =>
    obtain ⟨hstart, name, t, fs, hfile, hdisk, hok, htime, hlast⟩ := h.recording hrec
    have hbounds := durationCast_bounds now s.controller.startTime 1000000
    have hok' := entriesOk_concat hok hbounds frame.fits
    have htime' := htime.concat frame.bytes (durationCast_nonneg hstart (by decide)) hbounds.2 hlast
    have htext : headerText t ++ entriesText fs ++
        frameText (durationCast now s.controller.startTime 1000000) frame.bytes =
          headerText t ++ entriesText
            (fs ++ [(durationCast now s.controller.startTime 1000000, frame.bytes)]) := by
      rw [entriesText_concat, List.append_assoc]
    simp only [Recorder.step, RecordController.writeFrame, hrec, ↓reduceIte, hfile]
    refine ⟨files_write h.files ?_ name, fun _ => ⟨hstart, name, t, _, rfl, ?_, hok', htime', ?_⟩⟩
    · rw [hdisk, Option.getD_some, htext]
      exact ⟨t, _, [], (List.append_nil _).symm, hok', htime', Or.inl rfl⟩
    · change s.disk.append name _ name = _
      rw [Disk.append_self hdisk, htext]
    · exact List.forall_mem_append.2 ⟨hlast, List.forall_mem_singleton.2 (Int.le_refl _)⟩

theorem KeepsTime.step (h : KeepsTime P s last) {e : RecordEvent P} (hle : last ≤ e.now) :
    KeepsTime P (s.step e) e.now := by
  have hnow := h.later hle
  cases e with
  | startRecording t now => exact hnow.startRecording t
  | stopRecording now => exact hnow.stopRecording
  | frameConverted frame now => exact hnow.frameConverted frame

/-- **The recorder keeps time** as long as its clock does. -/
theorem KeepsTime.run {es : List (RecordEvent P)} (h : KeepsTime P s last)
    (hlast : ∀ e ∈ es, last ≤ e.now) (hsteady : SteadyClock es) :
    ∀ name d, (s.run es).disk name = some d → InTime P d := by
  induction es generalizing s last with
  | nil => exact h.files
  | cons e es ih =>
    obtain ⟨hnext, htail⟩ := List.pairwise_cons.1 hsteady
    exact ih (h.step (hlast e List.mem_cons_self))
      (fun e' he' => hnext _ (List.mem_map_of_mem he')) htail

theorem keepsTime_init : KeepsTime P {} 0 := ⟨nofun, nofun⟩

/-- **What the recorder can write** is a recording of frames in time. -/
theorem Written.holds {d : Bytes} (h : Written P d) : ∃ fs, Holds P d fs ∧ Timeline fs := by
  obtain ⟨es, hsteady, name, hdisk⟩ := h
  obtain ⟨t, fs, footer, rfl, hok, htime, hfooter⟩ :=
    keepsTime_init.run (fun e _ => Fin.zero_le _) hsteady name d hdisk
  have hrest : Frames P footer [] := by
    rcases hfooter with rfl | ⟨seconds, count, rfl⟩
    · exact .nil P
    · exact frames_footer P seconds count
  refine ⟨fs, ?_, htime⟩
  rw [List.append_assoc, headerText_append]
  exact ⟨_, _, rfl, metadata_header t _, frames_entries_append hrest hok⟩

end KeepsTime

/-! ## One file, one list of frames -/

section Unique

variable {P : Platform} {p : PlaybackController} {s s' d : Bytes} {fs fs' : List (Int × Bytes)}

/-- The player that reads a frame section reads one list of frames. -/
theorem Frames.unique {l : List Bytes} (hplay : p.isPlaying = true) (hpause : p.isPaused = false)
    (hl : p.frameCallback = some l) (hc : Cursor p.playbackFile s) (h : Frames P s fs)
    (hc' : Cursor p.playbackFile s') (h' : Frames P s' fs') : fs = fs' := by
  induction fs generalizing p s s' fs' l with
  | nil =>
    cases fs' with
    | nil => rfl
    | cons e' fs' =>
      obtain ⟨f, hstop, -, -⟩ := readNextFrame_nil hplay hpause hc h
      obtain ⟨f', x', hread, -, -, -⟩ := readNextFrame_cons hplay hpause hc' h'
      have hflag := congrArg (fun o : Outcome => o.self.isPlaying) (hstop.symm.trans hread)
      cases hflag.trans hplay
  | cons e fs ih =>
    obtain ⟨f, x, hread, hcur, hrest, -⟩ := readNextFrame_cons hplay hpause hc h
    cases fs' with
    | nil =>
      obtain ⟨f', hstop, -, -⟩ := readNextFrame_nil hplay hpause hc' h'
      have hflag := congrArg (fun o : Outcome => o.self.isPlaying) (hstop.symm.trans hread)
      cases hflag.trans hplay
    | cons e' fs' =>
      obtain ⟨f', x', hread', hcur', hrest', -⟩ := readNextFrame_cons hplay hpause hc' h'
      have hself := congrArg Outcome.self (hread.symm.trans hread')
      have htime : e.1 = e'.1 := congrArg PlaybackController.nextFrameTime hself
      have hframe : some (l ++ [e.2]) = some (l ++ [e'.2]) := by
        have hcall := congrArg PlaybackController.frameCallback hself
        simpa only [hl, Option.map_some] using hcall
      have hfile : f = f' := congrArg PlaybackController.playbackFile hself
      subst hfile
      have hbytes : e.2 = e'.2 := by simpa using hframe
      have htail : fs = fs' := ih (p := (p.readNextFrame P).self) (l := l ++ [e.2])
        (by rw [hread]; exact hplay) (by rw [hread]; exact hpause)
        (by rw [hread, hl]; rfl) (by rw [hread]; exact hcur) hrest
        (by rw [hread]; exact hcur') hrest'
      rw [htail, Prod.ext htime hbytes]

/-- **The frames of a file** are determined by it. -/
theorem Holds.unique (h : Holds P d fs) (h' : Holds P d fs') : fs = fs' := by
  obtain ⟨r, body, rfl, hm, hf⟩ := h
  obtain ⟨r', body', heq, hm', hf'⟩ := h'
  obtain rfl : r = r' := by simpa using heq
  obtain ⟨f, info, hload, hcur, -⟩ := loadRecording_of_metadata (p := {}) rfl hm []
  obtain ⟨f', info', hload', hcur', -⟩ := loadRecording_of_metadata (p := {}) rfl hm' []
  have hfile : f = f' := congrArg (fun x => x.1.playbackFile) (hload.symm.trans hload')
  subst hfile
  exact Frames.unique (p := { playbackFile := f, isPlaying := true, frameCallback := some [] })
    rfl rfl rfl hcur hf hcur' hf'

end Unique

end AsciiStreamer
