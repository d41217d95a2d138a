import Mathlib.Data.List.Induction
import AsciiStreamer.Recording.Playback

/-!
# What is recorded is what is played back

`Journal` is what recording is for: it keeps, for a run of the recorder, the frames converted while
each recording was active. The recorder tracks it (`Recorder.run_tracks`): the file of a completed
recording is the text `recordingText` of its frames, whatever bytes they hold. That text is
metadata and a frame section of the player's grammar (`metadata_header`, `frames_entries`), so the
player delivers exactly those frames (`recording_round_trip`).
-/

namespace AsciiStreamer

open Cxx

/-! ## The text of a recording -/

section RecordingText

def entriesText (es : List (Int × Bytes)) : Bytes := es.flatMap fun e => frameText e.1 e.2

/-- The file of a completed recording with these frames and this duration. -/
def recordingText (t : Tm) (es : List (Int × Bytes)) (seconds : Int) : Bytes :=
  headerText t ++ entriesText es ++ footerText seconds (es.length % 2 ^ 64)

/-- The timestamps and lengths the recorder can meet. -/
def EntriesOk (P : Platform) (es : List (Int × Bytes)) : Prop :=
  ∀ e ∈ es, LLONG_MIN ≤ e.1 ∧ e.1 ≤ LLONG_MAX ∧ e.2.length ≤ P.maxSize

theorem entriesText_concat (es : List (Int × Bytes)) (t : Int) (b : Bytes) :
    entriesText (es ++ [(t, b)]) = entriesText es ++ frameText t b := by
  simp [entriesText]

theorem newline_not_mem_pad2 (n : Nat) : newline ∉ pad2 n := by
  have hn := not_mem_natToDec (c := newline) (by decide) n
  unfold pad2
  split
  · intro h
    rcases List.mem_append.1 h with h | h
    · exact absurd h (by decide)
    · exact hn h
  · exact hn

theorem newline_not_mem_timestampText (t : Tm) : newline ∉ timestampText t := by
  have hy := not_mem_natToDec (c := newline) (by decide) t.year
  have h1 : newline ∉ lit "-" := by decide
  have h2 : newline ∉ lit " " := by decide
  have h3 : newline ∉ lit ":" := by decide
  simp only [timestampText, List.mem_append, not_or]
  exact ⟨⟨⟨⟨⟨⟨⟨⟨⟨⟨hy, h1⟩, newline_not_mem_pad2 _⟩, h1⟩, newline_not_mem_pad2 _⟩, h2⟩,
    newline_not_mem_pad2 _⟩, h3⟩, newline_not_mem_pad2 _⟩, h3⟩, newline_not_mem_pad2 _⟩

theorem headerText_append (t : Tm) (body : Bytes) :
    headerText t ++ body = magic ++ newline :: (lit "version:1.0" ++ newline ::
      ((lit "timestamp:" ++ timestampText t) ++ newline :: (lit "frames:" ++ newline :: body))) := by
  have h0 : lit "ASCII_STREAM_RECORD\n" = magic ++ [newline] := by decide
  have h1 : lit "version:1.0\n" = lit "version:1.0" ++ [newline] := by decide
  have h2 : lit "\n" = [newline] := by decide
  have h3 : lit "frames:\n" = lit "frames:" ++ [newline] := by decide
  simp only [headerText, h0, h1, h2, h3, List.append_assoc, List.cons_append, List.nil_append]

theorem fieldOk_of_key {key value : Bytes} (hc : colon ∉ key) (h1 : key ≠ lit "end_time")
    (h2 : key ≠ lit "frame_count") : FieldOk (key ++ colon :: value) := by
  intro c hfind hkey
  rw [find_append_cons hc, Option.some.injEq] at hfind
  subst hfind
  simp only [substr, List.drop_zero, List.take_left] at hkey
  exact absurd hkey (not_or.2 ⟨h1, h2⟩)

/-- The header of a recording is metadata. -/
theorem metadata_header (t : Tm) (body : Bytes) :
    Metadata (lit "version:1.0" ++ newline :: ((lit "timestamp:" ++ timestampText t) ++ newline ::
      (lit "frames:" ++ newline :: body))) body := by
  have hversion : lit "version:1.0" = lit "version" ++ colon :: lit "1.0" := by decide
  have htimestamp : lit "timestamp:" = lit "timestamp" ++ [colon] := by decide
  have hv : FieldOk (lit "version:1.0") := by
    rw [hversion]
    exact fieldOk_of_key (by decide) (by decide) (by decide)
  have ht : FieldOk (lit "timestamp:" ++ timestampText t) := by
    rw [htimestamp, List.append_assoc, List.singleton_append]
    exact fieldOk_of_key (by decide) (by decide) (by decide)
  refine .line (by decide) (by decide) hv (.line ?_ ?_ ht (.frames body))
  · intro h
    rcases List.mem_append.1 h with h | h
    · exact absurd h (by decide)
    · exact newline_not_mem_timestampText t h
  · intro h
    have hhead : (lit "timestamp:" ++ timestampText t).head? = (lit "frames:").head? :=
      congrArg List.head? h
    rw [List.head?_append_of_ne_nil _ (by decide)] at hhead
    exact absurd hhead (by decide)

theorem frameHeader_fields {key ts len : Bytes} (hkey : colon ∉ key) (hts : colon ∉ ts) :
    frameHeader (key ++ colon :: (ts ++ colon :: len)) = some (ts, len) := by
  have h1 : find colon (key ++ colon :: (ts ++ colon :: len)) 0 = some key.length :=
    find_append_cons hkey _
  have h2 : find colon (key ++ colon :: (ts ++ colon :: len)) (key.length + 1) =
      some (ts.length + (key.length + 1)) := by
    have hsplit : key ++ colon :: (ts ++ colon :: len) =
        (key ++ [colon]) ++ (ts ++ colon :: len) := by simp
    have hlen : (key ++ [colon]).length = key.length + 1 := by simp
    rw [hsplit, ← hlen, find_append_length, find_append_cons hts]
    rfl
  have hdrop : (key ++ colon :: (ts ++ colon :: len)).drop (key.length + 1) =
      ts ++ colon :: len := by
    rw [← List.drop_drop, List.drop_left]
    rfl
  have hlast : (key ++ colon :: (ts ++ colon :: len)).drop (ts.length + (key.length + 1) + 1) =
      len := by
    rw [show ts.length + (key.length + 1) + 1 = key.length + 1 + (ts.length + 1) by omega,
      ← List.drop_drop, hdrop, ← List.drop_drop, List.drop_left]
    rfl
  have hcount : ts.length + (key.length + 1) - key.length - 1 = ts.length := by omega
  simp only [frameHeader, h1, next, h2, substr, substrFrom, hdrop, hlast, hcount, List.take_left]

/-- One colon is too few for a frame header. -/
theorem frameHeader_none {key value : Bytes} (hkey : colon ∉ key) (hvalue : colon ∉ value) :
    frameHeader (key ++ colon :: value) = none := by
  have h1 : find colon (key ++ colon :: value) 0 = some key.length := find_append_cons hkey _
  have h2 : find colon (key ++ colon :: value) (key.length + 1) = none := by
    have hsplit : key ++ colon :: value = (key ++ [colon]) ++ value := by simp
    have hlen : (key ++ [colon]).length = key.length + 1 := by simp
    rw [hsplit, ← hlen, find_append_length, find_eq_none.2 hvalue]
    rfl
  simp only [frameHeader, h1, next, h2]

theorem not_mem_frame_header {c : UInt8} (hc : isDigit c = false) (hminus : c ≠ 45)
    (hcolon : c ≠ colon) (hlit : c ∉ lit "frame") (t : Int) (n : Nat) :
    c ∉ lit "frame" ++ colon :: (intToDec t ++ colon :: natToDec n) := by
  have ht := not_mem_intToDec hc hminus t
  have hn := not_mem_natToDec hc n
  simp only [List.mem_append, List.mem_cons, not_or]
  exact ⟨hlit, hcolon, ht, hcolon, hn⟩

theorem frameText_append (t : Int) (b rest : Bytes) :
    frameText t b ++ rest = (lit "frame" ++ colon :: (intToDec t ++ colon :: natToDec b.length)) ++
      newline :: (b ++ newline :: rest) := by
  have h1 : lit "frame:" = lit "frame" ++ [colon] := rfl
  have h2 : lit ":" = [colon] := rfl
  have h3 : lit "\n" = [newline] := rfl
  simp only [frameText, h1, h2, h3, List.append_assoc, List.cons_append, List.nil_append]

theorem footer_eq (seconds : Int) (count : Nat) : footerText seconds count =
    (lit "end_time" ++ colon :: intToDec seconds) ++ newline ::
      (lit "frame_count:" ++ natToDec count ++ lit "\n") := by
  have h1 : lit "end_time:" = lit "end_time" ++ [colon] := rfl
  have h2 : lit "\n" = [newline] := rfl
  simp only [footerText, h1, h2, List.append_assoc, List.cons_append, List.nil_append]

/-- The footer is no frame header. -/
theorem frames_footer (P : Platform) (seconds : Int) (count : Nat) :
    Frames P (footerText seconds count) [] := by
  have hsec := not_mem_intToDec (c := newline) (by decide) (by decide) seconds
  rw [footer_eq]
  refine .footer _ ?_ (frameHeader_none (by decide) ?_)
  · intro h
    rcases List.mem_append.1 h with h | h
    · exact absurd h (by decide)
    · rcases List.mem_cons.1 h with h | h
      · exact absurd h (by decide)
      · exact hsec h
  · exact not_mem_intToDec (by decide) (by decide) seconds

/-- **The frames of a recording are a frame section** in front of anything that holds none. -/
theorem frames_entries_append {P : Platform} {rest : Bytes} (hrest : Frames P rest [])
    {es : List (Int × Bytes)} (h : EntriesOk P es) : Frames P (entriesText es ++ rest) es := by
  induction es with
  | nil => exact hrest
  | cons e es ih =>
    obtain ⟨t, b⟩ := e
    obtain ⟨hmin, hmax, hlen⟩ := h (t, b) List.mem_cons_self
    have htail := ih fun e he => h e (List.mem_cons_of_mem _ he)
    have hlt : b.length < 2 ^ 64 := by
      have := P.maxSize_lt
      simp only at hlen
      omega
    have htext : entriesText ((t, b) :: es) = frameText t b ++ entriesText es := rfl
    rw [htext, List.append_assoc, frameText_append]
    refine .frame ?_ (frameHeader_fields (by decide) ?_) (stoll_intToDec hmin hmax)
      (stoul_natToDec hlt) hlen htail
    · exact not_mem_frame_header (by decide) (by decide) (by decide) (by decide) t b.length
    · exact not_mem_intToDec (by decide) (by decide) t

theorem frames_entries {P : Platform} (seconds : Int) (count : Nat) {es : List (Int × Bytes)}
    (h : EntriesOk P es) : Frames P (entriesText es ++ footerText seconds count) es :=
  frames_entries_append (frames_footer P seconds count) h

end RecordingText

/-! ## What recording is for -/

structure Recording where
  name : Bytes
  frames : List Bytes
  deriving DecidableEq, Repr

/-- The recording in progress, the completed ones, and the names of all that were started. -/
structure Journal where
  active : Option Recording := none
  completed : List Recording := []
  opened : List Bytes := []

namespace Journal

variable {P : Platform}

def step (j : Journal) : RecordEvent P → Journal
  | .startRecording t _ => match j.active with
    | some _ => j
    | none => { j with
        active := some { name := recordingName t, frames := [] }
        opened := j.opened ++ [recordingName t] }
  | .stopRecording _ => match j.active with
    | some r => { j with active := none, completed := j.completed ++ [r] }
    | none => j
  | .frameConverted frame _ => match j.active with
    | some r => { j with active := some { r with frames := r.frames ++ [frame.bytes] } }
    | none => j

def run (es : List (RecordEvent P)) : Journal := es.foldl step {}

end Journal

/-! ## The recorder tracks the journal -/

section Tracks

variable {P : Platform}

/-- A text the recorder completes for these frames. -/
def Completed (P : Platform) (content : Bytes) (frames : List Bytes) : Prop :=
  ∃ t es seconds, content = recordingText t es seconds ∧ EntriesOk P es ∧
    es.map Prod.snd = frames

structure Tracks (P : Platform) (s : Recorder) (j : Journal) : Prop where
  isRecording : s.controller.isRecording = j.active.isSome
  active : ∀ r, j.active = some r → s.controller.recordFile = some r.name ∧
    ∃ t es, s.disk r.name = some (headerText t ++ entriesText es) ∧ EntriesOk P es ∧
      es.map Prod.snd = r.frames ∧ s.controller.frameCount = es.length % 2 ^ 64
  completed : ∀ r ∈ j.completed, ∃ content, s.disk r.name = some content ∧
    Completed P content r.frames
  opened : j.opened = j.completed.map Recording.name ++ j.active.toList.map Recording.name

theorem durationCast_bounds (now start : Instant) (d : Int) :
    LLONG_MIN ≤ durationCast now start d ∧ durationCast now start d ≤ LLONG_MAX := by
  have habs := Int.natAbs_tdiv_le_natAbs ((now : Int) - (start : Int)) d
  have hnow := now.isLt
  have hstart := start.isLt
  simp only [durationCast, LLONG_MIN, LLONG_MAX]
  omega

theorem entriesOk_concat {es : List (Int × Bytes)} (h : EntriesOk P es) {t : Int} {b : Bytes}
    (ht : LLONG_MIN ≤ t ∧ t ≤ LLONG_MAX) (hb : b.length ≤ P.maxSize) :
    EntriesOk P (es ++ [(t, b)]) := by
  intro e he
  rcases List.mem_append.1 he with he | he
  · exact h e he
  · rw [List.mem_singleton] at he
    subst he
    exact ⟨ht.1, ht.2, hb⟩

/-- A new recorder, whatever is on the disk already. -/
theorem tracks_disk (disk : Disk) : Tracks P { disk := disk } {} :=
  ⟨rfl, nofun, nofun, rfl⟩

theorem Tracks.startRecording {s : Recorder} {j : Journal} (h : Tracks P s j) (t : Tm)
    (now : Instant) (hown : (j.step (P := P) (.startRecording t now)).opened.Nodup) :
    Tracks P (s.step (P := P) (.startRecording t now)) (j.step (P := P) (.startRecording t now)) := by
  cases hact : j.active with
  | some r =>
    have hrec : s.controller.isRecording = true := by rw [h.isRecording, hact]; rfl
    have hs : s.step (P := P) (.startRecording t now) = s := by
      simp [Recorder.step, RecordController.startRecording, hrec]
    have hj : j.step (P := P) (.startRecording t now) = j := by simp [Journal.step, hact]
    rw [hs, hj]
    exact h
  | none =>
    have hrec : s.controller.isRecording = false := by rw [h.isRecording, hact]; rfl
    have hopened : j.opened = j.completed.map Recording.name := by
      simpa [hact] using h.opened
    have hj : j.step (P := P) (.startRecording t now) =
        { j with
          active := some { name := recordingName t, frames := [] }
          opened := j.opened ++ [recordingName t] } := by simp [Journal.step, hact]
    rw [hj] at hown ⊢
    have hfresh : ∀ r ∈ j.completed, r.name ≠ recordingName t := by
      intro r hr heq
      have hmem : recordingName t ∈ j.opened := by
        rw [hopened, ← heq]
        exact List.mem_map_of_mem hr
      exact (List.nodup_append.1 hown).2.2 _ hmem _ (List.mem_singleton_self _) rfl
    simp only [Recorder.step, RecordController.startRecording, hrec, Bool.false_eq_true, ↓reduceIte]
    refine ⟨rfl, ?_, ?_, by rw [hopened]; rfl⟩
    · intro r hr
      simp only [Option.some.injEq] at hr
      subst hr
      exact ⟨rfl, t, [], by simp [entriesText], fun _ hx => absurd hx List.not_mem_nil, rfl, rfl⟩
    · intro r hr
      obtain ⟨content, hdisk, hc⟩ := h.completed r hr
      refine ⟨content, ?_, hc⟩
      change s.disk.write (recordingName t) (headerText t) r.name = some content
      rw [Disk.write_other (hfresh r hr), hdisk]

/-- A change to the active recording's file leaves the completed ones alone. -/
theorem Tracks.name_ne {s : Recorder} {j : Journal} (h : Tracks P s j) (hown : j.opened.Nodup)
    {r a : Recording} (hr : r ∈ j.completed) (ha : j.active = some a) : r.name ≠ a.name := by
  intro heq
  rw [h.opened, ha] at hown
  exact (List.nodup_append.1 hown).2.2 _ (List.mem_map_of_mem hr) _ (by simp) heq

theorem Tracks.stopRecording {s : Recorder} {j : Journal} (h : Tracks P s j) (now : Instant)
    (hown : j.opened.Nodup) :
    Tracks P (s.step (P := P) (.stopRecording now)) (j.step (P := P) (.stopRecording now)) := by
  cases hact : j.active with
  | none =>
    have hrec : s.controller.isRecording = false := by rw [h.isRecording, hact]; rfl
    have hs : s.step (P := P) (.stopRecording now) = s := by
      simp [Recorder.step, RecordController.stopRecording, hrec]
    have hj : j.step (P := P) (.stopRecording now) = j := by simp [Journal.step, hact]
    rw [hs, hj]
    exact h
  | some a =>
    have hrec : s.controller.isRecording = true := by rw [h.isRecording, hact]; rfl
    obtain ⟨hfile, t, es, hdisk, hok, hframes, hcount⟩ := h.active a hact
    simp only [Recorder.step, RecordController.stopRecording, hrec, ↓reduceIte, hfile, Journal.step,
      hact]
    refine ⟨rfl, by simp, ?_, by simp [h.opened, hact]⟩
    intro r hr
    rcases List.mem_append.1 hr with hr | hr
    · obtain ⟨content, hd, hc⟩ := h.completed r hr
      refine ⟨content, ?_, hc⟩
      change s.disk.append a.name _ r.name = some content
      rw [Disk.append_other (h.name_ne hown hr hact), hd]
    · rw [List.mem_singleton] at hr
      subst hr
      refine ⟨_, Disk.append_self hdisk _, t, es,
        durationCast now s.controller.startTime 1000000000, ?_, hok, hframes⟩
      rw [recordingText, hcount]

theorem Tracks.frameConverted {s : Recorder} {j : Journal} (h : Tracks P s j) (frame : Str P)
    (now : Instant) (hown : j.opened.Nodup) :
    Tracks P (s.step (.frameConverted frame now)) (j.step (.frameConverted frame now)) := by
  cases hact : j.active with
  | none =>
    have hrec : s.controller.isRecording = false := by rw [h.isRecording, hact]; rfl
    have hs : s.step (.frameConverted frame now) = s := by simp [Recorder.step, hrec]
    have hj : j.step (.frameConverted frame now) = j := by simp [Journal.step, hact]
    rw [hs, hj]
    exact h
  | some a =>
    have hrec : s.controller.isRecording = true := by rw [h.isRecording, hact]; rfl
    obtain ⟨hfile, t, es, hdisk, hok, hframes, hcount⟩ := h.active a hact
    simp only [Recorder.step, RecordController.writeFrame, hrec, ↓reduceIte, hfile, Journal.step,
      hact]
    refine ⟨rfl, ?_, ?_, by simp [h.opened, hact]⟩
    · intro r hr
      simp only [Option.some.injEq] at hr
      subst hr
      refine ⟨rfl, t, es ++ [(durationCast now s.controller.startTime 1000000, frame.bytes)], ?_,
        entriesOk_concat hok (durationCast_bounds _ _ _) frame.fits, by simp [hframes], ?_⟩
      · show s.disk.append a.name _ a.name = _
        rw [Disk.append_self hdisk, entriesText_concat, List.append_assoc]
      · simp only [hcount, List.length_append, List.length_singleton]
        omega
    · intro r hr
      obtain ⟨content, hd, hc⟩ := h.completed r hr
      refine ⟨content, ?_, hc⟩
      change s.disk.append a.name _ r.name = some content
      rw [Disk.append_other (h.name_ne hown hr hact), hd]

theorem opened_step (j : Journal) (e : RecordEvent P) : j.opened <+: (j.step e).opened := by
  cases e with
  | startRecording t now =>
    simp only [Journal.step]
    split
    · exact List.prefix_refl _
    · exact List.prefix_append _ _
  | stopRecording now => simp only [Journal.step]; split <;> exact List.prefix_refl _
  | frameConverted frame now => simp only [Journal.step]; split <;> exact List.prefix_refl _

theorem Tracks.step {s : Recorder} {j : Journal} (h : Tracks P s j) (e : RecordEvent P)
    (hown : (j.step e).opened.Nodup) : Tracks P (s.step e) (j.step e) := by
  have hown' : j.opened.Nodup := hown.sublist (opened_step j e).sublist
  cases e with
  | startRecording t now => exact h.startRecording t now hown
  | stopRecording now => exact h.stopRecording now hown'
  | frameConverted frame now => exact h.frameConverted frame now hown'

/-- The recorder writes to its own files only. -/
theorem Tracks.disk_step {s : Recorder} {j : Journal} (h : Tracks P s j) (e : RecordEvent P)
    {path : Bytes} (hpath : path ∉ (j.step e).opened) : (s.step e).disk path = s.disk path := by
  cases hact : j.active with
  | none =>
    have hrec : s.controller.isRecording = false := by rw [h.isRecording, hact]; rfl
    cases e with
    | startRecording t now =>
      simp only [Journal.step, hact] at hpath
      have hne : path ≠ recordingName t := fun heq =>
        hpath (List.mem_append_right _ (List.mem_singleton.2 heq))
      simp only [Recorder.step, RecordController.startRecording, hrec, Bool.false_eq_true,
        ↓reduceIte]
      exact Disk.write_other hne
    | stopRecording now =>
      simp only [Recorder.step, RecordController.stopRecording, hrec, Bool.false_eq_true, ↓reduceIte]
    | frameConverted frame now => simp only [Recorder.step, hrec, Bool.false_eq_true, ↓reduceIte]
  | some a =>
    have hrec : s.controller.isRecording = true := by rw [h.isRecording, hact]; rfl
    have hfile := (h.active a hact).1
    have hne : path ≠ a.name := by
      rintro rfl
      refine hpath ((opened_step j e).subset ?_)
      rw [h.opened, hact]
      exact List.mem_append_right _ List.mem_cons_self
    cases e with
    | startRecording t now =>
      simp only [Recorder.step, RecordController.startRecording, hrec, ↓reduceIte]
    | stopRecording now =>
      simp only [Recorder.step, RecordController.stopRecording, hrec, ↓reduceIte, hfile]
      exact Disk.append_other hne
    | frameConverted frame now =>
      simp only [Recorder.step, RecordController.writeFrame, hrec, ↓reduceIte, hfile]
      exact Disk.append_other hne

/-- **The recorder tracks the journal** over every run whose recordings have their own files. -/
theorem Recorder.run_tracks (es : List (RecordEvent P)) (hown : (Journal.run es).opened.Nodup) :
    Tracks P (Recorder.run {} es) (Journal.run es) := by
  induction es using List.reverseRecOn with
  | nil => exact tracks_disk _
  | append_singleton es e ih =>
    have hj : Journal.run (es ++ [e]) = (Journal.run es).step e := by
      simp [Journal.run, List.foldl_append]
    have hs : Recorder.run {} (es ++ [e]) = (Recorder.run {} es).step e := by
      simp [Recorder.run, List.foldl_append]
    rw [hj] at hown ⊢
    rw [hs]
    exact (ih (hown.sublist (opened_step _ e).sublist)).step e hown

end Tracks

/-! ## One recording -/

section Take

variable {P : Platform}

/-- A recording starts, frames are written to it, and it stops. -/
def takeRecording (t : Tm) (start : Instant) (frames : List (Str P × Instant)) (stop : Instant) :
    List (RecordEvent P) :=
  .startRecording t start :: frames.map (fun x => .frameConverted x.1 x.2) ++ [.stopRecording stop]

/-- The frames with the milliseconds since the start. -/
def takeEntries (start : Instant) (frames : List (Str P × Instant)) : List (Int × Bytes) :=
  frames.map fun x => (durationCast x.2 start 1000000, x.1.bytes)

theorem takeEntries_ok (start : Instant) (frames : List (Str P × Instant)) :
    EntriesOk P (takeEntries start frames) := by
  intro e he
  obtain ⟨x, -, rfl⟩ := List.mem_map.1 he
  have hts := durationCast_bounds x.2 start 1000000
  exact ⟨hts.1, hts.2, x.1.fits⟩

/-- The recorder while the recording runs. -/
theorem run_frames (start : Instant) (name head : Bytes) (frames : List (Str P × Instant)) :
    ∀ {s : Recorder} {l : List (Int × Bytes)}, s.controller.isRecording = true →
      s.controller.recordFile = some name → s.controller.startTime = start →
      s.controller.frameCount = l.length % 2 ^ 64 → s.disk name = some (head ++ entriesText l) →
      ∃ s', s.run (frames.map fun x => RecordEvent.frameConverted x.1 x.2) = s' ∧
        s'.controller.isRecording = true ∧ s'.controller.recordFile = some name ∧
        s'.controller.startTime = start ∧
        s'.controller.frameCount = (l ++ takeEntries start frames).length % 2 ^ 64 ∧
        s'.disk name = some (head ++ entriesText (l ++ takeEntries start frames)) := by
  induction frames with
  | nil =>
    intro s l hrec hfile hstart hcount hdisk
    refine ⟨s, rfl, hrec, hfile, hstart, ?_, ?_⟩
    · rw [hcount, takeEntries, List.map_nil, List.append_nil]
    · rw [hdisk, takeEntries, List.map_nil, List.append_nil]
  | cons x xs ih =>
    intro s l hrec hfile hstart hcount hdisk
    have hstep : s.step (RecordEvent.frameConverted x.1 x.2) =
        { controller := { s.controller with frameCount := (s.controller.frameCount + 1) % 2 ^ 64 }
          disk := s.disk.append name
            (frameText (durationCast x.2 start 1000000) x.1.bytes) } := by
      simp only [Recorder.step, hrec, ↓reduceIte, RecordController.writeFrame, hfile, hstart]
    obtain ⟨s', hrun, hrec', hfile', hstart', hcount', hdisk'⟩ :=
      ih (s := s.step (RecordEvent.frameConverted x.1 x.2))
        (l := l ++ [(durationCast x.2 start 1000000, x.1.bytes)])
        (by rw [hstep]; exact hrec) (by rw [hstep]; exact hfile) (by rw [hstep]; exact hstart)
        (by rw [hstep, List.length_append]; simp only [hcount, List.length_singleton]; omega)
        (by rw [hstep]; simp only [Disk.append_self hdisk, entriesText_concat, List.append_assoc])
    rw [List.append_assoc] at hcount' hdisk'
    exact ⟨s', hrun, hrec', hfile', hstart', hcount', hdisk'⟩

/-- **The file of a recording**, from any state in which none is running. -/
theorem run_takeRecording {s : Recorder} (h : s.controller.isRecording = false) (t : Tm)
    (start : Instant) (frames : List (Str P × Instant)) (stop : Instant) :
    (s.run (takeRecording t start frames stop)).disk (recordingName t) =
      some (recordingText t (takeEntries start frames) (durationCast stop start 1000000000)) := by
  have hstart : s.step (P := P) (.startRecording t start) =
      { controller :=
          { recordFile := some (recordingName t), isRecording := true, filename := recordingName t,
            startTime := start, frameCount := 0 }
        disk := s.disk.write (recordingName t) (headerText t) } := by
    simp only [Recorder.step, RecordController.startRecording, h, Bool.false_eq_true, ↓reduceIte]
  obtain ⟨s', hrun, hrec, hfile, htime, hcount, hdisk⟩ :=
    run_frames start (recordingName t) (headerText t) frames (l := [])
      (s := s.step (P := P) (.startRecording t start)) (by rw [hstart]) (by rw [hstart])
      (by rw [hstart]) (by rw [hstart]; rfl)
      (by rw [hstart]; simp only [Disk.write_self, entriesText, List.flatMap_nil, List.append_nil])
  have hall : s.run (takeRecording t start frames stop) = s'.step (P := P) (.stopRecording stop) := by
    rw [takeRecording, Recorder.run, List.cons_append, List.foldl_cons, List.foldl_append]
    exact congrArg (fun x : Recorder => x.step (P := P) (.stopRecording stop)) hrun
  rw [hall]
  simp only [Recorder.step, RecordController.stopRecording, hrec, ↓reduceIte, hfile, htime, hcount,
    List.nil_append, Disk.append_self hdisk, recordingText, List.append_assoc]

end Take

/-! ## The round trip -/

section RoundTrip

variable {P : Platform}

/-- A completed text loads, and leaves the cursor at exactly its frames. -/
theorem Completed.load {content : Bytes} {frames : List Bytes} (h : Completed P content frames)
    {p : PlaybackController} (hp : p.stopPlayback.playbackFile.isOpen = false) (name : Bytes) :
    ∃ f info s es, p.loadRecording name (some content) =
        ({ p.stopPlayback with playbackFile := f, currentRecordingInfo := info }, .ok true) ∧
      Cursor f s ∧ Frames P s es ∧ es.map Prod.snd = frames ∧ f.data = content := by
  obtain ⟨t, es, seconds, rfl, hok, hframes⟩ := h
  have hm := metadata_header t (entriesText es ++ footerText seconds (es.length % 2 ^ 64))
  obtain ⟨f, info, hload, hcur, hdata⟩ := loadRecording_of_metadata hp hm name
  rw [← headerText_append, ← List.append_assoc] at hload hdata
  exact ⟨f, info, _, es, hload, hcur, frames_entries seconds _ hok, hframes, hdata⟩

/-- **The recording round trip**: playing the file of a completed recording delivers exactly the
frames converted while it was active, in order, and then stops and closes the file. -/
theorem recording_round_trip (es : List (RecordEvent P)) (hown : (Journal.run es).opened.Nodup)
    (r : Recording) (hr : r ∈ (Journal.run es).completed) :
    ∃ p, PlaybackController.loadRecording {} r.name ((Recorder.run {} es).disk r.name) =
        (p, .ok true) ∧
      ∀ n, (playFor P p n).exn = none ∧
        (playFor P p n).self.delivered = r.frames.take (n + 1) ∧
        (r.frames.length ≤ n → (playFor P p n).self.isPlaying = false ∧
          (playFor P p n).self.playbackFile.isOpen = false) := by
  obtain ⟨content, hdisk, hc⟩ := (Recorder.run_tracks es hown).completed r hr
  obtain ⟨f, info, s, fs, hload, hcur, hfs, hframes, -⟩ :=
    hc.load (p := {}) (by rfl) r.name
  have hlen : fs.length = r.frames.length := by rw [← hframes, List.length_map]
  rw [hdisk]
  refine ⟨_, hload, fun n => ?_⟩
  obtain ⟨hexn, hcase⟩ := playFor_frames (P := P) (p := { PlaybackController.stopPlayback {} with
    playbackFile := f, currentRecordingInfo := info }) rfl hcur hfs n
  refine ⟨hexn, ?_⟩
  rw [← hframes, List.length_map]
  rcases hcase with ⟨hlt, hwait⟩ | ⟨hle, hstop⟩
  · refine ⟨?_, fun hle => absurd hlt (Nat.not_lt.2 hle)⟩
    rw [PlaybackController.delivered, hwait.delivered]
    rfl
  · refine ⟨?_, fun _ => ⟨hstop.isPlaying, hstop.closed⟩⟩
    rw [PlaybackController.delivered, hstop.delivered,
      List.take_of_length_le (by rw [List.length_map]; omega)]
    rfl

def noon : Tm := { year := 2025, mon := 3, mday := 1, hour := 12, min := 0, sec := 0 }

/-- A run that records two frames, one of which looks like the rest of a recording. -/
def shortRun : List (RecordEvent x86_64) :=
  [.frameConverted ⟨lit "lost", by decide⟩ 5, .startRecording noon 10,
    .frameConverted ⟨lit "frames:\nframe:1:2\nend_time:3\n", by decide⟩ 20, .startRecording noon 25,
    .frameConverted ⟨[], by decide⟩ 2000030, .stopRecording 3000000040, .stopRecording 3000000050]

theorem recording_round_trip_shortRun :
    ∃ p, PlaybackController.loadRecording {} (recordingName noon)
        ((Recorder.run {} shortRun).disk (recordingName noon)) = (p, .ok true) ∧
      ∀ n, (playFor x86_64 p n).exn = none ∧
        (playFor x86_64 p n).self.delivered =
          [lit "frames:\nframe:1:2\nend_time:3\n", []].take (n + 1) ∧
        (2 ≤ n → (playFor x86_64 p n).self.isPlaying = false ∧
          (playFor x86_64 p n).self.playbackFile.isOpen = false) :=
  recording_round_trip shortRun (by decide)
    { name := recordingName noon, frames := [lit "frames:\nframe:1:2\nend_time:3\n", []] }
    (by decide)

end RoundTrip

end AsciiStreamer
