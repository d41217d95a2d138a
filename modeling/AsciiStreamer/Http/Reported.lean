import Mathlib.Data.List.Nodup
import AsciiStreamer.Http.Listing

/-!
# What is reported about a recording

`stop_recording` writes the duration and the number of frames behind the frames, and both readers
of the metadata stop in front of them: the loader keeps the zeros it starts with, and the listing
has no such fields (`metadata_reported_iff`).
-/

namespace AsciiStreamer

open Cxx Json

/-- Loading the file reports this number of frames and this duration. -/
def LoaderReports (name content : Bytes) (count seconds : Int) : Prop :=
  ∃ p, PlaybackController.loadRecording {} name (some content) = (p, .ok true) ∧
    p.currentRecordingInfo.frameCount = count ∧ p.currentRecordingInfo.duration = seconds

/-- The listing has an entry for the file that reports them. -/
def ListingReports (d : Directory) (filename : Bytes) (count seconds : Int) : Prop :=
  ∃ fields, .object fields ∈ listEntries d.entries ∧
    find? fields (lit "filename") = some (.string filename) ∧
    find? fields (lit "frame_count") = some (.integer count) ∧
    find? fields (lit "duration") = some (.integer seconds)

/-! ## The metadata of a header -/

section Header

theorem field_key (key value : Bytes) :
    substr (key ++ colon :: value) 0 key.length = key ∧
      substrFrom (key ++ colon :: value) (key.length + 1) = value := by
  constructor
  · rw [substr, List.drop_zero, List.take_left]
  · rw [substrFrom, ← List.drop_drop, List.drop_left]
    rfl

theorem FileInfo.read_timestamp (i : FileInfo) (value : Bytes) :
    i.read (lit "timestamp:" ++ value) = .ok { i with timestamp := some value } := by
  have hline : lit "timestamp:" ++ value = lit "timestamp" ++ colon :: value := rfl
  obtain ⟨hkey, hvalue⟩ := field_key (lit "timestamp") value
  rw [hline, FileInfo.read, find_append_cons (by decide)]
  simp only [hkey, hvalue, ↓reduceIte]

theorem metadataLine_timestamp (info : RecordingInfo) (value : Bytes) :
    metadataLine info (lit "timestamp:" ++ value) = .ok { info with timestamp := value } := by
  have hline : lit "timestamp:" ++ value = lit "timestamp" ++ colon :: value := rfl
  obtain ⟨hkey, hvalue⟩ := field_key (lit "timestamp") value
  rw [hline, metadataLine, find_append_cons (by decide)]
  simp only [hkey, hvalue, ↓reduceIte]

/-- The loader's first scan is the scan of its lines. -/
theorem readMetadata_scan (fuel : Nat) (f : IFStream) (line : Bytes) (info : RecordingInfo) :
    IFStream.scanLines (lit "frames:") metadataLine fuel f line info =
      match readMetadata fuel f line info with
      | (_, info, none) => .ok info
      | (_, _, some e) => .error e := by
  induction fuel generalizing f line info with
  | zero => rfl
  | succ fuel ih =>
    rw [IFStream.scanLines, readMetadata]
    rcases f.getline line with ⟨f', l⟩
    simp only
    split
    · rfl
    · cases metadataLine info l with
      | error e => rfl
      | ok info' => exact ih f' l info'

/-- The metadata of a recording is the version and the timestamp, whatever follows the header. -/
theorem metadataLines_header (t : Tm) (body : Bytes) : metadataLines (headerText t ++ body) =
    [lit "version:1.0", lit "timestamp:" ++ timestampText t] := by
  have hts : newline ∉ lit "timestamp:" ++ timestampText t := by
    rw [List.mem_append, not_or]
    exact ⟨by decide, newline_not_mem_timestampText t⟩
  have hne : (lit "timestamp:" ++ timestampText t != lit "frames:") = true := by
    rw [bne_iff_ne]
    intro h
    have hhead : (lit "timestamp:" ++ timestampText t).head? = (lit "frames:").head? :=
      congrArg List.head? h
    rw [List.head?_append_of_ne_nil _ (by decide)] at hhead
    exact absurd hhead (by decide)
  unfold metadataLines
  rw [headerText_append, splitLine_cons_newline (by decide)]
  simp only
  rw [linesOf_cons_newline (by decide), linesOf_cons_newline hts,
    linesOf_cons_newline frames_line, List.takeWhile_cons_of_pos (by decide),
    List.takeWhile_cons_of_pos (p := (· != lit "frames:")) hne, List.takeWhile_cons_of_neg (by decide)]

theorem foldlM_header {α : Type} {step : α → Bytes → Except Exn α} {a b : α} {t : Tm}
    (hversion : step a (lit "version:1.0") = .ok a)
    (htimestamp : step a (lit "timestamp:" ++ timestampText t) = .ok b) (body : Bytes) :
    (metadataLines (headerText t ++ body)).foldlM step a = .ok b := by
  rw [metadataLines_header]
  simp only [List.foldlM_cons, List.foldlM_nil, hversion]
  change step a (lit "timestamp:" ++ timestampText t) >>= pure = .ok b
  rw [htimestamp]
  rfl

end Header

/-! ## The two readers -/

section Readers

variable {t : Tm} {body name : Bytes}

/-- The loader accepts the file, and knows its timestamp and its size. -/
theorem loadRecording_header (t : Tm) (body name : Bytes) : ∃ p size,
    PlaybackController.loadRecording {} name (some (headerText t ++ body)) = (p, .ok true) ∧
      p.currentRecordingInfo =
        { filename := name, timestamp := timestampText t, fileSize := size } := by
  have hscan := scanLines_metadata metadataLine (headerText t ++ body) [] { filename := name }
  rw [foldlM_header rfl (metadataLine_timestamp _ _), readMetadata_scan] at hscan
  have hat := (IFStream.open_at (f := {}) rfl (headerText t ++ body)).1
  rw [headerText_append] at hat
  obtain ⟨f, hg, -, -⟩ := hat.getline (by decide) []
  rw [← headerText_append] at hg
  rw [hg] at hscan
  simp only at hscan
  rcases hread : readMetadata (f.rest.length + 1) f [] { filename := name } with ⟨f', info, e⟩
  rw [hread] at hscan
  have hok : (PlaybackController.stopPlayback {}).playbackFile.open'
      (some (headerText t ++ body)) = IFStream.open' {} (some (headerText t ++ body)) := rfl
  have hfile : (IFStream.open' {} (some (headerText t ++ body))).isOpen = true := rfl
  cases e with
  | some e => cases hscan
  | none =>
    cases hscan
    unfold PlaybackController.loadRecording
    simp only [hok, hfile, hg, hread, Bool.not_true, Bool.false_eq_true, ↓reduceIte]
    rw [if_neg (by exact fun h => h rfl)]
    exact ⟨_, _, rfl, rfl⟩

/-- The listing knows no more than the timestamp either. -/
theorem fileInfo_header {entry : DirEntry} {fields : List (Bytes × Json)}
    (hcontent : entry.content = some (headerText t ++ body)) (h : entry.fileInfo = .ok fields) :
    find? fields (lit "frame_count") = none := by
  obtain ⟨size, lastModified, i, -, rfl, hi⟩ := DirEntry.fileInfo_eq h
  rw [DirEntry.metadata, hcontent] at hi
  simp only at hi
  rw [foldlM_header rfl (FileInfo.read_timestamp _ _)] at hi
  cases hi
  rfl

end Readers

/-! ## Neither reports the footer -/

section Reported

variable {P : Platform}

/-- **What is reported about a recording**: the listing never reports how many frames it has and
how long it took, and loading it does so only if both are zero. -/
theorem metadata_reported_iff {s : Recorder} (hs : s.controller.isRecording = false) (t : Tm)
    (start : Instant) (frames : List (Str P × Instant)) (stop : Instant) {content : Bytes}
    (hdisk : (s.run (takeRecording t start frames stop)).disk (recordingName t) = some content)
    {d : Directory} {entry : DirEntry} (hentry : entry ∈ d.entries)
    (hcontent : entry.content = some content) :
    (LoaderReports (recordingName t) content frames.length (durationCast stop start 1000000000) ↔
      frames = [] ∧ durationCast stop start 1000000000 = 0) ∧
    ¬ListingReports d entry.filename frames.length (durationCast stop start 1000000000) := by
  rw [run_takeRecording hs, Option.some.injEq, recordingText, List.append_assoc] at hdisk
  subst hdisk
  constructor
  · obtain ⟨p, size, hload, hinfo⟩ := loadRecording_header t (entriesText (takeEntries start frames) ++
      footerText (durationCast stop start 1000000000) ((takeEntries start frames).length % 2 ^ 64))
      (recordingName t)
    constructor
    · rintro ⟨p', hload', hcount, hseconds⟩
      cases hload.symm.trans hload'
      rw [hinfo] at hcount hseconds
      exact ⟨List.length_eq_zero_iff.1 (Int.natCast_eq_zero.1 hcount.symm), hseconds.symm⟩
    · rintro ⟨rfl, hseconds⟩
      refine ⟨p, hload, ?_, ?_⟩
      · rw [hinfo]
        rfl
      · rw [hinfo, hseconds]
  · rintro ⟨fields, hmem, hfile, hcount, -⟩
    obtain ⟨entry', hmem', hlisted⟩ := mem_listEntries hmem
    obtain ⟨i, rfl, hname, -⟩ := DirEntry.fileInfo_text (fileInfo_of_listed hlisted)
    rw [FileInfo.find?_filename, Option.some.injEq, string.injEq, hname] at hfile
    have heq : entry = entry' := List.inj_on_of_nodup_map d.nodup hentry hmem' hfile.symm
    subst heq
    have hnone := fileInfo_header hcontent (fileInfo_of_listed hlisted)
    rw [hcount] at hnone
    cases hnone

/-- A recording of one frame that took a second. -/
def oneSecond : List (RecordEvent x86_64) :=
  takeRecording noon 0 [(⟨lit "ab", by decide⟩, 500000000)] 1000000000

def oneSecondText : Bytes :=
  headerText noon ++ lit "frame:500:2\nab\nend_time:1\nframe_count:1\n"

def oneSecondEntry : DirEntry where
  filename := lit "ascii_stream_20250301_120000.asr"
  isRegularFile := .ok true
  fileSize := .ok oneSecondText.length
  lastWriteTime := .ok 0
  content := some oneSecondText

def oneSecondDirectory : Directory where
  entries := [oneSecondEntry]
  nodup := List.nodup_singleton _

theorem oneSecond_disk :
    (Recorder.run {} oneSecond).disk (recordingName noon) = some oneSecondText := by
  decide +kernel

theorem metadata_reported_iff_oneSecond :
    (LoaderReports (recordingName noon) oneSecondText 1 1 ↔
      [(⟨lit "ab", by decide⟩, 500000000)] = ([] : List (Str x86_64 × Instant)) ∧
        durationCast 1000000000 0 1000000000 = 0) ∧
    ¬ListingReports oneSecondDirectory oneSecondEntry.filename 1 1 :=
  metadata_reported_iff (s := {}) rfl noon 0 [(⟨lit "ab", by decide⟩, 500000000)] 1000000000
    oneSecond_disk (List.mem_singleton_self oneSecondEntry) rfl

/-- Neither reader reports its one frame and its one second. -/
theorem oneSecond_not_reported :
    (Recorder.run {} oneSecond).disk (recordingName noon) = some oneSecondText ∧
      ¬LoaderReports (recordingName noon) oneSecondText 1 1 ∧
      ¬ListingReports oneSecondDirectory oneSecondEntry.filename 1 1 := by
  refine ⟨oneSecond_disk, ?_, ?_⟩
  · rintro ⟨p, hload, hcount, -⟩
    have hzero : (PlaybackController.loadRecording {} (recordingName noon)
        (some oneSecondText)).1.currentRecordingInfo.frameCount = 0 := by
      decide +kernel
    rw [hload, hcount] at hzero
    cases hzero
  · rintro ⟨fields, hmem, -, hcount, -⟩
    have hfields := List.mem_singleton.1 hmem
    rw [Json.object.injEq] at hfields
    subst hfields
    cases hcount

end Reported

end AsciiStreamer
