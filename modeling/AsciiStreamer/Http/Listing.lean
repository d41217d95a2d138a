import AsciiStreamer.Lib.Dump
import AsciiStreamer.Recording.RoundTrip

/-!
# The recordings listing (`/recordings` in `src/http_session.cpp`)

The handler goes through the directory and describes every recording in it: its name, its size, and
what the metadata in front of its frames says. The `try` is around the whole loop, so the first call
that throws ends it.
-/

namespace AsciiStreamer

open Cxx Json

/-! ## The directory -/

/-- An entry of the directory, with what the calls on it return or throw. `content` is what a
stream that is opened on it reads. -/
structure DirEntry where
  filename : Bytes
  isRegularFile : Except Exn Bool
  fileSize : Except Exn Nat
  lastWriteTime : Except Exn Int
  content : Option Bytes

/-- What the iterator goes through before it reaches the end or throws. -/
structure Directory where
  entries : List DirEntry
  nodup : (entries.map DirEntry.filename).Nodup

def dot : UInt8 := 46

/-- `path::extension`: from the last dot on, unless the name starts there. -/
def extension (name : Bytes) : Bytes :=
  let front := (name.reverse.dropWhile (· != dot)).length
  if name = lit ".." ∨ front ≤ 1 then [] else name.drop (front - 1)

/-! ## The listing -/

/-- One `key:value` line of the metadata. -/
def infoLine (fileInfo : List (Bytes × Json)) (line : Bytes) : Except Exn (List (Bytes × Json)) :=
  match find colon line 0 with
  | none => .ok fileInfo
  | some colonPos =>
    let key := substr line 0 colonPos
    let value := substrFrom line (colonPos + 1)
    if key = lit "timestamp" then .ok (insertField (lit "timestamp") (.string value) fileInfo)
    else if key = lit "end_time" then
      (stoi value).map fun d => insertField (lit "duration") (.integer d) fileInfo
    else if key = lit "frame_count" then
      (stoi value).map fun n => insertField (lit "frame_count") (.integer n) fileInfo
    else .ok fileInfo

/-- The lines up to `frames:`. -/
def readInfo : Nat → IFStream → Bytes → List (Bytes × Json) → Except Exn (List (Bytes × Json)) :=
  IFStream.scanLines (lit "frames:") infoLine

namespace DirEntry

def fileInfo (entry : DirEntry) : Except Exn (List (Bytes × Json)) := do
  let fileInfo := insertField (lit "filename") (.string entry.filename) []
  let size ← entry.fileSize
  let fileInfo := insertField (lit "size") (.integer size) fileInfo
  let lastModified ← entry.lastWriteTime
  let fileInfo := insertField (lit "last_modified") (.integer lastModified) fileInfo
  match entry.content with
  | none => return fileInfo
  | some content =>
    let (file, line) := (IFStream.open' {} (some content)).getline []
    readInfo (file.rest.length + 1) file line fileInfo

/-- What the loop does with an entry: it skips what is no recording. -/
def listed (entry : DirEntry) : Except Exn (Option (List (Bytes × Json))) := do
  if (← entry.isRegularFile) && extension entry.filename == lit ".asr" then
    return some (← entry.fileInfo)
  else return none

end DirEntry

/-- The loop. The exception that ends it is only logged. -/
def listEntries : List DirEntry → List Json
  | [] => []
  | entry :: entries => match entry.listed with
    | .error _ => []
    | .ok none => listEntries entries
    | .ok (some fileInfo) => .object fileInfo :: listEntries entries

/-- The body of the response: pushing makes an array of the null it starts from. -/
def recordings (d : Directory) : Json :=
  match listEntries d.entries with
  | [] => .null
  | entries => .array entries

/-! ## What is listed -/

section Listed

variable {entry : DirEntry} {fields : List (Bytes × Json)}

theorem mem_listEntries {entries : List DirEntry} (h : .object fields ∈ listEntries entries) :
    ∃ entry ∈ entries, entry.listed = .ok (some fields) := by
  induction entries with
  | nil => exact absurd h List.not_mem_nil
  | cons entry entries ih =>
    unfold listEntries at h
    cases hl : entry.listed with
    | error e =>
      rw [hl] at h
      exact absurd h List.not_mem_nil
    | ok x =>
      rw [hl] at h
      cases x with
      | none =>
        obtain ⟨entry', hmem, heq⟩ := ih h
        exact ⟨entry', List.mem_cons_of_mem _ hmem, heq⟩
      | some info =>
        rcases List.mem_cons.1 h with heq | hmem
        · cases heq
          exact ⟨entry, List.mem_cons_self, hl⟩
        · obtain ⟨entry', hmem, heq⟩ := ih hmem
          exact ⟨entry', List.mem_cons_of_mem _ hmem, heq⟩

theorem fileInfo_of_listed (h : entry.listed = .ok (some fields)) :
    entry.fileInfo = .ok fields := by
  unfold DirEntry.listed at h
  obtain ⟨regular, -, h⟩ := bind_ok.1 h
  split at h
  · obtain ⟨info, hinfo, h⟩ := bind_ok.1 h
    cases h
    exact hinfo
  · cases h

end Listed

/-! ## What an entry says -/

/-- A description of a recording: the fields that `file_info` can have. -/
structure FileInfo where
  filename : Bytes
  size : Nat
  lastModified : Int
  timestamp : Option Bytes := none
  duration : Option Int := none
  frameCount : Option Int := none

namespace FileInfo

def fields (i : FileInfo) : List (Bytes × Json) :=
  (i.duration.map fun d => (lit "duration", integer d)).toList ++
    (lit "filename", string i.filename) ::
      ((i.frameCount.map fun n => (lit "frame_count", integer n)).toList ++
        (lit "last_modified", integer i.lastModified) :: (lit "size", integer i.size) ::
          (i.timestamp.map fun t => (lit "timestamp", string t)).toList)

/-- What a line of the metadata adds. -/
def read (i : FileInfo) (line : Bytes) : Except Exn FileInfo :=
  match find colon line 0 with
  | none => .ok i
  | some colonPos =>
    let key := substr line 0 colonPos
    let value := substrFrom line (colonPos + 1)
    if key = lit "timestamp" then .ok { i with timestamp := some value }
    else if key = lit "end_time" then (stoi value).map fun d => { i with duration := some d }
    else if key = lit "frame_count" then (stoi value).map fun n => { i with frameCount := some n }
    else .ok i

variable {i i' : FileInfo} {line : Bytes}

theorem find?_filename (i : FileInfo) :
    find? i.fields (lit "filename") = some (.string i.filename) := by
  obtain ⟨_, _, _, _ | _, _ | _, _ | _⟩ := i <;> rfl

theorem insert_timestamp (i : FileInfo) (t : Bytes) :
    insertField (lit "timestamp") (.string t) i.fields = { i with timestamp := some t }.fields := by
  obtain ⟨_, _, _, _ | _, _ | _, _ | _⟩ := i <;> rfl

theorem insert_duration (i : FileInfo) (d : Int) :
    insertField (lit "duration") (.integer d) i.fields = { i with duration := some d }.fields := by
  obtain ⟨_, _, _, _ | _, _ | _, _ | _⟩ := i <;> rfl

theorem insert_frameCount (i : FileInfo) (n : Int) :
    insertField (lit "frame_count") (.integer n) i.fields =
      { i with frameCount := some n }.fields := by
  obtain ⟨_, _, _, _ | _, _ | _, _ | _⟩ := i <;> rfl

theorem infoLine_fields (i : FileInfo) (line : Bytes) :
    infoLine i.fields line = (i.read line).map fields := by
  unfold infoLine read
  cases find colon line 0 with
  | none => rfl
  | some c =>
    simp only
    split
    · rw [insert_timestamp]
      rfl
    split
    · cases stoi (substrFrom line (c + 1)) with
      | error e => rfl
      | ok d => exact congrArg Except.ok (insert_duration i d)
    split
    · cases stoi (substrFrom line (c + 1)) with
      | error e => rfl
      | ok n => exact congrArg Except.ok (insert_frameCount i n)
    · rfl

theorem foldlM_fields (lines : List Bytes) (i : FileInfo) :
    lines.foldlM infoLine i.fields = (lines.foldlM read i).map fields := by
  induction lines generalizing i with
  | nil => rfl
  | cons line lines ih =>
    rw [List.foldlM_cons, List.foldlM_cons, infoLine_fields]
    cases i.read line with
    | error e => rfl
    | ok i' => exact ih i'

/-- The timestamp a line gives. -/
def timestampValue (line : Bytes) : Option Bytes :=
  match find colon line 0 with
  | none => none
  | some colonPos =>
    if substr line 0 colonPos = lit "timestamp" then some (substrFrom line (colonPos + 1)) else none

/-- A line that is not about the timestamp leaves name and timestamp alone. -/
theorem read_text (h : i.read line = .ok i') : i'.filename = i.filename ∧
    i'.timestamp = (timestampValue line).or i.timestamp := by
  unfold read at h
  unfold timestampValue
  cases hc : find colon line 0 with
  | none =>
    rw [hc] at h
    cases h
    exact ⟨rfl, rfl⟩
  | some c =>
    rw [hc] at h
    simp only at h ⊢
    rcases ite_eq_iff.1 h with ⟨hkey, h⟩ | ⟨hkey, h⟩
    · cases h
      rw [if_pos hkey]
      exact ⟨rfl, rfl⟩
    rw [if_neg hkey]
    rcases ite_eq_iff.1 h with ⟨-, h⟩ | ⟨-, h⟩
    · obtain ⟨d, -, h⟩ := bind_ok.1 h
      cases h
      exact ⟨rfl, rfl⟩
    rcases ite_eq_iff.1 h with ⟨-, h⟩ | ⟨-, h⟩
    · obtain ⟨n, -, h⟩ := bind_ok.1 h
      cases h
      exact ⟨rfl, rfl⟩
    · cases h
      exact ⟨rfl, rfl⟩

/-- All lines together: the last timestamp counts. -/
theorem foldlM_text {lines : List Bytes} {i i' : FileInfo} (h : lines.foldlM read i = .ok i') :
    i'.filename = i.filename ∧
      i'.timestamp = (lines.filterMap timestampValue).getLast?.or i.timestamp := by
  induction lines generalizing i with
  | nil =>
    cases h
    exact ⟨rfl, rfl⟩
  | cons line lines ih =>
    rw [List.foldlM_cons] at h
    obtain ⟨j, hj, h⟩ := bind_ok.1 h
    obtain ⟨hname, htime⟩ := read_text hj
    obtain ⟨hname', htime'⟩ := ih h
    refine ⟨hname'.trans hname, ?_⟩
    rw [htime', htime]
    cases hv : timestampValue line with
    | none => rw [List.filterMap_cons_none hv, Option.none_or]
    | some v =>
      rw [List.filterMap_cons_some hv, List.getLast?_cons]
      cases (lines.filterMap timestampValue).getLast? <;> rfl

end FileInfo

/-- The metadata of a file: the lines behind the first, up to `frames:`. -/
def metadataLines (content : Bytes) : List Bytes :=
  match splitLine content with
  | (_, none) => []
  | (_, some rest) => (linesOf rest).takeWhile (· != lit "frames:")

/-- A scan behind the first line goes through the metadata. -/
theorem scanLines_metadata {α : Type} (body : α → Bytes → Except Exn α) (content str : Bytes)
    (a : α) : IFStream.scanLines (lit "frames:") body
      (((IFStream.open' {} (some content)).getline []).1.rest.length + 1)
      ((IFStream.open' {} (some content)).getline []).1 str a =
        (metadataLines content).foldlM body a := by
  have hat := (IFStream.open_at (f := {}) rfl content).1
  unfold metadataLines
  rcases line_cases content with hl | ⟨l, r, hl, rfl⟩
  · obtain ⟨f, hg, -, heof, -, -⟩ := hat.getline_last hl []
    rw [splitLine_of_not_mem hl, hg]
    exact IFStream.scanLines_of_not_good (by simp [IFStream.good, heof]) _ _
  · obtain ⟨f, hg, hat', -⟩ := hat.getline hl []
    rw [splitLine_cons_newline hl, hg, IFStream.scanLines_eq _ hat'.good (Nat.lt_succ_self _),
      hat'.rest]

namespace DirEntry

def metadata (entry : DirEntry) : List Bytes :=
  match entry.content with
  | none => []
  | some content => metadataLines content

/-- The last timestamp of the metadata. -/
def timestamp (entry : DirEntry) : Option Bytes :=
  (entry.metadata.filterMap FileInfo.timestampValue).getLast?

variable {entry : DirEntry} {fields : List (Bytes × Json)}

/-- **What the listing says about a file** is what the lines of its metadata say. -/
theorem fileInfo_foldlM (entry : DirEntry) : entry.fileInfo =
    (entry.fileSize >>= fun size => entry.lastWriteTime >>= fun lastModified =>
      (entry.metadata.foldlM FileInfo.read
        { filename := entry.filename, size, lastModified }).map FileInfo.fields) := by
  unfold DirEntry.fileInfo
  cases entry.fileSize with
  | error e => rfl
  | ok size =>
    cases entry.lastWriteTime with
    | error e => rfl
    | ok lastModified =>
      unfold metadata
      cases entry.content with
      | none => rfl
      | some content =>
        have hscan := scanLines_metadata infoLine content
          ((IFStream.open' {} (some content)).getline []).2
          { filename := entry.filename, size, lastModified : FileInfo }.fields
        rw [FileInfo.foldlM_fields] at hscan
        exact hscan

theorem fileInfo_eq (h : entry.fileInfo = .ok fields) : ∃ (size : Nat) (lastModified : Int)
    (i : FileInfo), entry.fileSize = .ok size ∧ fields = i.fields ∧
      entry.metadata.foldlM FileInfo.read { filename := entry.filename, size, lastModified } =
        .ok i := by
  rw [fileInfo_foldlM] at h
  obtain ⟨size, hsize, h⟩ := bind_ok.1 h
  obtain ⟨lastModified, -, h⟩ := bind_ok.1 h
  obtain ⟨i, hi, h⟩ := bind_ok.1 h
  cases h
  exact ⟨size, lastModified, i, hsize, rfl, hi⟩

theorem fileInfo_text (h : entry.fileInfo = .ok fields) : ∃ i : FileInfo, fields = i.fields ∧
    i.filename = entry.filename ∧ i.timestamp = entry.timestamp := by
  obtain ⟨size, lastModified, i, -, hfields, hi⟩ := fileInfo_eq h
  obtain ⟨hname, htime⟩ := FileInfo.foldlM_text hi
  exact ⟨i, hfields, hname, htime.trans Option.or_none⟩

end DirEntry

end AsciiStreamer
