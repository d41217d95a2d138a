import Mathlib.Data.List.Forall2
import Mathlib.Data.List.Perm.Basic
import AsciiStreamer.Http.Escape

/-!
# Whether the listing is complete

`/recordings` lists nothing as `null` and not as an empty array, and the `try` around the loop makes
one number that cannot be parsed hide its file and every file behind it. `listing_complete_iff` says
for which directories all recordings are listed all the same.
-/

namespace AsciiStreamer

open Cxx Json HttpSession

namespace DirEntry

/-- A regular file with the extension `.asr`. -/
def isRecording (entry : DirEntry) : Bool :=
  (match entry.isRegularFile with | .ok regular => regular | .error _ => false) &&
    extension entry.filename == lit ".asr"

/-- The description has the name and the size of the file. -/
def Describes (entry : DirEntry) (j : Json) : Prop :=
  ∃ size fields, entry.fileSize = .ok size ∧ j = .object fields ∧
    find? fields (lit "filename") = some (.string entry.filename) ∧
    find? fields (lit "size") = some (.integer size)

/-- No call on the entry throws, and if it is a recording, the numbers of its metadata are
numbers. -/
structure Readable (entry : DirEntry) : Prop where
  isRegularFile : Succeeds entry.isRegularFile
  fileSize : entry.isRecording = true → Succeeds entry.fileSize
  lastWriteTime : entry.isRecording = true → Succeeds entry.lastWriteTime
  fields : entry.isRecording = true → ∀ line ∈ entry.metadata, FieldOk line

end DirEntry

/-- The response to the request has the text of a JSON array as its body, with exactly one element
for each recording in the directory. -/
def ListingComplete (env : HttpEnv) (docRoot : Bytes) (method : Verb) (target : Bytes) : Prop :=
  ∃ res js listed, handleRequest env docRoot method target = .ok res ∧
    recordings env.directory = .array js ∧ dump env.printDouble (.array js) = .ok res.body ∧
    listed.Perm (env.directory.entries.filter DirEntry.isRecording) ∧
    List.Forall₂ DirEntry.Describes listed js

/-- Nothing throws before the last of the recordings has been described. -/
def Unhindered (entries : List DirEntry) : Prop :=
  ∀ pre entry post, entries = pre ++ entry :: post → entry.isRecording = true →
    (∀ e ∈ pre, e.Readable) ∧ entry.Readable

/-- There are recordings, nothing stands in the way of the loop before it has seen the last of them,
and what they say is UTF-8. -/
structure Directory.Listable (d : Directory) : Prop where
  nonempty : ∃ entry ∈ d.entries, entry.isRecording = true
  readable : Unhindered d.entries
  textual : ∀ entry ∈ d.entries, entry.isRecording = true → entry.Textual

/-! ## One entry -/

section Entry

variable {entry : DirEntry} {fields : List (Bytes × Json)}

theorem FileInfo.read_succeeds_iff (i : FileInfo) (line : Bytes) :
    Succeeds (i.read line) ↔ FieldOk line := by
  unfold FileInfo.read FieldOk
  cases find colon line 0 with
  | none => exact iff_of_true (succeeds_ok i) nofun
  | some c =>
    have hother : lit "timestamp" ≠ lit "end_time" ∧ lit "timestamp" ≠ lit "frame_count" := by
      decide
    simp only [Option.some.injEq, forall_eq']
    by_cases htime : substr line 0 c = lit "timestamp"
    · rw [if_pos htime, htime]
      refine iff_of_true (succeeds_ok _) fun hkey => ?_
      exact absurd hkey (not_or.2 hother)
    rw [if_neg htime]
    by_cases hend : substr line 0 c = lit "end_time"
    · rw [if_pos hend, succeeds_map]
      exact ⟨fun h _ => h, fun h => h (Or.inl hend)⟩
    rw [if_neg hend]
    by_cases hcount : substr line 0 c = lit "frame_count"
    · rw [if_pos hcount, succeeds_map]
      exact ⟨fun h _ => h, fun h => h (Or.inr hcount)⟩
    rw [if_neg hcount]
    exact iff_of_true (succeeds_ok i) fun hkey => absurd hkey (not_or.2 ⟨hend, hcount⟩)

theorem FileInfo.foldlM_succeeds_iff (lines : List Bytes) (i : FileInfo) :
    Succeeds (lines.foldlM FileInfo.read i) ↔ ∀ line ∈ lines, FieldOk line := by
  induction lines generalizing i with
  | nil => exact iff_of_true (succeeds_ok i) (List.forall_mem_nil _)
  | cons line lines ih =>
    rw [List.foldlM_cons, succeeds_bind, List.forall_mem_cons, ← FileInfo.read_succeeds_iff i]
    constructor
    · rintro ⟨i', hread, hrest⟩
      exact ⟨⟨i', hread⟩, (ih i').1 hrest⟩
    · rintro ⟨⟨i', hread⟩, hrest⟩
      exact ⟨i', hread, (ih i').2 hrest⟩

theorem FileInfo.read_size {i i' : FileInfo} {line : Bytes} (h : i.read line = .ok i') :
    i'.size = i.size := by
  unfold FileInfo.read at h
  split at h
  · cases h
    rfl
  · rcases ite_eq_iff.1 h with ⟨-, h⟩ | ⟨-, h⟩
    · cases h
      rfl
    rcases ite_eq_iff.1 h with ⟨-, h⟩ | ⟨-, h⟩
    · obtain ⟨d, -, h⟩ := bind_ok.1 h
      cases h
      rfl
    rcases ite_eq_iff.1 h with ⟨-, h⟩ | ⟨-, h⟩
    · obtain ⟨n, -, h⟩ := bind_ok.1 h
      cases h
      rfl
    · cases h
      rfl

theorem FileInfo.foldlM_size {lines : List Bytes} {i i' : FileInfo}
    (h : lines.foldlM FileInfo.read i = .ok i') : i'.size = i.size := by
  induction lines generalizing i with
  | nil =>
    cases h
    rfl
  | cons line lines ih =>
    rw [List.foldlM_cons] at h
    obtain ⟨j, hj, h⟩ := bind_ok.1 h
    exact (ih h).trans (FileInfo.read_size hj)

theorem FileInfo.find?_size (i : FileInfo) :
    find? i.fields (lit "size") = some (.integer i.size) := by
  obtain ⟨_, _, _, _ | _, _ | _, _ | _⟩ := i <;> rfl

theorem fileInfo_succeeds_iff : Succeeds entry.fileInfo ↔ Succeeds entry.fileSize ∧
    Succeeds entry.lastWriteTime ∧ ∀ line ∈ entry.metadata, FieldOk line := by
  rw [DirEntry.fileInfo_foldlM, succeeds_bind]
  simp only [succeeds_bind, succeeds_map, FileInfo.foldlM_succeeds_iff]
  constructor
  · rintro ⟨size, hsize, time, htime, hlines⟩
    exact ⟨⟨size, hsize⟩, ⟨time, htime⟩, hlines⟩
  · rintro ⟨⟨size, hsize⟩, ⟨time, htime⟩, hlines⟩
    exact ⟨size, hsize, time, htime, hlines⟩

/-- What the loop does with an entry. -/
inductive DirEntry.Visit (entry : DirEntry) : Prop
  | throws (e : Exn) (listed : entry.listed = .error e) (unreadable : ¬entry.Readable)
  | skipped (listed : entry.listed = .ok none) (other : entry.isRecording = false)
      (readable : entry.Readable)
  | described (fields : List (Bytes × Json)) (listed : entry.listed = .ok (some fields))
      (recording : entry.isRecording = true) (describes : entry.Describes (.object fields))
      (readable : entry.Readable)

theorem describes_of_fileInfo (h : entry.fileInfo = .ok fields) :
    entry.Describes (.object fields) := by
  obtain ⟨size, lastModified, i, hsize, rfl, hi⟩ := DirEntry.fileInfo_eq h
  refine ⟨size, i.fields, hsize, rfl, ?_, ?_⟩
  · rw [FileInfo.find?_filename, (FileInfo.foldlM_text hi).1]
  · rw [FileInfo.find?_size, FileInfo.foldlM_size hi]

theorem DirEntry.visit (entry : DirEntry) : entry.Visit := by
  cases hr : entry.isRegularFile with
  | error e =>
    refine .throws e ?_ fun h => ?_
    · rw [DirEntry.listed, hr]
      rfl
    · exact not_succeeds_error e (hr ▸ h.isRegularFile)
  | ok regular =>
    have hlisted : entry.listed = if entry.isRecording then entry.fileInfo.map some else .ok none := by
      rw [DirEntry.listed, DirEntry.isRecording, hr]
      rfl
    cases hrec : entry.isRecording with
    | false =>
      refine .skipped ?_ hrec ⟨⟨regular, hr⟩, ?_, ?_, ?_⟩
      · rw [hlisted, hrec, if_neg Bool.false_ne_true]
      all_goals exact fun h => nomatch hrec.symm.trans h
    | true =>
      rw [hrec, if_pos rfl] at hlisted
      cases hinfo : entry.fileInfo with
      | error e =>
        refine .throws e ?_ fun h => ?_
        · rw [hlisted, hinfo]
          rfl
        · have hok := fileInfo_succeeds_iff.2
            ⟨h.fileSize hrec, h.lastWriteTime hrec, h.fields hrec⟩
          exact not_succeeds_error e (hinfo ▸ hok)
      | ok fields =>
        obtain ⟨hsize, htime, hlines⟩ := fileInfo_succeeds_iff.1 ⟨fields, hinfo⟩
        refine .described fields ?_ hrec (describes_of_fileInfo hinfo)
          ⟨⟨regular, hr⟩, fun _ => hsize, fun _ => htime, fun _ => hlines⟩
        rw [hlisted, hinfo]
        rfl

end Entry

/-! ## The loop -/

section Loop

variable {entry : DirEntry} {entries : List DirEntry}

theorem unhindered_cons : Unhindered (entry :: entries) ↔
    ((∃ e ∈ entry :: entries, e.isRecording = true) → entry.Readable) ∧ Unhindered entries := by
  constructor
  · intro h
    constructor
    · rintro ⟨e, he, hrec⟩
      obtain ⟨pre, post, heq⟩ := List.append_of_mem he
      obtain ⟨hpre, hread⟩ := h pre e post heq hrec
      cases pre with
      | nil =>
        cases heq
        exact hread
      | cons x pre =>
        cases heq
        exact hpre entry List.mem_cons_self
    · intro pre e post heq hrec
      obtain ⟨hpre, hread⟩ := h (entry :: pre) e post (by rw [heq]; rfl) hrec
      exact ⟨fun x hx => hpre x (List.mem_cons_of_mem _ hx), hread⟩
  · rintro ⟨hhead, htail⟩ pre e post heq hrec
    have hmem : e ∈ entry :: entries := by
      rw [heq]
      exact List.mem_append_right _ List.mem_cons_self
    have hentry := hhead ⟨e, hmem, hrec⟩
    cases pre with
    | nil =>
      cases heq
      exact ⟨List.forall_mem_nil _, hentry⟩
    | cons x pre =>
      cases heq
      obtain ⟨hpre, hread⟩ := htail pre e post rfl hrec
      exact ⟨List.forall_mem_cons.2 ⟨hentry, hpre⟩, hread⟩

theorem filter_eq_nil_of_not_exists (h : ¬∃ e ∈ entries, e.isRecording = true) :
    entries.filter DirEntry.isRecording = [] :=
  List.filter_eq_nil_iff.2 fun e he hrec => h ⟨e, he, hrec⟩

/-- Where nothing throws too early, the loop describes the recordings in their order. -/
theorem listEntries_of_unhindered (h : Unhindered entries) :
    List.Forall₂ DirEntry.Describes (entries.filter DirEntry.isRecording)
      (listEntries entries) := by
  induction entries with
  | nil => exact .nil
  | cons entry entries ih =>
    obtain ⟨hhead, htail⟩ := unhindered_cons.1 h
    unfold listEntries
    cases entry.visit with
    | throws e listed unreadable =>
      rw [listed, filter_eq_nil_of_not_exists fun hex => unreadable (hhead hex)]
      exact .nil
    | skipped listed other readable =>
      rw [listed, List.filter_cons_of_neg (by rw [other]; exact Bool.false_ne_true)]
      exact ih htail
    | described fields listed recording describes readable =>
      rw [listed, List.filter_cons_of_pos recording]
      exact .cons describes (ih htail)

/-- It never lists more than the recordings, and all of them only where nothing throws too
early. -/
theorem length_listEntries (entries : List DirEntry) :
    (listEntries entries).length ≤ (entries.filter DirEntry.isRecording).length ∧
      ((listEntries entries).length = (entries.filter DirEntry.isRecording).length →
        Unhindered entries) := by
  induction entries with
  | nil =>
    refine ⟨Nat.le_refl 0, fun _ pre entry post heq => ?_⟩
    exact absurd heq.symm (List.append_ne_nil_of_right_ne_nil _ (List.cons_ne_nil _ _))
  | cons entry entries ih =>
    rw [unhindered_cons]
    unfold listEntries
    cases entry.visit with
    | throws e listed unreadable =>
      rw [listed]
      refine ⟨Nat.zero_le _, fun hlen => ?_⟩
      have hnil := List.length_eq_zero_iff.1 hlen.symm
      have hno : ∀ e ∈ entry :: entries, ¬e.isRecording = true := List.filter_eq_nil_iff.1 hnil
      refine ⟨fun hrecording => ?_, fun pre e post heq hrec => ?_⟩
      · obtain ⟨e, he, hrec⟩ := hrecording
        exact absurd hrec (hno e he)
      · refine absurd hrec (hno e (List.mem_cons_of_mem _ ?_))
        rw [heq]
        exact List.mem_append_right _ List.mem_cons_self
    | skipped listed other readable =>
      rw [listed, List.filter_cons_of_neg (by rw [other]; exact Bool.false_ne_true)]
      exact ⟨ih.1, fun hlen => ⟨fun _ => readable, ih.2 hlen⟩⟩
    | described fields listed recording describes readable =>
      rw [listed, List.filter_cons_of_pos recording]
      refine ⟨Nat.succ_le_succ ih.1, fun hlen => ⟨fun _ => readable, ih.2 ?_⟩⟩
      exact Nat.succ.inj hlen

/-- The loop gets to every recording that nothing hinders it from. -/
theorem reached_of_unhindered (h : Unhindered entries) (he : entry ∈ entries)
    (hrec : entry.isRecording = true) : Reached entries entry := by
  obtain ⟨pre, post, heq⟩ := List.append_of_mem he
  refine ⟨pre, post, heq, fun e hmem => ?_⟩
  have hread := (h pre entry post heq hrec).1 e hmem
  cases e.visit with
  | throws x listed unreadable => exact absurd hread unreadable
  | skipped listed other readable => exact ⟨_, listed⟩
  | described fields listed recording describes readable => exact ⟨_, listed⟩

/-- The entries whose text is in the body are the recordings. -/
theorem textual_iff (h : Unhindered entries) :
    (∀ entry, Reached entries entry → ∀ fields, entry.listed = .ok (some fields) →
      entry.Textual) ↔ ∀ entry ∈ entries, entry.isRecording = true → entry.Textual := by
  constructor
  · intro htext entry he hrec
    have hreached := reached_of_unhindered h he hrec
    cases entry.visit with
    | throws x listed unreadable =>
      obtain ⟨pre, post, heq⟩ := List.append_of_mem he
      exact absurd (h pre entry post heq hrec).2 unreadable
    | skipped listed other readable => cases other.symm.trans hrec
    | described fields listed recording describes readable =>
      exact htext entry hreached fields listed
  · rintro htext entry ⟨pre, post, rfl, -⟩ fields hlisted
    have hmem : entry ∈ pre ++ entry :: post := List.mem_append_right _ List.mem_cons_self
    cases entry.visit with
    | throws x listed unreadable => cases listed.symm.trans hlisted
    | skipped listed other readable => cases listed.symm.trans hlisted
    | described fields listed recording describes readable => exact htext entry hmem recording

end Loop

/-! ## The response -/

section Response

variable {env : HttpEnv} {method : Verb}

theorem recordings_eq_array {d : Directory} {js : List Json} (h : recordings d = .array js) :
    listEntries d.entries = js ∧ js ≠ [] := by
  unfold recordings at h
  split at h
  · cases h
  · next hne =>
    cases h
    exact ⟨rfl, hne⟩

theorem route_recordings (docRoot : Bytes) (hmethod : method ≠ .options) :
    route docRoot method (lit "/recordings") = .recordings := by
  unfold route
  rw [if_neg hmethod, if_neg (by decide), if_neg (by decide), if_neg (by decide),
    if_neg (by decide), if_pos rfl]

theorem sendJson_ok {j : Json} {res : Response} (h : sendJson env j = .ok res) :
    dump env.printDouble j = .ok res.body := by
  obtain ⟨body, hbody, h⟩ := bind_ok.1 h
  obtain ⟨u, -, h⟩ := bind_ok.1 h
  cases h
  exact hbody

/-- **The listing is complete** exactly if there is something to list, nothing throws before the
last recording has been described, and what is said about the recordings is UTF-8. -/
theorem listing_complete_iff (env : HttpEnv) (docRoot : Bytes) (method : Verb)
    (hmethod : method ≠ .options) : ListingComplete env docRoot method (lit "/recordings") ↔
      Succeeds env.write ∧ env.directory.Listable := by
  have hroute := route_recordings docRoot hmethod
  have hsucceeds : Succeeds (handleRequest env docRoot method (lit "/recordings")) ↔
      Succeeds env.write ∧ RequestOk env (route docRoot method (lit "/recordings")) :=
    handleRequest_succeeds_iff
  rw [hroute] at hsucceeds
  constructor
  · rintro ⟨res, js, listed, hres, hjs, hdump, hperm, hforall⟩
    obtain ⟨hwrite, htext⟩ := hsucceeds.1 ⟨res, hres⟩
    obtain ⟨hlist, hne⟩ := recordings_eq_array hjs
    have hlen : (listEntries env.directory.entries).length =
        (env.directory.entries.filter DirEntry.isRecording).length := by
      rw [hlist, ← hforall.length_eq, hperm.length_eq]
    have hfree := (length_listEntries env.directory.entries).2 hlen
    refine ⟨hwrite, ?_, hfree, (textual_iff hfree).1 htext⟩
    rw [hlist] at hlen
    obtain ⟨e, he⟩ := List.exists_mem_of_length_pos (hlen ▸ List.length_pos_iff.2 hne)
    exact ⟨e, List.mem_of_mem_filter he, List.of_mem_filter he⟩
  · rintro ⟨hwrite, hlistable⟩
    have hfree := hlistable.readable
    have hforall := listEntries_of_unhindered hfree
    obtain ⟨res, hres⟩ := hsucceeds.2 ⟨hwrite, (textual_iff hfree).2 hlistable.textual⟩
    have hne : listEntries env.directory.entries ≠ [] := by
      obtain ⟨e, he, hrec⟩ := hlistable.nonempty
      intro hnil
      rw [hnil, List.forall₂_nil_right_iff] at hforall
      exact List.filter_eq_nil_iff.1 hforall e he hrec
    have hjs : recordings env.directory = .array (listEntries env.directory.entries) := by
      unfold recordings
      split
      · next hnil => exact absurd hnil hne
      · rfl
    have hsend : sendJson env (recordings env.directory) = .ok res := by
      rw [← hres, handleRequest, hroute]
    refine ⟨res, _, _, hres, hjs, ?_, .refl _, hforall⟩
    rw [← hjs]
    exact sendJson_ok hsend

/-! ### A directory with two recordings -/

/-- A recording whose `end_time` is no number. -/
def badNumber : DirEntry where
  filename := lit "b.asr"
  isRegularFile := .ok true
  fileSize := .ok 38
  lastWriteTime := .ok 0
  content := some (lit "ASCII_STREAM_RECORD\nend_time:x\nframes:\n")

/-- A recording without frames. -/
def emptyRecording : DirEntry where
  filename := lit "a.asr"
  isRegularFile := .ok true
  fileSize := .ok 28
  lastWriteTime := .ok 0
  content := some (lit "ASCII_STREAM_RECORD\nframes:\n")

/-- Every call goes well, and the directory is this one. -/
def listingEnv (d : Directory) : HttpEnv := { badTimestampEnv with directory := d }

def twoRecordings : Directory := ⟨[badNumber, emptyRecording], by decide⟩

theorem listing_complete_iff_twoRecordings :
    ListingComplete (listingEnv twoRecordings) docRoot .other (lit "/recordings") ↔
      Succeeds (listingEnv twoRecordings).write ∧ twoRecordings.Listable :=
  listing_complete_iff (listingEnv twoRecordings) docRoot .other nofun

/-- One bad number hides every recording, and an empty directory is no array either. -/
theorem listing_incomplete :
    (handleRequest (listingEnv twoRecordings) docRoot .other (lit "/recordings")).map
        Response.body = .ok (lit "null") ∧
      ¬ListingComplete (listingEnv twoRecordings) docRoot .other (lit "/recordings") ∧
      (handleRequest (listingEnv ⟨[], List.nodup_nil⟩) docRoot .other (lit "/recordings")).map
        Response.body = .ok (lit "null") ∧
      ¬ListingComplete (listingEnv ⟨[], List.nodup_nil⟩) docRoot .other (lit "/recordings") := by
  have htwo : recordings twoRecordings = .null := rfl
  have hnone : recordings ⟨[], List.nodup_nil⟩ = .null := rfl
  refine ⟨by decide +kernel, ?_, by decide +kernel, ?_⟩
  · rintro ⟨res, js, listed, -, hjs, -⟩
    cases htwo.symm.trans hjs
  · rintro ⟨res, js, listed, -, hjs, -⟩
    cases hnone.symm.trans hjs

end Response

end AsciiStreamer
