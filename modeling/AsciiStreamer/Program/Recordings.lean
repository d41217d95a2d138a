import AsciiStreamer.Program.Opened

/-!
# The recordings that a client can see

Over the whole run of the program, sessions and requests in any order, the recordings on the shelf are
those that earlier launches have left or this one has started, and whose deletion has not been answered
with 200 (`Ledger.shelf`). They are what the directory holds (`Stocked`): what `/recordings` lists, what
a `DELETE` finds, and what a playback can open (`recordings_served`).
-/

namespace AsciiStreamer

open Cxx Json HttpSession

/-! ## What is kept along a run -/

/-- The paths of the recordings of earlier launches, the recordings of this one, and the paths whose
deletion has been answered with 200. -/
structure Ledger where
  left : List Bytes
  journal : Journal := {}
  deleted : List Bytes := []

namespace Ledger

def known (l : Ledger) : List Bytes := l.left ++ l.journal.opened

/-- What has been recorded and not been deleted. -/
def shelf (l : Ledger) : List Bytes := l.known.filter fun path => !l.deleted.contains path

def step {P : Platform} (api : Api) (s : Program) (e : ProgramEvent P) (_ : Program)
    (l : Ledger) : Ledger :=
  match e with
  | .server e flushed =>
    { l with journal := s.server.journalAfter api l.journal (s.answer flushed e) }
  | .request env stat method target =>
    match route docRoot method target, s.respond env stat method target with
    | .deleteRecording filename, .ok res =>
      if res.status = 200 then
        { l with deleted := l.deleted ++ [recordingPath (cString filename)] }
      else l
    | _, _ => l

end Ledger

/-- The ledger of a run. -/
def ledgerOf (P : Platform) (api : Api) (launch : Launch) (es : List (ProgramEvent P)) : Ledger :=
  (program P api).record (Ledger.step api) launch.start es { left := launch.paths }

/-! ## What is served -/

/-- The text lists the files: an array with one object for each of them, or `null` for none. -/
def Lists (printDouble : Rat → Bytes) (body : Bytes) (paths : List Bytes) : Prop :=
  ∃ js listed, dump printDouble (if js = [] then .null else .array js) = .ok body ∧
    listed.Perm paths ∧
    List.Forall₂ (fun path j => ∃ filename fields, path = recordingPath filename ∧
      j = .object fields ∧ find? fields (lit "filename") = some (.string filename)) listed js

/-- The recording has been finished, by this launch or by an earlier one. -/
def Ledger.Finished (P : Platform) (launch : Launch) (l : Ledger) (path : Bytes)
    (frames : List Bytes) : Prop :=
  ⟨path, frames⟩ ∈ l.journal.completed ∨ path ∈ launch.paths ∧ ∃ content,
    launch.disk path = some content ∧ Completed P content frames

/-- The event runs the `start_playback` of this file, behind the stop that it awaits. -/
def Program.StartsPlayback {P : Platform} (s : Program) (filename : Bytes) (session : SessionId) :
    ProgramEvent P → Prop
  | .server (.segment i _ _) _ => ∃ t, s.server.stream.tasks[i]? = some t ∧
      t.pc = .stoppingPlayback filename session
  | _ => False

/-- A playback that starts names a file of the directory. -/
def NamesFile {P : Platform} (s : Program) (e : ProgramEvent P) : Prop :=
  ∀ filename session, s.StartsPlayback filename session e → Folder.Plain filename

def Program.controller (s : Program) : StreamController := s.server.stream.controller

/-- The directory holds what is on the shelf. -/
structure Stocked (P : Platform) (launch : Launch) (s : Program) (l : Ledger) : Prop where
  tracks : Tracks P s.server.recorder l.journal
  left : l.left = launch.paths
  names : (Folder.namesOf s.folder).map recordingPath = l.shelf
  named : ∀ path ∈ l.known, ∃ t, path = recordingName t
  kept : ∀ path ∈ l.left, s.server.recorder.disk path = launch.disk path
  deleted : ∀ path ∈ l.deleted, path ∈ l.known ∨ path = recordingPath []

/-! ## Recordings that start -/

section Starting

variable {P : Platform} {api : Api} {s s' : Server} {e : ServerEvent P} {j : Journal}

/-- What a step does to the recordings. -/
inductive RecordingStep (api : Api) (s : Server) (j : Journal) (e : ServerEvent P) : Prop
  | nothing (idle : j.active = none → (s.journalAfter api j e).active = none)
      (opened : (s.journalAfter api j e).opened = j.opened)
  | file (id : SessionId) (ev : SessionEvent) (clock : Clock) (event : e = .session id ev clock)
      (opens : clock.fileOpens = true) (idle : j.active = none)
      (active : (s.journalAfter api j e).active = some ⟨recordingName clock.localTime, []⟩)
      (opened : (s.journalAfter api j e).opened = j.opened ++ [recordingName clock.localTime])

theorem recordingStep (hs : (server P api).step s e = some s') (j : Journal) :
    RecordingStep api s j e := by
  have going : ∀ j', s.journalAfter api j e = j' → (j.active = none → j'.active = none) →
      j'.opened = j.opened → RecordingStep api s j e := by
    rintro j' rfl idle opened
    exact .nothing idle opened
  cases recorderStep hs with
  | same recorder journal => exact going j (journal j) id rfl
  | fails t now recorder journal => exact going j (journal j) id rfl
  | starts id ev clock event opens recorder journal =>
    have hj := journal j
    cases hactive : j.active with
    | some r =>
      simp only [Journal.step, hactive] at hj
      exact going j hj (fun hidle => hidle) rfl
    | none =>
      simp only [Journal.step, hactive] at hj
      exact .file id ev clock event opens hactive (by rw [hj]) (by rw [hj])
  | stops now recorder journal =>
    refine going _ (journal j) (fun hidle => ?_) ?_
    · simp only [Journal.step, hidle]
    · simp only [Journal.step]
      split <;> rfl
  | converts frame now recorder journal =>
    refine going _ (journal j) (fun hidle => ?_) ?_
    · simp only [Journal.step, hidle]
    · simp only [Journal.step]
      split <;> rfl

/-- The file that a step has created is that of the recording it has started. -/
theorem created_eq (htracks : Tracks P s.recorder j)
    (htracks' : Tracks P s'.recorder (s.journalAfter api j e)) : Program.created s s' =
      if j.active.isSome then none else (s.journalAfter api j e).active.map Recording.name := by
  unfold Program.created
  rw [htracks.isRecording, htracks'.isRecording]
  cases hactive : (s.journalAfter api j e).active with
  | none => rfl
  | some r =>
    rw [(htracks'.active r hactive).1]
    rfl

/-- The file of a recording begins with a header. -/
theorem Tracks.header {r : Recorder} (h : Tracks P r j) {path : Bytes} (hpath : path ∈ j.opened) :
    ∃ t body, r.disk path = some (headerText t ++ body) := by
  rw [h.opened, List.mem_append] at hpath
  rcases hpath with hpath | hpath
  · obtain ⟨rec, hrec, rfl⟩ := List.mem_map.1 hpath
    obtain ⟨content, hdisk, t, es, seconds, rfl, -⟩ := h.completed rec hrec
    exact ⟨t, entriesText es ++ footerText seconds (es.length % 2 ^ 64), by
      rw [hdisk, recordingText, List.append_assoc]⟩
  · obtain ⟨rec, hrec, rfl⟩ := List.mem_map.1 hpath
    obtain ⟨-, t, es, hdisk, -⟩ := h.active rec (Option.mem_toList.1 hrec)
    exact ⟨t, entriesText es, hdisk⟩

end Starting

/-! ## The directory holds what is on the shelf -/

section Stock

variable {P : Platform} {api : Api} {launch : Launch} {s s' : Program} {l : Ledger}
  {e : ProgramEvent P}

theorem recordingPath_inj {a b : Bytes} : recordingPath a = recordingPath b ↔ a = b :=
  List.append_cancel_left_eq (lit "recordings/") a b ▸ Iff.rfl

theorem mem_shelf {path : Bytes} : path ∈ l.shelf ↔ path ∈ l.known ∧ path ∉ l.deleted := by
  unfold Ledger.shelf
  rw [List.mem_filter, Bool.not_eq_true', ← Bool.not_eq_true, List.contains_iff_mem]

theorem Stocked.mem_names (h : Stocked P launch s l) {filename : Bytes} :
    filename ∈ Folder.namesOf s.folder ↔ recordingPath filename ∈ l.shelf := by
  rw [← h.names, List.mem_map]
  constructor
  · exact fun hmem => ⟨filename, hmem, rfl⟩
  · rintro ⟨name, hmem, heq⟩
    exact recordingPath_inj.1 heq ▸ hmem

/-- No recording is named like the directory. -/
theorem recordingName_ne (t : Tm) : recordingName t ≠ recordingPath [] := by
  obtain ⟨stem, hstem, -, hname⟩ := recordingName_stem t
  rw [hname, Ne, recordingPath_inj]
  exact List.append_ne_nil_of_left_ne_nil hstem _

theorem recordingName_drop (t : Tm) :
    recordingPath ((recordingName t).drop (recordingsName.length + 1)) = recordingName t := by
  obtain ⟨stem, -, -, hname⟩ := recordingName_stem t
  rw [hname]
  rfl

theorem shelf_of_nothing_deleted (left : List Bytes) : ({ left := left } : Ledger).shelf = left := by
  unfold Ledger.shelf Ledger.known
  rw [List.append_nil]
  exact List.filter_eq_self.2 fun _ _ => rfl

/-- What earlier launches have left is on the shelf. -/
theorem Stocked.init (P : Platform) (launch : Launch) :
    Stocked P launch launch.start { left := launch.paths } := by
  refine ⟨tracks_disk _, rfl, (shelf_of_nothing_deleted _).symm, fun path hpath => ?_, fun _ _ => rfl,
    fun path hpath => ?_⟩
  · change path ∈ launch.paths ++ [] at hpath
    rw [List.append_nil] at hpath
    obtain ⟨name, hname, rfl⟩ := List.mem_map.1 hpath
    exact launch.named name hname
  · cases hpath

/-- A step of the server that starts no recording. -/
theorem Stocked.of_opened (h : Stocked P launch s l) {server' : Server} {j' : Journal}
    (htracks : Tracks P server'.recorder j') (hopened : j'.opened = l.journal.opened)
    (hkept : ∀ path ∈ l.left, server'.recorder.disk path = s.server.recorder.disk path) :
    Stocked P launch ⟨server', s.folder⟩ { l with journal := j' } := by
  have hknown : { l with journal := j' : Ledger }.known = l.known := by
    unfold Ledger.known
    rw [hopened]
  refine ⟨htracks, h.left, ?_, ?_, fun path hpath => (hkept path hpath).trans (h.kept path hpath), ?_⟩
  · unfold Ledger.shelf
    rw [hknown]
    exact h.names
  · rw [hknown]
    exact h.named
  · rw [hknown]
    exact h.deleted

/-- A recording starts, and its file is there. -/
theorem Stocked.starts (h : Stocked P launch s l) {server' : Server} {j' : Journal} (t : Tm)
    (htracks : Tracks P server'.recorder j') (hfolder : s.folder.isSome = true)
    (hopened : j'.opened = l.journal.opened ++ [recordingName t])
    (hnew : recordingName t ∉ l.known)
    (hkept : ∀ path ∈ l.left, server'.recorder.disk path = s.server.recorder.disk path) :
    Stocked P launch ⟨server', Program.folderWith s.folder (some (recordingName t))⟩
      { l with journal := j' } := by
  obtain ⟨d, hd⟩ := Option.isSome_iff_exists.1 hfolder
  have hpath := recordingName_drop t
  have hknown : { l with journal := j' : Ledger }.known = l.known ++ [recordingName t] := by
    unfold Ledger.known
    rw [hopened, List.append_assoc]
  have hundeleted : recordingName t ∉ l.deleted := by
    intro hmem
    rcases h.deleted _ hmem with hmem | heq
    · exact hnew hmem
    · exact recordingName_ne t heq
  have hfresh : (recordingName t).drop (recordingsName.length + 1) ∉ d.names := by
    intro hmem
    have hmem : (recordingName t).drop (recordingsName.length + 1) ∈ Folder.namesOf s.folder := by
      rw [hd]
      exact hmem
    rw [h.mem_names, hpath, mem_shelf] at hmem
    exact hnew hmem.1
  refine ⟨htracks, h.left, ?_, fun path hmem => ?_,
    fun path hleft => (hkept path hleft).trans (h.kept path hleft), fun path hmem => ?_⟩
  · have hnames := h.names
    rw [hd] at hnames ⊢
    change (d.create _).names.map recordingPath = _
    rw [Folder.names_create hfresh, List.map_append, List.map_singleton, hpath]
    unfold Ledger.shelf at hnames ⊢
    rw [hknown, List.filter_append, ← hnames]
    refine congrArg _ (List.filter_eq_self.2 ?_).symm
    refine List.forall_mem_singleton.2 ?_
    rw [Bool.not_eq_true', ← Bool.not_eq_true, List.contains_iff_mem]
    exact hundeleted
  · rw [hknown] at hmem
    rcases List.mem_append.1 hmem with hmem | hmem
    · exact h.named path hmem
    · exact ⟨t, List.mem_singleton.1 hmem⟩
  · rw [hknown]
    rcases h.deleted path hmem with hmem | heq
    · exact Or.inl (List.mem_append_left _ hmem)
    · exact Or.inr heq

theorem Stocked.server (h : Stocked P launch s l) (e : ServerEvent P) (flushed : Nat)
    {server' : Server}
    (hs : (AsciiStreamer.server P api).step s.server (s.answer flushed e) = some server')
    (hown : (l.left ++
      (s.server.journalAfter api l.journal (s.answer flushed e)).opened).Nodup) :
    Stocked P launch ⟨server', Program.folderWith s.folder (Program.created s.server server')⟩
      { l with journal := s.server.journalAfter api l.journal (s.answer flushed e) } := by
  obtain ⟨-, hopened, hapart⟩ := List.nodup_append.1 hown
  have htracks : Tracks P server'.recorder _ := h.tracks.after hs hopened
  have hkept : ∀ path ∈ l.left, server'.recorder.disk path = s.server.recorder.disk path :=
    fun path hleft => h.tracks.disk_after hs fun hmem => hapart path hleft path hmem rfl
  rw [created_eq h.tracks htracks]
  cases recordingStep hs l.journal with
  | nothing idle opened =>
    have hnone : (if l.journal.active.isSome then none else
        (s.server.journalAfter api l.journal (s.answer flushed e)).active.map Recording.name) =
          none := by
      split
      · rfl
      · next hactive => rw [idle (Option.not_isSome_iff_eq_none.1 hactive), Option.map_none]
    rw [hnone]
    exact h.of_opened htracks opened hkept
  | file id ev clock event opens idle active opened =>
    have hfolder : s.folder.isSome = true := by
      cases e with
      | session id' ev' clock' =>
        cases event
        exact (Bool.and_eq_true_iff.1 opens).2
      | _ => cases event
    have hnew : recordingName clock.localTime ∉ l.known := by
      rw [opened, ← List.append_assoc] at hown
      exact fun hmem => (List.nodup_append.1 hown).2.2 _ hmem _ (List.mem_singleton_self _) rfl
    rw [idle, active]
    exact h.starts clock.localTime htracks hfolder opened hnew hkept

/-- A shelf from which one path is gone. -/
theorem shelf_deleted (l : Ledger) (path : Bytes) :
    { l with deleted := l.deleted ++ [path] : Ledger }.shelf = l.shelf.filter fun p => p ≠ path := by
  unfold Ledger.shelf
  rw [List.filter_filter]
  refine List.filter_congr fun p _ => ?_
  simp only [List.contains_eq_mem, List.mem_append, List.mem_singleton, Bool.decide_or, Bool.not_or,
    decide_not]
  exact Bool.and_comm _ _

theorem Stocked.deletes (h : Stocked P launch s l) {d : Folder} (hd : s.folder = some d) {name : Bytes}
    (hmem : name ∈ d.names) : Stocked P launch { s with folder := some (d.erase name) }
      { l with deleted := l.deleted ++ [recordingPath name] } := by
  refine ⟨h.tracks, h.left, ?_, h.named, h.kept, fun path hpath => ?_⟩
  · change (d.names.erase name).map recordingPath = _
    have hnames := h.names
    rw [hd] at hnames
    change d.names.map recordingPath = _ at hnames
    rw [shelf_deleted, ← hnames, d.nodup.erase_eq_filter, List.filter_map]
    refine congrArg _ (List.filter_congr fun a _ => ?_)
    simp only [Function.comp_apply, ne_eq, recordingPath_inj, bne, beq_eq_decide, decide_not]
  · rcases List.mem_append.1 hpath with hpath | hpath
    · exact h.deleted path hpath
    · rw [List.mem_singleton.1 hpath]
      exact Or.inl (mem_shelf.1 (h.mem_names.1 (by rw [hd]; exact hmem))).1

/-- The directory itself is gone, which it is only without files. -/
theorem Stocked.emptied (h : Stocked P launch s l) {d : Folder} (hd : s.folder = some d)
    (hnames : d.names = []) : Stocked P launch { s with folder := none }
      { l with deleted := l.deleted ++ [recordingPath []] } := by
  have hshelf : l.shelf = [] := by
    rw [← h.names, hd]
    exact congrArg (List.map recordingPath) hnames
  refine ⟨h.tracks, h.left, ?_, h.named, h.kept, fun path hpath => ?_⟩
  · rw [shelf_deleted, hshelf]
    rfl
  · rcases List.mem_append.1 hpath with hpath | hpath
    · exact h.deleted path hpath
    · exact Or.inr (List.mem_singleton.1 hpath)

/-- The response that is sent is the one that has been prepared. -/
theorem status_of_write {env : HttpEnv} {res res' : Response}
    (h : write env (preparePayload res) = .ok res') : res'.status = res.status := by
  obtain ⟨u, -, h⟩ := bind_ok.1 h
  cases h
  rfl

/-- What a deletion that is answered does. -/
theorem Stocked.deletion (h : Stocked P launch s l) {env : HttpEnv} {stat : Bytes → FileStat}
    {filename : Bytes} {res : Response}
    (hres : deleteRecording (s.environment env stat) filename = .ok res)
    {folder : Option Folder} (hfolder : folder = if refusedName filename then s.folder
      else if Folder.existsAt recordingsName s.folder (recordingPath filename) = .ok true then
        (Folder.remove recordingsName s.folder (recordingPath filename)).1
      else s.folder) :
    Stocked P launch { s with folder := folder } (if res.status = 200 then
      { l with deleted := l.deleted ++ [recordingPath (cString filename)] } else l) := by
  have hentry : Folder.entry recordingsName (recordingPath filename) = cString filename :=
    Folder.entry_behind (by decide) filename
  have kept : folder = s.folder → res.status ≠ 200 → Stocked P launch { s with folder := folder }
      (if res.status = 200 then
        { l with deleted := l.deleted ++ [recordingPath (cString filename)] } else l) := by
    intro hsame hstatus
    rw [if_neg hstatus, hsame]
    exact h
  unfold deleteRecording at hres
  cases hrefused : refusedName filename with
  | true =>
    rw [hrefused, if_pos rfl] at hres hfolder
    refine kept hfolder ?_
    rw [status_of_write hres]
    decide
  | false =>
    rw [hrefused, if_neg Bool.false_ne_true] at hres hfolder
    obtain ⟨found, hfound, hres⟩ := bind_ok.1 hres
    change Folder.existsAt recordingsName s.folder (recordingPath filename) = .ok found at hfound
    rw [hfound] at hfolder
    cases found with
    | false =>
      rw [if_neg Bool.false_ne_true] at hres
      refine kept (hfolder.trans (if_neg (by simp))) ?_
      rw [status_of_write hres]
      decide
    | true =>
      rw [if_pos rfl] at hres hfolder
      obtain ⟨removed, hremoved, hres⟩ := bind_ok.1 hres
      change (Folder.remove recordingsName s.folder (recordingPath filename)).2 = .ok removed
        at hremoved
      rw [if_pos (status_of_write hres)]
      cases Folder.removal recordingsName s.folder (recordingPath filename) with
      | failed e self =>
        rw [self] at hremoved
        cases hremoved
      | absent absent => cases hfound.symm.trans absent
      | file d before mem found self =>
        rw [hentry] at mem self
        rw [hfolder, self]
        exact h.deletes before mem
      | itself d before names name found self =>
        rw [hentry] at name
        rw [hfolder, self, name]
        exact h.emptied before names

theorem Stocked.request (h : Stocked P launch s l) {env : HttpEnv} {stat : Bytes → FileStat}
    {method : Verb} {target : Bytes} {res : Response}
    (hres : s.respond env stat method target = .ok res) :
    Stocked P launch { s with folder := s.folderAfter method target }
      (l.step (P := P) api s (.request env stat method target) s) := by
  unfold Program.folderAfter
  simp only [Ledger.step, hres]
  unfold Program.respond handleRequest at hres
  cases hroute : route docRoot method target with
  | deleteRecording filename =>
    rw [hroute] at hres
    exact h.deletion hres rfl
  | _ => exact h

/-- **The directory holds what is on the shelf**, as long as every recording has its own name. -/
theorem Stocked.step (h : Stocked P launch s l) (hs : (program P api).step s e = some s')
    (hown : (l.step api s e s').known.Nodup) : Stocked P launch s' (l.step api s e s') := by
  cases programStep_of_step hs with
  | server e flushed server' step => exact h.server e flushed step hown
  | request env stat method target res response =>
    have hnext : Stocked P launch { s with folder := s.folderAfter method target }
        (l.step api s (.request env stat method target) s) := h.request response
    exact hnext

theorem known_ledger (l : Ledger) (s s' : Program) (e : ProgramEvent P) :
    l.known <+: (l.step api s e s').known := by
  cases e with
  | server e flushed =>
    have hopened := (extends_after api s.server l.journal (s.answer flushed e)).opened
    exact (List.prefix_append_right_inj l.left).2 hopened
  | request env stat method target =>
    simp only [Ledger.step]
    split
    · split <;> exact List.prefix_refl _
    · exact List.prefix_refl _

theorem stocked_run {es : List (ProgramEvent P)} (hrun : (program P api).run launch.start es = some s)
    (hown : (ledgerOf P api launch es).known.Nodup) :
    Stocked P launch s (ledgerOf P api launch es) := by
  refine Machine.record_invariant (C := fun _ _ => True)
    (I := fun s l => l.known.Nodup → Stocked P launch s l) ?_ (fun _ => .init P launch)
    (.of_forall (fun _ _ => trivial) _ _) hrun hown
  intro s e s' l hi _ hs hown
  exact (hi (hown.sublist (known_ledger l s s' e).sublist)).step hs hown

end Stock

/-! ## What is served from it -/

section Served

variable {P : Platform} {api : Api} {launch : Launch} {s s' : Program} {l : Ledger}
  {e : ProgramEvent P} {env : HttpEnv} {stat : Bytes → FileStat}

/-- What can be read of a recording is the beginning of what has been written. -/
theorem Stocked.content_cut (h : Stocked P launch s l) {filename : Bytes}
    (hmem : filename ∈ Folder.namesOf s.folder) (flushed : Nat) : ∃ text t body,
      s.content filename flushed = some text ∧ text <+: headerText t ++ body := by
  obtain ⟨hknown, -⟩ := mem_shelf.1 (h.mem_names.1 hmem)
  obtain ⟨text, t, body, hdisk, hcut⟩ : ∃ text t body,
      s.server.recorder.disk (recordingPath filename) = some text ∧ text <+: headerText t ++ body := by
    rcases List.mem_append.1 hknown with hleft | hopened
    · obtain ⟨name, hname, heq⟩ := List.mem_map.1 (h.left ▸ hleft)
      obtain ⟨text, t, body, hdisk, hcut⟩ := launch.written name hname
      refine ⟨text, t, body, ?_, hcut⟩
      rw [h.kept _ hleft, ← heq]
      exact hdisk
    · obtain ⟨t, body, hdisk⟩ := h.tracks.header hopened
      exact ⟨_, t, body, hdisk, List.prefix_refl _⟩
  unfold Program.content
  rw [if_pos (List.contains_iff_mem.2 hmem), hdisk, Option.getD_some]
  refine ⟨_, t, body, rfl, ?_⟩
  split
  · exact (List.take_prefix _ _).trans hcut
  · exact hcut

/-- Every file in the directory is a recording that the listing can describe. -/
theorem Stocked.entry (h : Stocked P launch s l) {filename : Bytes}
    (hmem : filename ∈ Folder.namesOf s.folder) : (s.entry stat filename).isRecording = true ∧
      (s.entry stat filename).Readable ∧ (s.entry stat filename).Textual := by
  obtain ⟨t, hname⟩ := h.named _ (mem_shelf.1 (h.mem_names.1 hmem)).1
  obtain ⟨stem, hstem, hascii, hstemname⟩ := recordingName_stem t
  obtain ⟨text, t', body, hcontent, hcut⟩ := h.content_cut hmem (stat filename).flushed
  exact listed_of_cut hstem hascii (recordingPath_inj.1 (hname.trans hstemname)) rfl
    (succeeds_ok _) (succeeds_ok _) hcontent hcut

theorem Stocked.entries (h : Stocked P launch s l) : ∀ entry ∈ (s.directory stat).entries,
    entry.isRecording = true ∧ entry.Readable ∧ entry.Textual := by
  intro entry hentry
  obtain ⟨filename, hmem, rfl⟩ := List.mem_map.1 hentry
  exact h.entry ((s.listing_perm stat).mem_iff.1 hmem)

theorem status_of_sendJson {j : Json} {res : Response} (h : sendJson env j = .ok res) :
    res.status = 200 := by
  obtain ⟨body, -, h⟩ := bind_ok.1 h
  exact status_of_write h

theorem recordings_eq (d : Directory) :
    recordings d = if listEntries d.entries = [] then .null else .array (listEntries d.entries) := by
  unfold recordings
  cases listEntries d.entries with
  | nil => rfl
  | cons j js => rfl

/-- **The listing is the shelf.** -/
theorem Stocked.lists (h : Stocked P launch s l) {method : Verb} (hmethod : method ≠ .options)
    (hwrite : Succeeds env.write) : ∃ res, s.respond env stat method (lit "/recordings") = .ok res ∧
      res.status = 200 ∧ Lists env.printDouble res.body l.shelf := by
  have hroute := route_recordings docRoot hmethod
  have hentries : ∀ entry ∈ (s.directory stat).entries,
      entry.isRecording = true ∧ entry.Readable ∧ entry.Textual := h.entries
  have hfree : Unhindered (s.directory stat).entries := by
    rintro pre entry post heq -
    refine ⟨fun e he => (hentries e ?_).2.1, (hentries entry ?_).2.1⟩
    · rw [heq]
      exact List.mem_append_left _ he
    · rw [heq]
      exact List.mem_append_right _ List.mem_cons_self
  have htext := (textual_iff hfree).2 fun entry he _ => (hentries entry he).2.2
  have hsucceeds : Succeeds (s.respond env stat method (lit "/recordings")) ↔ Succeeds env.write ∧
      RequestOk (s.environment env stat) (route docRoot method (lit "/recordings")) :=
    handleRequest_succeeds_iff
  rw [hroute] at hsucceeds
  obtain ⟨res, hres⟩ := hsucceeds.2 ⟨hwrite, htext⟩
  have hsend : sendJson (s.environment env stat) (recordings (s.directory stat)) = .ok res := by
    rw [← hres, Program.respond, handleRequest, hroute]
    rfl
  refine ⟨res, hres, status_of_sendJson hsend, listEntries (s.directory stat).entries,
    (s.listing stat).map recordingPath, ?_, ?_, ?_⟩
  · rw [← recordings_eq]
    exact sendJson_ok hsend
  · rw [← h.names]
    exact (s.listing_perm stat).map recordingPath
  · have hall := listEntries_of_unhindered hfree
    rw [List.filter_eq_self.2 fun e he => (hentries e he).1] at hall
    refine List.forall₂_map_left_iff.2 ((List.forall₂_map_left_iff.1 hall).imp ?_)
    rintro filename j ⟨size, fields, -, hj, hname, -⟩
    exact ⟨filename, fields, rfl, hj, hname⟩

theorem route_delete (docRoot filename : Bytes) :
    route docRoot .delete (lit "/recordings/" ++ filename) = .deleteRecording filename := by
  have hne : ∀ target ∈ [lit "/cameras", lit "/api", lit "/tunnel_status", lit "/test_tunnel",
      lit "/recordings"], lit "/recordings/" ++ filename ≠ target := by
    have hno : ∀ target ∈ [lit "/cameras", lit "/api", lit "/tunnel_status", lit "/test_tunnel",
        lit "/recordings"], ¬lit "/recordings/" <+: target := by decide
    exact fun target hmem heq => hno target hmem ⟨filename, heq⟩
  simp only [List.forall_mem_cons] at hne
  obtain ⟨h1, h2, h3, h4, h5, -⟩ := hne
  unfold route
  rw [if_neg (by decide), if_neg h1, if_neg h2, if_neg h3, if_neg h4, if_neg h5,
    if_pos ⟨List.prefix_append _ _, rfl⟩]
  rfl

/-- **A deletion finds what is on the shelf.** -/
theorem Stocked.finds (h : Stocked P launch s l) {filename : Bytes} (hplain : Folder.Plain filename)
    (hallowed : refusedName filename = false) (hwrite : Succeeds env.write) :
    ∃ res, s.respond env stat .delete (lit "/recordings/" ++ filename) = .ok res ∧
      res.status = if recordingPath filename ∈ l.shelf then 200 else 404 := by
  have hfound : (s.environment env stat).fileExists (recordingPath filename) =
      .ok (decide (filename ∈ Folder.namesOf s.folder)) := by
    change Folder.existsAt recordingsName s.folder (recordingsName ++ slash :: filename) = _
    exact Folder.existsAt_plain hplain (by decide) (by decide)
  obtain ⟨u, hu⟩ := hwrite
  have hsend : ∀ res, write (s.environment env stat) res = .ok res := by
    intro res
    change env.write.map _ = _
    rw [hu]
    rfl
  unfold Program.respond handleRequest
  rw [route_delete]
  simp only [deleteRecording, hallowed, Bool.false_eq_true, ↓reduceIte]
  by_cases hmem : filename ∈ Folder.namesOf s.folder
  · rw [if_pos (h.mem_names.1 hmem)]
    cases hd : s.folder with
    | none =>
      rw [hd] at hmem
      cases hmem
    | some d =>
      have hremoved : (s.environment env stat).remove (recordingPath filename) = .ok true := by
        change (Folder.remove recordingsName s.folder (recordingsName ++ slash :: filename)).2 = _
        rw [hd] at hmem ⊢
        exact congrArg Prod.snd (Folder.remove_plain hplain (by decide) (by decide) hmem)
      refine ⟨preparePayload ⟨200, cors, lit "File deleted"⟩, ?_, rfl⟩
      rw [hfound, decide_eq_true hmem, hremoved]
      exact hsend _
  · rw [if_neg fun hshelf => hmem (h.mem_names.2 hshelf)]
    refine ⟨preparePayload ⟨404, cors, lit "File not found"⟩, ?_, rfl⟩
    rw [hfound, decide_eq_false hmem]
    exact hsend _

theorem Stocked.opens (h : Stocked P launch s l) (filename : Bytes) (flushed : Nat) :
    (s.content filename flushed).isSome = true ↔ recordingPath filename ∈ l.shelf := by
  rw [← h.mem_names]
  unfold Program.content
  by_cases hmem : filename ∈ Folder.namesOf s.folder
  · rw [if_pos (List.contains_iff_mem.2 hmem)]
    exact iff_of_true rfl hmem
  · rw [if_neg fun hcontains => hmem (List.contains_iff_mem.1 hcontains)]
    exact iff_of_false nofun hmem

/-- The fields of a file in the directory are in order, wherever it ends so far. -/
theorem Stocked.fields (h : Stocked P launch s l) (filename : Bytes) (flushed : Nat) : ∀ text,
    s.content filename flushed = some text → ∀ line ∈ metadataLines text, FieldOk line := by
  intro text hcontent line hline
  have hmem : filename ∈ Folder.namesOf s.folder := by
    rw [h.mem_names, ← h.opens filename flushed, hcontent]
    rfl
  obtain ⟨text', t, body, hcontent', hcut⟩ := h.content_cut hmem flushed
  cases hcontent.symm.trans hcontent'
  exact (metadata_cut hcut line hline).1

/-- A finished recording is on the disk, and its file is not the one that is being written. -/
theorem Stocked.finished (h : Stocked P launch s l) (hown : l.known.Nodup) {path : Bytes}
    {frames : List Bytes} (hfinished : l.Finished P launch path frames) :
    (∃ content, s.server.recorder.disk path = some content ∧ Completed P content frames) ∧
      ∀ a, l.journal.active = some a → path ≠ a.name := by
  obtain ⟨-, hopened, hapart⟩ := List.nodup_append.1 hown
  rcases hfinished with hmem | ⟨hleft, content, hdisk, hcompleted⟩
  · exact ⟨h.tracks.completed _ hmem, fun a ha => h.tracks.name_ne hopened hmem ha⟩
  · rw [← h.left] at hleft
    refine ⟨⟨content, (h.kept _ hleft).trans hdisk, hcompleted⟩, fun a ha => ?_⟩
    refine hapart _ hleft _ ?_
    rw [h.tracks.opened, ha]
    exact List.mem_append_right _ List.mem_cons_self

theorem Stocked.writes_eq (h : Stocked P launch s l) {filename : Bytes}
    (hother : ∀ a, l.journal.active = some a → recordingPath filename ≠ a.name) :
    s.writes filename = false := by
  unfold Program.writes
  rw [h.tracks.isRecording]
  cases hactive : l.journal.active with
  | none => rfl
  | some a =>
    rw [(h.tracks.active a hactive).1, Option.isSome_some, Bool.true_and, beq_eq_false_iff_ne]
    exact fun heq => hother a hactive (Option.some.inj heq).symm

/-- A finished recording is read as it has been finished. -/
theorem Stocked.content_finished (h : Stocked P launch s l) (hown : l.known.Nodup)
    {filename : Bytes} {frames : List Bytes} (hshelf : recordingPath filename ∈ l.shelf)
    (hfinished : l.Finished P launch (recordingPath filename) frames) (flushed : Nat) :
    ∃ content, s.content filename flushed = some content ∧ Completed P content frames := by
  obtain ⟨⟨content, hdisk, hcompleted⟩, hother⟩ := h.finished hown hfinished
  refine ⟨content, ?_, hcompleted⟩
  unfold Program.content
  rw [if_pos (List.contains_iff_mem.2 (h.mem_names.2 hshelf)), hdisk, h.writes_eq hother]
  rfl

/-- What the segment that starts a playback finds in the directory. -/
theorem answer_startsPlayback {e : ServerEvent P} {filename : Bytes} {session : SessionId}
    {flushed : Nat} (h : s.StartsPlayback filename session (.server e flushed))
    (hplain : Folder.Plain filename) : ∃ i camera t,
      s.answer flushed e = .segment i camera (s.content filename flushed) ∧
        s.server.stream.tasks[i]? = some t ∧ t.pc = .stoppingPlayback filename session := by
  cases e with
  | segment i camera content =>
    obtain ⟨⟨caller, pc⟩, ht, rfl⟩ := h
    refine ⟨i, camera, _, ?_, ht, rfl⟩
    simp only [Program.answer, ht, if_pos hplain]
  | _ => cases h

theorem startsPlayback_of_answer {e : ServerEvent P} {flushed i : Nat} {camera : CameraEnv}
    {content : Option Bytes} (h : s.answer flushed e = .segment i camera content) {t : Task}
    (ht : s.server.stream.tasks[i]? = some t) {filename : Bytes} {session : SessionId}
    (hpc : t.pc = .stoppingPlayback filename session) :
    s.StartsPlayback filename session (.server e flushed) := by
  cases e with
  | segment i' camera' content' =>
    simp only [Program.answer, ServerEvent.segment.injEq] at h
    obtain ⟨rfl, -, -⟩ := h
    exact ⟨t, ht, hpc⟩
  | _ => cases h

/-- And what it does. -/
theorem startsPlayback_step {filename : Bytes} {session : SessionId}
    (hs : (program P api).step s e = some s') (hstarts : s.StartsPlayback filename session e)
    (hplain : Folder.Plain filename) : ∃ flushed, s'.controller =
      (s.controller.stopPlayback.startPlayback P filename session (s.content filename flushed)).self := by
  cases programStep_of_step hs with
  | request env stat method target res response => cases hstarts
  | server e flushed server' step =>
    obtain ⟨i, camera, ⟨caller, pc⟩, hanswer, ht, rfl⟩ := answer_startsPlayback hstarts hplain
    rw [hanswer] at step
    obtain ⟨t, g, hsegment⟩ := Server.methodSegment_stream (segmentOf_of_step step)
    obtain ⟨ht', rfl, hstream⟩ := segment_eq hsegment
    cases ht.symm.trans ht'
    exact ⟨flushed, congrArg StreamSystem.controller hstream⟩

/-- **A playback finds what is on the shelf**, and what has been finished it plays. -/
theorem Stocked.plays (h : Stocked P launch s l) (hown : l.known.Nodup) {filename : Bytes}
    {session : SessionId} {frames : List Bytes} (hs : (program P api).step s e = some s')
    (hstarts : s.StartsPlayback filename session e) (hplain : Folder.Plain filename)
    (hshelf : recordingPath filename ∈ l.shelf)
    (hfinished : l.Finished P launch (recordingPath filename) frames)
    (hclosed : ¬s.controller.playbackController.Dangling) :
    PlaysThrough P s'.controller session frames := by
  obtain ⟨flushed, hself⟩ := startsPlayback_step hs hstarts hplain
  obtain ⟨content, hcontent, hcompleted⟩ := h.content_finished hown hshelf hfinished flushed
  rw [hself, hcontent]
  exact hcompleted.playsThrough hclosed filename session

/-- A file of the directory makes no load throw. -/
theorem Stocked.loads_quietly (h : Stocked P launch s l) (p : PlaybackController)
    (filename name : Bytes) (flushed : Nat) (e : Exn) :
    (p.loadRecording name (s.content filename flushed)).2 ≠ .error e := by
  cases hread : s.content filename flushed with
  | some text => exact loadRecording_of_fields (h.fields filename flushed text hread) name e
  | none =>
    rw [loadRecording_refused fun hloadable => ?_]
    · exact fun herror => by cases herror
    · obtain ⟨text, hnone, -⟩ := hloadable.header
      cases hnone

/-- A playback of a file of the directory leaves none open. -/
theorem Stocked.closed (h : Stocked P launch s l) (hs : (program P api).step s e = some s')
    (hnames : NamesFile s e) (hclosed : ¬s.controller.playbackController.Dangling) :
    ¬s'.controller.playbackController.Dangling := by
  intro hdangling
  cases programStep_of_step hs with
  | request env stat method target res response => exact hclosed hdangling
  | server e flushed server' step =>
    rcases dangling_step step hdangling with hbefore |
      ⟨i, camera, content, t, filename, session, err, hanswer, ht, hpc, hload⟩
    · exact hclosed hbefore
    · have hstarts := startsPlayback_of_answer hanswer ht hpc
      obtain ⟨i', camera', t', hfound, -⟩ := answer_startsPlayback hstarts
        (hnames filename session hstarts)
      rw [hanswer, ServerEvent.segment.injEq] at hfound
      rw [hfound.2.2] at hload
      exact h.loads_quietly _ _ _ flushed err hload

end Served

/-- What the clients of a program can see of its recordings. -/
structure Offers (P : Platform) (api : Api) (launch : Launch) (s : Program) (l : Ledger) : Prop where
  /-- `/recordings` lists the shelf. -/
  lists : ∀ env stat method, method ≠ .options → Succeeds env.write →
    ∃ res, s.respond env stat method (lit "/recordings") = .ok res ∧ res.status = 200 ∧
      Lists env.printDouble res.body l.shelf
  /-- A `DELETE` finds what is on the shelf. -/
  finds : ∀ env stat filename, Folder.Plain filename → refusedName filename = false →
    Succeeds env.write →
      ∃ res, s.respond env stat .delete (lit "/recordings/" ++ filename) = .ok res ∧
        res.status = if recordingPath filename ∈ l.shelf then 200 else 404
  /-- A playback that starts reads the file of that name, as far as it has been flushed, ... -/
  starts : ∀ e s' filename session, (program P api).step s e = some s' →
    s.StartsPlayback filename session e → Folder.Plain filename → ∃ flushed, s'.controller =
      (s.controller.stopPlayback.startPlayback P filename session (s.content filename flushed)).self
  /-- ... which is there where it is on the shelf, ... -/
  opens : ∀ filename flushed,
    (s.content filename flushed).isSome = true ↔ recordingPath filename ∈ l.shelf
  /-- ... loads it as soon as its first line has been flushed ... -/
  loads : ∀ filename flushed, s.controller.loads filename (s.content filename flushed) = true ↔
    ¬s.controller.playbackController.Dangling ∧ HasHeader (s.content filename flushed)
  /-- ... and plays a finished one to its end. -/
  plays : ∀ e s' filename session frames, (program P api).step s e = some s' →
    s.StartsPlayback filename session e → Folder.Plain filename →
      recordingPath filename ∈ l.shelf → l.Finished P launch (recordingPath filename) frames →
        ¬s.controller.playbackController.Dangling → PlaysThrough P s'.controller session frames

/-- **The recordings that a client can see.** After any run of the program on the directory that earlier
launches have left, in which no two recordings share a name, `/recordings` lists the recordings on the
shelf and nothing else; a `DELETE` is answered with 200 for these and with 404 for any other name of a
file; and a playback can open these and no other file of the directory, and plays a finished one to its
end, as long as no load of another file has thrown and left that open; which no load of a file of the
directory does. -/
theorem recordings_served (P : Platform) (api : Api) (launch : Launch) (es : List (ProgramEvent P))
    (s : Program) (hrun : (program P api).run launch.start es = some s)
    (hown : (ledgerOf P api launch es).known.Nodup) :
    Offers P api launch s (ledgerOf P api launch es) ∧
      ((program P api).AllSteps NamesFile launch.start es →
        ¬s.controller.playbackController.Dangling) := by
  have h := stocked_run hrun hown
  refine ⟨⟨fun env stat method hmethod hwrite => h.lists hmethod hwrite,
    fun env stat filename hplain hallowed hwrite => h.finds hplain hallowed hwrite,
    fun e s' filename session hs hstarts hplain => startsPlayback_step hs hstarts hplain, h.opens,
    fun filename flushed => loads_of_fields (h.fields filename flushed) filename,
    fun e s' filename session frames => h.plays hown⟩, fun hnames => ?_⟩
  have hkept : Stocked P launch s (ledgerOf P api launch es) ∧
      ¬s.controller.playbackController.Dangling := by
    refine Machine.record_invariant (I := fun s l => l.known.Nodup → Stocked P launch s l ∧
      ¬s.controller.playbackController.Dangling) ?_ (fun _ => ⟨.init P launch, not_dangling_init⟩)
      hnames hrun hown
    intro s e s' l hi hname hs hown
    obtain ⟨hstocked, hclosed⟩ := hi (hown.sublist (known_ledger l s s' e).sublist)
    exact ⟨hstocked.step hs hown, hstocked.closed hs hname hclosed⟩
  exact hkept.2

/-! ### A recording from before, and two more of which one is deleted -/

def earlier : Tm := { noon with hour := 11 }

def later : Tm := { noon with sec := 1 }

/-- The launch before has left a recording with one frame. -/
def leftover : Launch where
  folder := ⟨[lit "ascii_stream_20250301_110000.asr"], List.nodup_singleton _⟩
  disk path :=
    if path = recordingName earlier then some (recordingText earlier [(5, lit "old")] 0) else none
  named := List.forall_mem_singleton.2 ⟨earlier, by decide⟩
  written := List.forall_mem_singleton.2
    ⟨recordingText earlier [(5, lit "old")] 0, earlier, _, if_pos (by decide),
      by rw [recordingText, List.append_assoc]⟩

def quietEnv : HttpEnv := listingEnv ⟨[], List.nodup_nil⟩

def flushedStat (_ : Bytes) : FileStat := ⟨0, 0, 0, 0⟩

/-- Another frame is recorded a second later, and then somebody deletes the first of the two recordings.
A session plays the other one, and asks for the recording from before. -/
def recordedTwice : List (ProgramEvent x86_64) :=
  (recorded ++ [.loop 0 .empty, .session 1 (.message (lit "record") true) ⟨later, 0, true⟩,
    .loop 0 (.frame sampleFrame 5000000), .loop 0 .empty, tells 1 "cut" true]).map (.server · 0) ++
      [.request quietEnv flushedStat .delete (lit "/recordings/ascii_stream_20250301_120000.asr")] ++
  (joins 2 ++ [tells 2 "play ascii_stream_20250301_120001.asr" true, .segment 0 .working none,
    .segment 0 .working none, tells 2 "play ascii_stream_20250301_110000.asr" true,
    .segment 0 .working none]).map (.server · 0)

/-- The `start_playback` of the recording from before. -/
def askedFor : ProgramEvent x86_64 := .server (.segment 0 .working none) 0

/-- The test of what starts. -/
def namesFile (s : Program) : ProgramEvent x86_64 → Bool
  | .server (.segment i _ _) _ => match s.server.stream.tasks[i]? with
    | some ⟨_, .stoppingPlayback filename _⟩ => decide (Folder.Plain filename)
    | _ => true
  | _ => true

theorem namesFile_of_test (s : Program) (e : ProgramEvent x86_64) (h : namesFile s e = true) :
    NamesFile s e := by
  intro filename session hstarts
  cases e with
  | request env stat method target => cases hstarts
  | server e flushed =>
    cases e with
    | segment i camera content =>
      obtain ⟨⟨caller, pc⟩, ht, rfl⟩ := hstarts
      simpa only [namesFile, ht, decide_eq_true_eq] using h
    | _ => cases hstarts

theorem recordings_served_leftover : ∃ s s',
    (program x86_64 studioApi).run leftover.start recordedTwice = some s ∧
      (ledgerOf x86_64 studioApi leftover recordedTwice).shelf =
        [recordingName earlier, recordingName later] ∧
      (∃ res, s.respond quietEnv flushedStat .other (lit "/recordings") = .ok res ∧
        res.status = 200 ∧
          Lists quietEnv.printDouble res.body [recordingName earlier, recordingName later]) ∧
      (∃ res, s.respond quietEnv flushedStat .delete
          (lit "/recordings/" ++ lit "ascii_stream_20250301_120000.asr") = .ok res ∧
        res.status = 404) ∧
      (program x86_64 studioApi).step s askedFor = some s' ∧
        PlaysThrough x86_64 s'.controller 2 [lit "old"] := by
  have hfacts : ((((program x86_64 studioApi).restrict fun s e => namesFile s e = true).run
      leftover.start recordedTwice).bind fun s =>
        ((program x86_64 studioApi).step s askedFor).map fun s' => (s, s')).any (fun x =>
          x.1.server.stream.tasks[0]?.any fun t =>
            t.pc == .stoppingPlayback (lit "ascii_stream_20250301_110000.asr") 2) = true := by
    decide +kernel
  obtain ⟨⟨s, s'⟩, hx, htask⟩ := (Option.any_eq_true _ _).1 hfacts
  obtain ⟨t, hnamed, hx⟩ := Option.bind_eq_some_iff.1 hx
  obtain ⟨t', hstep, heq⟩ := Option.map_eq_some_iff.1 hx
  cases heq
  obtain ⟨task, htask, hpc⟩ := (Option.any_eq_true _ _).1 htask
  obtain ⟨hnames, hrun⟩ := Machine.run_restrict.1 hnamed
  have hshelf : (ledgerOf x86_64 studioApi leftover recordedTwice).shelf =
      [recordingName earlier, recordingName later] := by decide +kernel
  obtain ⟨hoffers, hclosed⟩ := recordings_served x86_64 studioApi leftover recordedTwice s hrun
    (by decide +kernel)
  have hlist := hoffers.lists quietEnv flushedStat .other (by decide) (succeeds_ok ())
  obtain ⟨res, hres, hstatus⟩ := hoffers.finds quietEnv flushedStat
    (lit "ascii_stream_20250301_120000.asr") (by decide) (by decide) (succeeds_ok ())
  rw [hshelf] at hlist hstatus
  have hstarts : s.StartsPlayback (lit "ascii_stream_20250301_110000.asr") 2 askedFor :=
    ⟨task, htask, beq_iff_eq.1 hpc⟩
  have hname : recordingPath (lit "ascii_stream_20250301_110000.asr") = recordingName earlier := by
    decide
  have hdisk : leftover.disk (recordingPath (lit "ascii_stream_20250301_110000.asr")) =
      some (recordingText earlier [(5, lit "old")] 0) := by
    rw [hname]
    simp only [leftover, ↓reduceIte]
  have hfinished : (ledgerOf x86_64 studioApi leftover recordedTwice).Finished x86_64 leftover
      (recordingPath (lit "ascii_stream_20250301_110000.asr")) [lit "old"] :=
    Or.inr ⟨List.mem_singleton_self _, _, hdisk, earlier, _, 0, rfl,
      List.forall_mem_singleton.2 (by decide), rfl⟩
  have hplays := hoffers.plays askedFor s' _ 2 _ hstep hstarts (by decide)
    (by rw [hshelf]; exact List.mem_cons.2 (Or.inl (by decide))) hfinished
    (hclosed (hnames.mono namesFile_of_test))
  refine ⟨s, s', hrun, hshelf, hlist, ⟨res, hres, ?_⟩, hstep, hplays⟩
  rw [hstatus, if_neg (by decide)]

end AsciiStreamer
