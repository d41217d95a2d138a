import Mathlib.Data.List.Sort
import AsciiStreamer.Lib.Folder
import AsciiStreamer.Http.Escape
import AsciiStreamer.Server.Replay

/-!
# The program (`src/main.cpp`)

The sessions and the requests share the directory of recordings: a recording that starts creates a file
in it, a `DELETE` removes one, `/recordings` goes through it, and a playback opens a file of it. The
program finds in it what earlier launches have left (`Launch`), and creates it only if it is missing. In
`program` what the calls on the directory answer follows from what it holds (`answer`, `environment`);
everything else is up to the machine, as before. A file that is being written can be read as far as it
has been flushed. A handler of a request that throws ends `main`, and there is nothing after it.
-/

namespace AsciiStreamer

open Cxx HttpSession

/-- What the system knows of a file: its place in the directory, its size, when it was last written,
and how much of it has been flushed. -/
structure FileStat where
  place : Nat
  size : Nat
  lastWriteTime : Int
  flushed : Nat

/-- The server and its directory of recordings. -/
structure Program where
  server : Server
  folder : Option Folder

inductive ProgramEvent (P : Platform)
  | server (e : ServerEvent P) (flushed : Nat)
  | request (env : HttpEnv) (stat : Bytes → FileStat) (method : Verb) (target : Bytes)

/-- The directory that `RecordController` creates. -/
def recordingsName : Bytes := lit "recordings"

namespace Program

/-! ## What the directory answers -/

/-- The recorder has the file open. -/
def writes (s : Program) (filename : Bytes) : Bool :=
  s.server.recorder.controller.isRecording &&
    s.server.recorder.controller.recordFile == some (recordingPath filename)

/-- What a stream that is opened on a file of the directory reads. -/
def content (s : Program) (filename : Bytes) (flushed : Nat) : Option Bytes :=
  if (Folder.namesOf s.folder).contains filename then
    let text := (s.server.recorder.disk (recordingPath filename)).getD []
    some (if s.writes filename then text.take flushed else text)
  else none

def entry (s : Program) (stat : Bytes → FileStat) (filename : Bytes) : DirEntry where
  filename := filename
  isRegularFile := .ok true
  fileSize := .ok (stat filename).size
  lastWriteTime := .ok (stat filename).lastWriteTime
  content := s.content filename (stat filename).flushed

/-- The names in the order in which the iterator comes to them. -/
def listing (s : Program) (stat : Bytes → FileStat) : List Bytes :=
  (Folder.namesOf s.folder).insertionSort fun a b => (stat a).place ≤ (stat b).place

theorem listing_perm (s : Program) (stat : Bytes → FileStat) :
    (s.listing stat).Perm (Folder.namesOf s.folder) :=
  List.perm_insertionSort _ _

theorem entries_filename (s : Program) (stat : Bytes → FileStat) (names : List Bytes) :
    (names.map (s.entry stat)).map DirEntry.filename = names := by
  rw [List.map_map]
  exact List.map_id names

theorem namesOf_nodup (f : Option Folder) : (Folder.namesOf f).Nodup := by
  cases f with
  | none => exact List.nodup_nil
  | some f => exact f.nodup

def directory (s : Program) (stat : Bytes → FileStat) : Directory where
  entries := (s.listing stat).map (s.entry stat)
  nodup := by
    rw [entries_filename]
    exact (s.listing_perm stat).nodup_iff.2 (namesOf_nodup s.folder)

/-- What the calls of a request on the directory answer. -/
def environment (s : Program) (env : HttpEnv) (stat : Bytes → FileStat) : HttpEnv :=
  { env with
    directory := s.directory stat
    fileExists := Folder.existsAt recordingsName s.folder
    remove := fun path => (Folder.remove recordingsName s.folder path).2 }

def respond (s : Program) (env : HttpEnv) (stat : Bytes → FileStat) (method : Verb)
    (target : Bytes) : Except Exn Response :=
  handleRequest (s.environment env stat) docRoot method target

variable {P : Platform}

/-- The same event with what it finds in the directory: a recording can only start where there is one,
and a playback of a file in it reads that file. -/
def answer (s : Program) (flushed : Nat) : ServerEvent P → ServerEvent P
  | .session id e clock =>
    .session id e { clock with fileOpens := clock.fileOpens && s.folder.isSome }
  | .segment i camera content => .segment i camera <|
    match s.server.stream.tasks[i]? with
    | some ⟨_, .stoppingPlayback filename _⟩ =>
      if Folder.Plain filename then s.content filename flushed else content
    | _ => content
  | e => e

/-! ## What becomes of it -/

/-- The file that a recording has created. -/
def created (s s' : Server) : Option Bytes :=
  if s.recorder.controller.isRecording then none
  else if s'.recorder.controller.isRecording then s'.recorder.controller.recordFile else none

def folderWith (f : Option Folder) : Option Bytes → Option Folder
  | some path => f.map fun f => f.create (path.drop (recordingsName.length + 1))
  | none => f

/-- The directory after a request whose handler returns. -/
def folderAfter (s : Program) (method : Verb) (target : Bytes) : Option Folder :=
  match route docRoot method target with
  | .deleteRecording filename =>
    let path := recordingPath filename
    if refusedName filename then s.folder
    else if Folder.existsAt recordingsName s.folder path = .ok true then
      (Folder.remove recordingsName s.folder path).1
    else s.folder
  | _ => s.folder

end Program

/-! ## Where it starts -/

/-- What earlier launches have left in the directory: files of the recorder, as far as they had got when
their launch ended. -/
structure Launch where
  folder : Folder
  disk : Disk
  named : ∀ name ∈ folder.names, ∃ t, recordingPath name = recordingName t
  written : ∀ name ∈ folder.names, ∃ text t body, disk (recordingPath name) = some text ∧
    text <+: headerText t ++ body

namespace Launch

def start (launch : Launch) : Program where
  server := { stream := { controller := { recorder := { disk := launch.disk } } } }
  folder := some launch.folder

/-- The paths of these files. -/
def paths (launch : Launch) : List Bytes := launch.folder.names.map recordingPath

end Launch

def program (P : Platform) (api : Api) : Machine Program (ProgramEvent P) where
  step s
    | .server e flushed => ((server P api).step s.server (s.answer flushed e)).map fun server' =>
      { server := server'
        folder := Program.folderWith s.folder (Program.created s.server server') }
    | .request env stat method target => match s.respond env stat method target with
      | .ok _ => some { s with folder := s.folderAfter method target }
      | .error _ => none

inductive ProgramStep (P : Platform) (api : Api) (s : Program) : ProgramEvent P → Program → Prop
  | server (e : ServerEvent P) (flushed : Nat) (server' : Server)
      (step : (server P api).step s.server (s.answer flushed e) = some server') :
      ProgramStep P api s (.server e flushed)
        ⟨server', Program.folderWith s.folder (Program.created s.server server')⟩
  | request (env : HttpEnv) (stat : Bytes → FileStat) (method : Verb) (target : Bytes)
      (res : Response) (response : s.respond env stat method target = .ok res) :
      ProgramStep P api s (.request env stat method target)
        { s with folder := s.folderAfter method target }

theorem programStep_of_step {P : Platform} {api : Api} {s s' : Program} {e : ProgramEvent P}
    (h : (program P api).step s e = some s') : ProgramStep P api s e s' := by
  cases e with
  | server e flushed =>
    obtain ⟨server', hstep, rfl⟩ := Option.map_eq_some_iff.1 h
    exact .server e flushed server' hstep
  | request env stat method target =>
    simp only [program] at h
    split at h
    · next res hres =>
      cases h
      exact .request env stat method target res hres
    · cases h

end AsciiStreamer
