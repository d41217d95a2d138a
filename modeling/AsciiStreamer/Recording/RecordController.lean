import AsciiStreamer.Lib.Machine
import AsciiStreamer.Lib.Text

/-!
# The recorder (`src/record_controller.cpp`)

`RecordController` writes one file per recording: a header with the local start time, the line
`frames:`, one header line and the raw bytes per frame, and a footer with the duration and the
frame count. The directory is a map from names to contents that only the recorder writes; opening
for output truncates. `RecordEvent` is what reaches the recorder in a run: the two commands and
the frames that `capture_loop` converts, each with the clock it reads.
-/

namespace AsciiStreamer

open Cxx

/-- What the model leaves to the machine it runs on: the longest string it can build, and the
value it gives to a conversion from `double` to `int` that is out of range. -/
structure Platform where
  maxSize : Nat
  maxSize_lt : maxSize < 2 ^ 63
  castOut : Rat → Int

/-- libstdc++ on x86-64. -/
def x86_64 : Platform where
  maxSize := 2 ^ 63 - 1
  maxSize_lt := by decide
  castOut _ := INT_MIN

/-- A string that exists on the platform. -/
structure Str (P : Platform) where
  bytes : Bytes
  fits : bytes.length ≤ P.maxSize

/-- A reading of the steady clock in nanoseconds. -/
abbrev Instant := Fin (2 ^ 63)

/-- `0` is a reading of the clock. -/
instance Instant.neZero : NeZero (2 ^ 63) := inferInstance

/-- `std::tm` as `std::localtime` fills it, with the full year and months from 1. -/
structure Tm where
  year : Nat
  mon : Nat
  mday : Nat
  hour : Nat
  min : Nat
  sec : Nat
  deriving DecidableEq, Repr

/-- What file names denote. -/
abbrev Disk := Bytes → Option Bytes

namespace Disk

def write (d : Disk) (name content : Bytes) : Disk :=
  fun n => if n = name then some content else d n

def append (d : Disk) (name content : Bytes) : Disk :=
  d.write name ((d name).getD [] ++ content)

@[simp] theorem write_self (d : Disk) (name content : Bytes) :
    d.write name content name = some content := if_pos rfl

theorem write_other {d : Disk} {name content n : Bytes} (h : n ≠ name) :
    d.write name content n = d n := if_neg h

theorem append_self {d : Disk} {name c : Bytes} (h : d name = some c) (content : Bytes) :
    d.append name content name = some (c ++ content) := by
  simp [append, h]

theorem append_other {d : Disk} {name content n : Bytes} (h : n ≠ name) :
    d.append name content n = d n := write_other h

end Disk

/-! ## `std::put_time` -/

def pad2 (n : Nat) : Bytes := if n < 10 then lit "0" ++ natToDec n else natToDec n

/-- The name `start_recording` builds, `%Y%m%d_%H%M%S` between its literals. -/
def recordingName (t : Tm) : Bytes :=
  lit "recordings/ascii_stream_" ++ natToDec t.year ++ pad2 t.mon ++ pad2 t.mday ++ lit "_" ++
    pad2 t.hour ++ pad2 t.min ++ pad2 t.sec ++ lit ".asr"

/-- `%Y-%m-%d %H:%M:%S`. -/
def timestampText (t : Tm) : Bytes :=
  natToDec t.year ++ lit "-" ++ pad2 t.mon ++ lit "-" ++ pad2 t.mday ++ lit " " ++
    pad2 t.hour ++ lit ":" ++ pad2 t.min ++ lit ":" ++ pad2 t.sec

/-! ## The controller -/

/-- `recordFile` is the name of the file `record_file_` is open on. -/
structure RecordController where
  recordFile : Option Bytes := none
  isRecording : Bool := false
  filename : Bytes := []
  startTime : Instant := 0
  frameCount : Nat := 0

/-- The difference of two clock readings in units of `d` nanoseconds, truncated. -/
def durationCast (now start : Instant) (d : Int) : Int := ((now : Int) - (start : Int)).tdiv d

def headerText (t : Tm) : Bytes :=
  lit "ASCII_STREAM_RECORD\n" ++ lit "version:1.0\n" ++
    (lit "timestamp:" ++ timestampText t ++ lit "\n") ++ lit "frames:\n"

def frameText (timestamp : Int) (frame : Bytes) : Bytes :=
  (lit "frame:" ++ intToDec timestamp ++ lit ":" ++ natToDec frame.length ++ lit "\n") ++
    (frame ++ lit "\n")

def footerText (seconds : Int) (frameCount : Nat) : Bytes :=
  (lit "end_time:" ++ intToDec seconds ++ lit "\n") ++
    (lit "frame_count:" ++ natToDec frameCount ++ lit "\n")

namespace RecordController

/-- `fileOpens` is whether the system can open the file for writing. -/
def startRecording (c : RecordController) (d : Disk) (t : Tm) (now : Instant)
    (fileOpens : Bool) : RecordController × Disk × Bool :=
  if c.isRecording then (c, d, false)
  else if fileOpens then
    ({ recordFile := some (recordingName t), isRecording := true, filename := recordingName t,
       startTime := now, frameCount := 0 },
      d.write (recordingName t) (headerText t), true)
  else ({ c with filename := recordingName t, recordFile := none }, d, false)

def stopRecording (c : RecordController) (d : Disk) (now : Instant) : RecordController × Disk :=
  if c.isRecording then
    ({ c with isRecording := false, recordFile := none },
      match c.recordFile with
      | none => d
      | some name =>
        d.append name (footerText (durationCast now c.startTime 1000000000) c.frameCount))
  else (c, d)

def writeFrame (c : RecordController) (d : Disk) (frame : Bytes) (now : Instant) :
    RecordController × Disk :=
  match c.isRecording, c.recordFile with
  | true, some name =>
    ({ c with frameCount := (c.frameCount + 1) % 2 ^ 64 },
      d.append name (frameText (durationCast now c.startTime 1000000) frame))
  | _, _ => (c, d)

end RecordController

/-! ## Runs of the recorder -/

/-- What reaches the recorder: the commands `record_start` and `record_stop`, and the frames that
`capture_loop` converts. Every file can be opened. -/
inductive RecordEvent (P : Platform)
  | startRecording (local_ : Tm) (now : Instant)
  | stopRecording (now : Instant)
  | frameConverted (frame : Str P) (now : Instant)

/-- The recorder and the directory it writes to. -/
structure Recorder where
  controller : RecordController := {}
  disk : Disk := fun _ => none

namespace Recorder

variable {P : Platform}

def step (s : Recorder) : RecordEvent P → Recorder
  | .startRecording t now =>
    let (c, d, _) := s.controller.startRecording s.disk t now true
    { controller := c, disk := d }
  | .stopRecording now =>
    let (c, d) := s.controller.stopRecording s.disk now
    { controller := c, disk := d }
  | .frameConverted frame now =>
    -- `capture_loop` asks `is_recording()` before it calls `write_frame`
    if s.controller.isRecording then
      let (c, d) := s.controller.writeFrame s.disk frame.bytes now
      { controller := c, disk := d }
    else s

def run (s : Recorder) (es : List (RecordEvent P)) : Recorder := es.foldl step s

end Recorder

end AsciiStreamer
