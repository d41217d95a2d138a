import Mathlib.Algebra.Order.Ring.Unbundled.Rat
import AsciiStreamer.Lib.FileStream
import AsciiStreamer.Lib.Timer
import AsciiStreamer.Recording.RecordController

/-!
# The player (`src/playback_controller.cpp`)

`PlaybackController` reads a recording back: `loadRecording` scans the metadata up to the line
`frames:`, `startPlayback` installs the callback and reads the first frame, and every
`readNextFrame` hands one frame to the callback and schedules a timer whose handler reads the next.
A function that can throw returns the object as the exception leaves it.
-/

namespace AsciiStreamer

open Cxx

structure RecordingInfo where
  filename : Bytes := []
  timestamp : Bytes := []
  duration : Int := 0
  frameCount : Int := 0
  fileSize : Nat := 0
  deriving DecidableEq, Repr

/-- `frameCallback` is the installed callback with the frames it has been called with. -/
structure PlaybackController where
  playbackTimer : Timer := {}
  playbackFile : IFStream := {}
  isPlaying : Bool := false
  isPaused : Bool := false
  frameCallback : Option (List Bytes) := none
  playbackSpeed : Rat := 1
  currentRecordingInfo : RecordingInfo := {}
  currentFrame : Nat := 0
  nextFrameTime : Int := 0

/-- What a call leaves: the object, the frame passed to the callback, the exception that escapes. -/
structure Outcome where
  self : PlaybackController
  frame : Option Bytes := none
  exn : Option Exn := none

/-! ## Conversions -/

/-- Signed 64-bit arithmetic wraps around. -/
def toInt64 (z : Int) : Int := (z + 2 ^ 63) % 2 ^ 64 - 2 ^ 63

/-- `static_cast<int>` of a `double`. -/
def castInt (P : Platform) (q : Rat) : Int :=
  let z := q.num.tdiv q.den
  if INT_MIN ≤ z ∧ z ≤ INT_MAX then z else P.castOut q

/-! ## Parsing -/

/-- One `key:value` line of the metadata. -/
def metadataLine (info : RecordingInfo) (line : Bytes) : Except Exn RecordingInfo :=
  match find colon line 0 with
  | none => .ok info
  | some colonPos =>
    let key := substr line 0 colonPos
    let value := substrFrom line (colonPos + 1)
    if key = lit "timestamp" then .ok { info with timestamp := value }
    else if key = lit "end_time" then (stoi value).map fun d => { info with duration := d }
    else if key = lit "frame_count" then (stoi value).map fun n => { info with frameCount := n }
    else .ok info

/-- `while (getline(file, line) && line != "frames:")` over the metadata. Every round but the last
takes a byte off the file, so the bytes that are left bound the rounds. -/
def readMetadata : Nat → IFStream → Bytes → RecordingInfo → IFStream × RecordingInfo × Option Exn
  | 0, f, _, info => (f, info, none)
  | fuel + 1, f, line, info =>
    let (f, line) := f.getline line
    if f.fail || line == lit "frames:" then (f, info, none)
    else match metadataLine info line with
      | .error e => (f, info, some e)
      | .ok info => readMetadata fuel f line info

/-- The second scan, which only looks for the line `frames:`. -/
def skipToFrames : Nat → IFStream → Bytes → IFStream
  | 0, f, _ => f
  | fuel + 1, f, line =>
    let (f, line) := f.getline line
    if f.fail || line == lit "frames:" then f else skipToFrames fuel f line

/-- The fields of `frame:timestamp:length`, `none` if a colon is missing. -/
def frameHeader (h : Bytes) : Option (Bytes × Bytes) :=
  let colon1 := find colon h 0
  let colon2 := find colon h (next colon1)
  match colon1, colon2 with
  | some c1, some c2 => some (substr h (c1 + 1) (c2 - c1 - 1), substrFrom h (c2 + 1))
  | _, _ => none

namespace PlaybackController

/-- The frames passed to the callback since it was installed. -/
def delivered (p : PlaybackController) : List Bytes := p.frameCallback.getD []

/-! ## The operations -/

def stopPlayback (p : PlaybackController) : PlaybackController :=
  if p.isPlaying then
    { p with
      isPlaying := false
      isPaused := false
      playbackTimer := p.playbackTimer.cancel
      playbackFile := if p.playbackFile.isOpen then p.playbackFile.close else p.playbackFile }
  else p

/-- `content` is what `filename` denotes on the disk. -/
def loadRecording (p : PlaybackController) (filename : Bytes) (content : Option Bytes) :
    PlaybackController × Except Exn Bool :=
  let p := p.stopPlayback
  let f := p.playbackFile.open' content
  if !f.isOpen then ({ p with playbackFile := f }, .ok false)
  else
    let (f, header) := f.getline []
    if header ≠ lit "ASCII_STREAM_RECORD" then
      ({ p with playbackFile := f.close }, .ok false)
    else
      match readMetadata (f.rest.length + 1) f [] { filename := filename } with
      | (f, info, some e) => ({ p with playbackFile := f, currentRecordingInfo := info }, .error e)
      | (f, info, none) =>
        let f := f.seekEnd
        let info := { info with fileSize := (f.tellg % 2 ^ 64).toNat }
        let f := f.seekBeg
        let f := skipToFrames (f.rest.length + 1) f []
        ({ p with playbackFile := f, currentRecordingInfo := info }, .ok true)

/-- The delay, in milliseconds, of the wait set after the frame with this timestamp. -/
def nextDelay (P : Platform) (p : PlaybackController) (timestamp : Int) : Int :=
  let delayMs := if p.currentFrame > 0 then toInt64 (timestamp - p.nextFrameTime) else 0
  castInt P (delayMs / p.playbackSpeed)

/-- From the parsed header on: read the payload, call the callback, schedule the next read. -/
def deliverFrame (P : Platform) (p : PlaybackController) (f : IFStream) (timestamp : Int)
    (length : Nat) : Outcome :=
  let (f, frameData) := f.read length
  let f := f.ignore1
  { self := { p with
      playbackFile := f
      nextFrameTime := timestamp
      frameCallback := p.frameCallback.map (· ++ [frameData])
      currentFrame := p.currentFrame + 1
      playbackTimer := p.playbackTimer.schedule (p.nextDelay P timestamp) }
    frame := p.frameCallback.map fun _ => frameData }

/-- `read_next_frame` behind its header line: the parsing, which can throw, and the delivery. -/
def readFrame (P : Platform) (p : PlaybackController) (f : IFStream) (header : Bytes) : Outcome :=
  match frameHeader header with
  | none => { self := { p with playbackFile := f }.stopPlayback }
  | some (timestampText, lengthText) =>
    match stoll timestampText with
    | .error e => { self := { p with playbackFile := f }, exn := some e }
    | .ok timestamp =>
      match stoul lengthText with
      | .error e => { self := { p with playbackFile := f }, exn := some e }
      | .ok length =>
        if P.maxSize < length then
          { self := { p with playbackFile := f }
            exn := some (.lengthError (lit "basic_string::_M_create")) }
        else deliverFrame P p f timestamp length

def readNextFrame (P : Platform) (p : PlaybackController) : Outcome :=
  if !p.isPlaying || p.isPaused || p.playbackFile.fail then { self := p }
  else
    let (f, header) := p.playbackFile.getline []
    if f.fail then { self := { p with playbackFile := f }.stopPlayback }
    else readFrame P p f header

def startPlayback (P : Platform) (p : PlaybackController) : Outcome :=
  if !p.playbackFile.isOpen then { self := p }
  else if p.isPlaying then { self := p }
  else
    readNextFrame P { p with
      frameCallback := some []
      isPlaying := true
      isPaused := false
      currentFrame := 0
      nextFrameTime := 0 }

def pausePlayback (p : PlaybackController) : PlaybackController :=
  if p.isPlaying && !p.isPaused then
    { p with isPaused := true, playbackTimer := p.playbackTimer.cancel }
  else p

def resumePlayback (P : Platform) (p : PlaybackController) : Outcome :=
  if p.isPlaying && p.isPaused then readNextFrame P { p with isPaused := false }
  else { self := p }

def setPlaybackSpeed (p : PlaybackController) (speed : Rat) : PlaybackController :=
  { p with playbackSpeed := max (1 / 10) (min 10 speed) }

/-- The handler of a completed wait. -/
def onTimer (P : Platform) (p : PlaybackController) (c : Timer.Completion) : Outcome :=
  if c = .success ∧ p.isPlaying = true ∧ p.isPaused = false then readNextFrame P p
  else { self := p }

/-- The loop runs the `k`-th queued handler. -/
def handler (P : Platform) (p : PlaybackController) (k : Nat) (c : Timer.Completion) : Outcome :=
  { p with playbackTimer := p.playbackTimer.take k }.onTimer P c

end PlaybackController

end AsciiStreamer
