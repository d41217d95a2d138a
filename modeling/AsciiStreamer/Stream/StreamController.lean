import AsciiStreamer.Recording.PlaybackController

/-!
# The stream controller (`src/stream_controller.cpp`, `src/video_source.cpp`)

The methods of `StreamController` are coroutines on one thread: what runs between two suspension
points is one segment, a function of the object and of what the camera, the converter and the disk
answer. `Pc.run` is the next segment of a suspended method, `captureLoop` that of a
`capture_loop`.
-/

namespace AsciiStreamer

open Cxx

abbrev SessionId := Nat

/-- What `send_frame` is called with, and by whom. -/
inductive Message
  | reply (text : Bytes)
  | live (frame : Bytes)
  | playback (frame : Bytes)
  deriving DecidableEq, Repr

/-! ## The camera -/

/-- `capOpened` is `cap_.isOpened()`. -/
structure VideoSource where
  capOpened : Bool := false
  cameraIndex : Int := -1
  width : Int := 640
  height : Int := 480
  isOpened : Bool := false
  deriving DecidableEq, Repr

namespace VideoSource

def close (v : VideoSource) : VideoSource :=
  if v.capOpened then { v with capOpened := false, isOpened := false } else v

/-- `opens` is whether the device can be opened. -/
def open' (v : VideoSource) (index : Int) (opens : Bool) : VideoSource × Except Exn Unit :=
  let v := if v.capOpened then v.close else v
  let v := { v with cameraIndex := index, capOpened := opens }
  if !v.capOpened then (v, .error (.runtimeError (lit "Could not open video source")))
  else ({ v with isOpened := true }, .ok ())

/-- `result` is how the calls of `cap_.set` turn out. -/
def setResolution (v : VideoSource) (width height : Int) (result : Except Exn Unit) :
    VideoSource × Except Exn Unit :=
  ({ v with width := width, height := height }, result)

end VideoSource

/-! ## The controller -/

/-- `recorder` is `record_controller_` with the directory it writes to. -/
structure StreamController where
  videoSource : VideoSource := {}
  asciiChars : Bytes := []
  viewers : List SessionId := []
  frameWidth : Int := 120
  frameHeight : Int := 90
  fps : Int := 10
  isStreaming : Bool := false
  stopRequested : Bool := false
  recorder : Recorder := {}
  playbackController : PlaybackController := {}
  playbackSession : Option SessionId := none

/-- How the calls of `start_streaming` to the camera and the converter turn out. -/
structure CameraEnv where
  opens : Bool
  setResolution : Except Exn Unit
  setAsciiChars : Except Exn Unit

/-- What a camera that works answers. -/
def CameraEnv.working : CameraEnv := ⟨true, .ok (), .ok ()⟩

/-- What `capture_frame` and `convert` answer. -/
inductive Capture (P : Platform)
  | throws (e : Exn)
  | empty
  | frame (frame : Str P) (now : Instant)

/-- The suspended methods: the call that waits for the strand, and what comes later. -/
inductive Call
  | startStreaming (cameraIndex : Int) (resolution : Bytes) (fps : Int)
  | stopStreaming
  | removeViewerById (sessionId : SessionId)
  | startPlayback (filename : Bytes) (session : SessionId)
  | pausePlayback
  | resumePlayback
  | stopPlayback
  | setPlaybackSpeed (speed : Rat)
  deriving DecidableEq, Repr

/-- Starting and stopping the stream and the recording. -/
inductive Operation
  | startStreaming
  | stopStreaming
  | startRecording
  | stopRecording
  deriving DecidableEq, Repr

def Call.operation : Call → Option Operation
  | .startStreaming .. => some .startStreaming
  | .stopStreaming => some .stopStreaming
  | _ => none

inductive Pc
  | dispatch (call : Call)
  /-- In the waiting loop of `stop_streaming`. -/
  | polling
  /-- `start_playback` awaits its own call of `stop_playback`. -/
  | stoppingPlayback (filename : Bytes) (session : SessionId)
  deriving DecidableEq, Repr

/-- Where a live `capture_loop` is suspended. -/
inductive LoopPc
  | spawned
  | sleeping
  | broadcasting (frame : Bytes)
  deriving DecidableEq, Repr

/-- What the calls out of a method's segment answer: the camera, the disk on the name the playback
loads, and `lock()` on the viewers. -/
structure Env where
  camera : CameraEnv
  content : Option Bytes
  alive : SessionId → Bool

/-- What a segment of a method leaves; `next` is where it suspends or what it returns. -/
structure Segment where
  self : StreamController
  spawned : Bool := false
  cleaned : Bool := false
  sends : List (SessionId × Message) := []
  next : Pc ⊕ Except Exn Unit := .inr (.ok ())

namespace StreamController

/-! ## Streaming -/

def xChar : UInt8 := 120

def widthText (resolution : Bytes) : Bytes :=
  match find xChar resolution 0 with
  | some pos => substr resolution 0 pos
  | none => resolution

def heightText (resolution : Bytes) : Bytes :=
  substrFrom resolution (next (find xChar resolution 0))

/-- The `try` block of `start_streaming`, in the order in which its calls can throw. -/
def openStream (c : StreamController) (cameraIndex : Int) (resolution : Bytes) (fps : Int)
    (env : CameraEnv) : StreamController × Except Exn Unit :=
  match stoi (widthText resolution) with
  | .error e => (c, .error e)
  | .ok width =>
    let c := { c with frameWidth := width }
    match stoi (heightText resolution) with
    | .error e => (c, .error e)
    | .ok height =>
      let c := { c with frameHeight := height, fps := fps }
      match c.videoSource.open' cameraIndex env.opens with
      | (v, .error e) => ({ c with videoSource := v }, .error e)
      | (v, .ok ()) =>
        match v.setResolution (width * 2) (height * 2) env.setResolution with
        | (v, .error e) => ({ c with videoSource := v }, .error e)
        | (v, .ok ()) =>
          match env.setAsciiChars with
          | .error e => ({ c with videoSource := v }, .error e)
          | .ok () =>
            ({ c with
              videoSource := v
              asciiChars := lit "@%#*+=-:. "
              isStreaming := true
              stopRequested := false }, .ok ())

def startStreaming (c : StreamController) (cameraIndex : Int) (resolution : Bytes) (fps : Int)
    (env : CameraEnv) : Segment :=
  if c.isStreaming then { self := c }
  else
    match c.openStream cameraIndex resolution fps env with
    | (c, .ok ()) => { self := c, spawned := true }
    | (c, .error e) => { self := { c with isStreaming := false }, next := .inr (.error e) }

def cleanup (c : StreamController) : StreamController :=
  { c with
    videoSource := c.videoSource.close
    viewers := []
    isStreaming := false }

/-- One test of the waiting loop, with what follows it. -/
def poll (c : StreamController) : Segment :=
  if c.isStreaming then { self := c, next := .inl .polling }
  else { self := c.cleanup, cleaned := true }

def stopStreaming (c : StreamController) : Segment :=
  if !c.isStreaming then { self := c }
  else { c with stopRequested := true }.poll

/-! ## Viewers -/

def addViewer (c : StreamController) (viewer : SessionId) : StreamController :=
  { c with viewers := c.viewers ++ [viewer] }

def removeViewerById (c : StreamController) (alive : SessionId → Bool) (sessionId : SessionId) :
    StreamController :=
  { c with viewers := c.viewers.filter fun v => alive v && v != sessionId }

/-- The viewers that are still there get the frame, the others are erased. -/
def broadcastFrame (c : StreamController) (alive : SessionId → Bool) (frame : Bytes) :
    StreamController × List (SessionId × Message) :=
  ({ c with viewers := c.viewers.filter alive },
    (c.viewers.filter alive).map fun v => (v, .live frame))

/-! ## The capture loop -/

/-- The condition of the loop: on to the sleep, or out. The delay `1000 / fps_` has no value for
`fps_ = 0`: the division ends the process. -/
def loopTest (c : StreamController) : Option (StreamController × Option LoopPc) :=
  if !c.stopRequested && c.isStreaming then
    if c.fps = 0 then none else some (c, some .sleeping)
  else some ({ c with isStreaming := false }, none)

variable (P : Platform)

/-- The next segment of a `capture_loop`; without a `LoopPc` it has finished. -/
def captureLoop (c : StreamController) (capture : Capture P) (alive : SessionId → Bool) :
    LoopPc → Option (StreamController × Option LoopPc × List (SessionId × Message))
  | .spawned => c.loopTest.map fun (c, pc) => (c, pc, [])
  | .sleeping =>
    match capture with
    | .throws _ => some ({ c with isStreaming := false }, none, [])
    | .empty => c.loopTest.map fun (c, pc) => (c, pc, [])
    | .frame frame now =>
      some ({ c with recorder := c.recorder.step (.frameConverted frame now) },
        some (.broadcasting frame.bytes), [])
  | .broadcasting frame =>
    let (c, sends) := c.broadcastFrame alive frame
    c.loopTest.map fun (c, pc) => (c, pc, sends)

/-! ## Recording -/

def startRecording (c : StreamController) (t : Tm) (now : Instant) (fileOpens : Bool) :
    StreamController :=
  if c.recorder.controller.isRecording then c
  else
    let (r, d, _) := c.recorder.controller.startRecording c.recorder.disk t now fileOpens
    { c with recorder := { controller := r, disk := d } }

def stopRecording (c : StreamController) (now : Instant) : StreamController :=
  if c.recorder.controller.isRecording then
    let (r, d) := c.recorder.controller.stopRecording c.recorder.disk now
    { c with recorder := { controller := r, disk := d } }
  else c

/-! ## Playback -/

/-- After a call into the player: the frame its callback sends, and the exception. -/
def played (c : StreamController) (o : Outcome) : Segment where
  self := { c with playbackController := o.self }
  sends := match o.frame, c.playbackSession with
    | some frame, some session => [(session, .playback frame)]
    | _, _ => []
  next := match o.exn with
    | some e => .inr (.error e)
    | none => .inr (.ok ())

def stopPlayback (c : StreamController) : StreamController :=
  { c with
    playbackController := c.playbackController.stopPlayback
    playbackSession := none }

/-- `start_playback` after the current playback has been stopped. -/
def startPlayback (c : StreamController) (filename : Bytes) (session : SessionId)
    (content : Option Bytes) : Segment :=
  match c.playbackController.loadRecording (lit "recordings/" ++ filename) content with
  | (p, .error e) => { self := { c with playbackController := p }, next := .inr (.error e) }
  | (p, .ok false) => { self := { c with playbackController := p } }
  | (p, .ok true) =>
    { c with playbackController := p, playbackSession := some session }.played
      (p.startPlayback P)

end StreamController

/-- The next segment of a suspended method. -/
def Pc.run (P : Platform) (c : StreamController) (env : Env) : Pc → Segment
  | .dispatch (.startStreaming cameraIndex resolution fps) =>
    c.startStreaming cameraIndex resolution fps env.camera
  | .dispatch .stopStreaming => c.stopStreaming
  | .dispatch (.removeViewerById id) => { self := c.removeViewerById env.alive id }
  | .dispatch (.startPlayback filename session) =>
    { self := c, next := .inl (.stoppingPlayback filename session) }
  | .dispatch .pausePlayback =>
    { self := { c with playbackController := c.playbackController.pausePlayback } }
  | .dispatch .resumePlayback => c.played (c.playbackController.resumePlayback P)
  | .dispatch .stopPlayback => { self := c.stopPlayback }
  | .dispatch (.setPlaybackSpeed speed) =>
    { self := { c with playbackController := c.playbackController.setPlaybackSpeed speed } }
  | .polling => c.poll
  | .stoppingPlayback filename session => c.stopPlayback.startPlayback P filename session env.content

end AsciiStreamer
