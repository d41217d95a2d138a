import AsciiStreamer.Lib.Json
import AsciiStreamer.Lib.Machine
import AsciiStreamer.Stream.StreamController

/-!
# A WebSocket session (`src/websocket_session.cpp`)

A session is the object with its coroutines: `do_run`, which reads one message after the other and
handles it, the `do_write` coroutines, and the handlers that `send_frame` has posted to the
session's strand. `Session.step` is one segment of any of them. What a message asks of the stream
controller is returned as a list of `Request`s.
-/

namespace AsciiStreamer

open Cxx

/-! ## Messages -/

inductive Command
  | auth (apiKey role : Bytes)
  | config (cameraIndex : Int) (resolution : Bytes) (fps : Int)
  | stop
  | playbackStart (filename : Bytes)
  | playbackPause
  | playbackResume
  | playbackStop
  | playbackSpeed (speed : Rat)
  | recordStart
  | recordStop
  | unknown
  deriving DecidableEq, Repr

/-- The server's key and the JSON parser. -/
structure Api where
  apiKey : Bytes
  parse : Bytes → Except Exn Json

/-- The if-chain of `handle_message`: the command of a message, with its fields, or what the
extraction of a field throws. -/
def command (P : Platform) (j : Json) (type : Bytes) (isController : Bool) : Except Exn Command :=
  if type = lit "auth" then do
    let apiKey ← (← j.field (lit "api_key")).getString
    let role ← j.value (lit "role") Json.getString (lit "viewer")
    return .auth apiKey role
  else if type = lit "config" ∧ isController = true then do
    let cameraIndex ← j.value (lit "camera_index") (Json.getInt (castInt P)) 0
    let resolution ← j.value (lit "resolution") Json.getString (lit "120x90")
    let fps ← j.value (lit "fps") (Json.getInt (castInt P)) 10
    return .config cameraIndex resolution fps
  else if type = lit "stop" ∧ isController = true then return .stop
  else if type = lit "playback_start" then do
    let filename ← j.value (lit "filename") Json.getString []
    return .playbackStart filename
  else if type = lit "playback_pause" then return .playbackPause
  else if type = lit "playback_resume" then return .playbackResume
  else if type = lit "playback_stop" then return .playbackStop
  else if type = lit "playback_speed" then do
    let speed ← j.value (lit "speed") Json.getDouble 1
    return .playbackSpeed speed
  else if type = lit "record_start" ∧ isController = true then return .recordStart
  else if type = lit "record_stop" ∧ isController = true then return .recordStop
  else return .unknown

/-- From the text of a message to its command. -/
def decode (P : Platform) (api : Api) (isController : Bool) (text : Bytes) :
    Except Exn Command := do
  let j ← api.parse text
  let type ← (← j.field (lit "type")).getString
  command P j type isController

/-- What the handling of a message asks of the stream controller. -/
inductive Request
  | addViewer
  | call (call : Call)
  | startRecording
  | stopRecording
  deriving DecidableEq, Repr

/-! ## The session -/

/-- Where `do_run` is suspended. -/
inductive Reader
  | accepting
  | reading
  /-- The direct write of `AUTH_FAILED` is outstanding. -/
  | writingAuthFailed
  /-- A method of the stream controller is awaited; `reply` is sent when it has returned. -/
  | calling (call : Call) (reply : Bytes)
  | finished
  deriving DecidableEq, Repr

/-- Where a `do_write` is suspended. -/
inductive Writer
  | spawned
  | writing (m : Message)
  deriving DecidableEq, Repr

/-- How a write fails: with an error of a closed connection, or with another one. -/
inductive WriteError
  | aborted
  | other
  deriving DecidableEq, Repr

/-- `posted` are the messages of the posted `send_frame` handlers. `sent`, `written` and `evicted`
are histories that no code reads: the messages whose handler has run, those that `do_write` passed
to `async_write`, and those that were dropped from a full queue. -/
structure Session where
  sessionId : SessionId := 0
  isOpen : Bool := false
  closing : Bool := false
  reader : Reader := .accepting
  isAuthenticated : Bool := false
  isController : Bool := false
  posted : List Message := []
  writeQueue : List Message := []
  isWriting : Bool := false
  writers : List Writer := []
  sent : List Message := []
  written : List Message := []
  evicted : List Message := []
  deriving DecidableEq, Repr

def maxQueueSize : Nat := 10

inductive SessionEvent
  | accepted (ok : Bool)
  | message (text : Bytes) (isStreaming : Bool)
  | readFailed (closed : Bool)
  | authFailedWritten (result : Except Exn Unit)
  | returned (result : Except Exn Unit)
  | sendFrame (m : Message)
  | runPosted
  | startWriter (i : Nat)
  | writeDone (i : Nat) (error : Option WriteError)
  | disconnected
  | closed

namespace Session

/-! ## Writing -/

def sendFrame (s : Session) (m : Message) : Session := { s with posted := s.posted ++ [m] }

/-- The handler that `send_frame` posts. -/
def queueFrame (s : Session) (m : Message) : Session :=
  if !s.isOpen then s
  else
    let s :=
      if maxQueueSize ≤ s.writeQueue.length then
        { s with writeQueue := s.writeQueue.tail, evicted := s.evicted ++ s.writeQueue.take 1 }
      else s
    let s := { s with writeQueue := s.writeQueue ++ [m] }
    if !s.isWriting then { s with isWriting := true, writers := s.writers ++ [.spawned] } else s

def close (s : Session) : Session := if s.isOpen then { s with closing := true } else s

/-- The loop of `do_write` up to the next `async_write`, or to the end. -/
def doWrite (s : Session) : Session × Option Writer :=
  match s.writeQueue, s.isOpen with
  | m :: q, true => ({ s with writeQueue := q, written := s.written ++ [m] }, some (.writing m))
  | _, _ => ({ s with isWriting := false }, none)

/-- The `i`-th `do_write` has run on. -/
def proceedWriter (s : Session) (i : Nat) : Session × Option Writer → Session
  | (s', next) => { s' with writers := proceed s.writers i next }

/-- `async_write` of the `i`-th `do_write` has completed. -/
def writeDone (s : Session) (i : Nat) : Option WriteError → Session
  | none => s.proceedWriter i s.doWrite
  | some .aborted => s.proceedWriter i ({ s with isWriting := false }, none)
  | some .other => s.proceedWriter i ({ s.close with isWriting := false }, none)

/-! ## Reading and handling messages -/

/-- `handle_message` has returned to the loop of `do_run`. -/
def readNext (s : Session) : Session :=
  { s with reader := if s.isOpen then .reading else .finished }

def replyError (s : Session) (e : Exn) : Session :=
  s.sendFrame (.reply (lit "ERROR: " ++ e.what))

/-- Await a method of the stream controller. -/
def await (s : Session) (call : Call) (reply : Bytes) : Session × List Request :=
  ({ s with reader := .calling call reply }, [.call call])

/-- `isStreaming` is what the stream controller's `is_streaming()` answers. -/
def runCommand (api : Api) (s : Session) (isStreaming : Bool) :
    Command → Session × List Request
  | .auth apiKey role =>
    if apiKey ≠ api.apiKey then ({ s with reader := .writingAuthFailed }, [])
    else if role = lit "controller" then
      (({ s with isAuthenticated := true, isController := true }.sendFrame
        (.reply (lit "AUTH_CONTROLLER_SUCCESS"))).readNext, [.addViewer])
    else
      ((({ s with isAuthenticated := true }.sendFrame (.reply (lit "AUTH_VIEWER_SUCCESS"))).sendFrame
        (.reply (if isStreaming then lit "STREAM_ACTIVE" else lit "STREAM_INACTIVE"))).readNext,
        [.addViewer])
  | .config cameraIndex resolution fps =>
    s.await (.startStreaming cameraIndex resolution fps) (lit "CONFIG_APPLIED")
  | .stop => s.await .stopStreaming (lit "STREAM_STOPPED")
  | .playbackStart filename =>
    if !filename.isEmpty then s.await (.startPlayback filename s.sessionId) (lit "PLAYBACK_STARTED")
    else ((s.sendFrame (.reply (lit "ERROR: No filename specified"))).readNext, [])
  | .playbackPause => s.await .pausePlayback (lit "PLAYBACK_PAUSED")
  | .playbackResume => s.await .resumePlayback (lit "PLAYBACK_RESUMED")
  | .playbackStop => s.await .stopPlayback (lit "PLAYBACK_STOPPED")
  | .playbackSpeed speed => s.await (.setPlaybackSpeed speed) (lit "PLAYBACK_SPEED_CHANGED")
  | .recordStart =>
    ((s.sendFrame (.reply (lit "RECORDING_STARTED"))).readNext, [.startRecording])
  | .recordStop => ((s.sendFrame (.reply (lit "RECORDING_STOPPED"))).readNext, [.stopRecording])
  | .unknown => ((s.sendFrame (.reply (lit "UNKNOWN_COMMAND"))).readNext, [])

/-- `handle_message` up to its first suspension. -/
def handleMessage (P : Platform) (api : Api) (s : Session) (text : Bytes) (isStreaming : Bool) :
    Session × List Request :=
  match decode P api s.isController text with
  | .error e => ((s.replyError e).readNext, [])
  | .ok c => s.runCommand api isStreaming c

/-- The awaited method has returned or thrown. -/
def returned (s : Session) (reply : Bytes) : Except Exn Unit → Session
  | .ok () => (s.sendFrame (.reply reply)).readNext
  | .error e => (s.replyError e).readNext

/-- The direct write of `AUTH_FAILED` has completed; its exception is caught in
`handle_message`. -/
def authFailedWritten (s : Session) : Except Exn Unit → Session
  | .ok () => s.readNext
  | .error e => (s.replyError e).readNext

/-- `async_read` has failed, with an error of a closed connection or another one. -/
def readFailed (s : Session) (closed : Bool) : Session :=
  { (if closed then s else s.close) with reader := .finished }

/-! ## Segments -/

/-- The segment an event starts, and what it asks of the stream controller. -/
def step (P : Platform) (api : Api) (s : Session) : SessionEvent → Option (Session × List Request)
  | .accepted ok =>
    if s.reader = .accepting then some ({ s with isOpen := ok }.readNext, []) else none
  | .message text isStreaming =>
    if s.reader = .reading then some (s.handleMessage P api text isStreaming) else none
  | .readFailed closed =>
    if s.reader = .reading then some (s.readFailed closed, []) else none
  | .authFailedWritten result =>
    if s.reader = .writingAuthFailed then some (s.authFailedWritten result, []) else none
  | .returned result => match s.reader with
    | .calling _ reply => some (s.returned reply result, [])
    | _ => none
  | .sendFrame m => some (s.sendFrame m, [])
  | .runPosted => match s.posted with
    | m :: ms => some ({ s with posted := ms, sent := s.sent ++ [m] }.queueFrame m, [])
    | [] => none
  | .startWriter i => match s.writers[i]? with
    | some .spawned => some (s.proceedWriter i s.doWrite, [])
    | _ => none
  | .writeDone i error => match s.writers[i]? with
    | some (.writing _) => some (s.writeDone i error, [])
    | _ => none
  | .disconnected => some ({ s with isOpen := false }, [])
  | .closed => if s.closing then some ({ s with closing := false, isOpen := false }, []) else none

end Session

/-! ## What a segment is -/

/-- The segments of a session, each with what has to be the case for it. -/
inductive SessionStep (P : Platform) (api : Api) (s : Session) :
    SessionEvent → Session → List Request → Prop
  | accepted (ok : Bool) (reader : s.reader = .accepting) :
    SessionStep P api s (.accepted ok) { s with isOpen := ok }.readNext []
  | message (text : Bytes) (isStreaming : Bool) (reader : s.reader = .reading) :
    SessionStep P api s (.message text isStreaming) (s.handleMessage P api text isStreaming).1
      (s.handleMessage P api text isStreaming).2
  | readFailed (closed : Bool) (reader : s.reader = .reading) :
    SessionStep P api s (.readFailed closed) (s.readFailed closed) []
  | authFailedWritten (result : Except Exn Unit) (reader : s.reader = .writingAuthFailed) :
    SessionStep P api s (.authFailedWritten result) (s.authFailedWritten result) []
  | returned (result : Except Exn Unit) (call : Call) (reply : Bytes)
      (reader : s.reader = .calling call reply) :
    SessionStep P api s (.returned result) (s.returned reply result) []
  | sendFrame (m : Message) : SessionStep P api s (.sendFrame m) (s.sendFrame m) []
  | runPosted (m : Message) (ms : List Message) (posted : s.posted = m :: ms) :
    SessionStep P api s .runPosted
      ({ s with posted := ms, sent := s.sent ++ [m] }.queueFrame m) []
  | startWriter (i : Nat) (live : s.writers[i]? = some .spawned) :
    SessionStep P api s (.startWriter i) (s.proceedWriter i s.doWrite) []
  | writeDone (i : Nat) (error : Option WriteError) (m : Message)
      (live : s.writers[i]? = some (.writing m)) :
    SessionStep P api s (.writeDone i error) (s.writeDone i error) []
  | disconnected : SessionStep P api s .disconnected { s with isOpen := false } []
  | closed (closing : s.closing = true) :
    SessionStep P api s .closed { s with closing := false, isOpen := false } []

theorem sessionStep_of_step {P : Platform} {api : Api} {s s' : Session} {e : SessionEvent}
    {rs : List Request} (h : s.step P api e = some (s', rs)) : SessionStep P api s e s' rs := by
  cases e with
  | accepted ok =>
    obtain ⟨reader, h⟩ := Option.ite_none_right_eq_some.1 h
    cases h
    exact .accepted ok reader
  | message text isStreaming =>
    obtain ⟨reader, h⟩ := Option.ite_none_right_eq_some.1 h
    have hstep : SessionStep P api s (.message text isStreaming) _ _ :=
      .message text isStreaming reader
    rw [Option.some.inj h] at hstep
    exact hstep
  | readFailed closed =>
    obtain ⟨reader, h⟩ := Option.ite_none_right_eq_some.1 h
    cases h
    exact .readFailed closed reader
  | authFailedWritten result =>
    obtain ⟨reader, h⟩ := Option.ite_none_right_eq_some.1 h
    cases h
    exact .authFailedWritten result reader
  | returned result =>
    simp only [Session.step] at h
    split at h
    · next call reply reader =>
      cases h
      exact .returned result call reply reader
    · cases h
  | sendFrame m =>
    cases h
    exact .sendFrame m
  | runPosted =>
    simp only [Session.step] at h
    split at h
    · next m ms posted =>
      cases h
      exact .runPosted m ms posted
    · cases h
  | startWriter i =>
    simp only [Session.step] at h
    split at h
    · next live =>
      cases h
      exact .startWriter i live
    · cases h
  | writeDone i error =>
    simp only [Session.step] at h
    split at h
    · next m live =>
      cases h
      exact .writeDone i error m live
    · cases h
  | disconnected =>
    cases h
    exact .disconnected
  | closed =>
    obtain ⟨closing, h⟩ := Option.ite_none_right_eq_some.1 h
    cases h
    exact .closed closing

theorem reading_of_message {P : Platform} {api : Api} {s s' : Session} {text : Bytes}
    {isStreaming : Bool} {rs : List Request}
    (h : s.step P api (.message text isStreaming) = some (s', rs)) : s.reader = .reading := by
  cases sessionStep_of_step h with
  | message _ _ reader => exact reader

/-! ## What writing leaves alone -/

/-- `do_run`, the flags and the posted handlers are as they were. -/
structure SameReading (s s' : Session) : Prop where
  sessionId : s'.sessionId = s.sessionId
  isOpen : s'.isOpen = s.isOpen
  reader : s'.reader = s.reader
  isAuthenticated : s'.isAuthenticated = s.isAuthenticated
  isController : s'.isController = s.isController
  posted : s'.posted = s.posted

section SameReading

variable {s : Session}

theorem sameReading_queueFrame (m : Message) : SameReading s (s.queueFrame m) := by
  unfold Session.queueFrame
  split
  · exact ⟨rfl, rfl, rfl, rfl, rfl, rfl⟩
  · simp only
    split <;> split <;> exact ⟨rfl, rfl, rfl, rfl, rfl, rfl⟩

theorem sameReading_doWrite (i : Nat) : SameReading s (s.proceedWriter i s.doWrite) := by
  unfold Session.doWrite
  split <;> exact ⟨rfl, rfl, rfl, rfl, rfl, rfl⟩

theorem sameReading_close (s : Session) : SameReading s s.close := by
  unfold Session.close
  split <;> exact ⟨rfl, rfl, rfl, rfl, rfl, rfl⟩

theorem sameReading_writeDone (i : Nat) (error : Option WriteError) :
    SameReading s (s.writeDone i error) := by
  cases error with
  | none => exact sameReading_doWrite i
  | some err =>
    cases err with
    | aborted => exact ⟨rfl, rfl, rfl, rfl, rfl, rfl⟩
    | other =>
      obtain ⟨hid, ho, hr, hkey, hcon, hposted⟩ := sameReading_close s
      exact ⟨hid, ho, hr, hkey, hcon, hposted⟩

end SameReading

/-- A session on its own, with whatever the stream controller answers. -/
def session (P : Platform) (api : Api) : Machine Session SessionEvent where
  step s e := (s.step P api e).map Prod.fst

theorem sessionStep_of_session {P : Platform} {api : Api} {s s' : Session} {e : SessionEvent}
    (h : (session P api).step s e = some s') : ∃ rs, SessionStep P api s e s' rs := by
  obtain ⟨⟨s₁, rs⟩, hs, rfl⟩ := Option.map_eq_some_iff.1 h
  exact ⟨rs, sessionStep_of_step hs⟩

end AsciiStreamer
