import Mathlib.Logic.Function.Basic
import AsciiStreamer.Session.Authority
import AsciiStreamer.Stream.StreamSystem

/-!
# The server (`src/server.cpp`, and the sessions with the stream controller)

`Server` is every session with the one stream controller they share. `server` runs one segment at a
time: of a session, of a method of the stream controller, of its capture loop, of a posted handler,
or of a timer. A session lives as long as something refers to it; the segment that drops the last
reference runs its destructor, which is why nothing else happens while a session is due. `trace`
records what the messages said and what was done on whose behalf; no code reads it.
-/

namespace AsciiStreamer

open Cxx

inductive Obs
  | received (id : SessionId) (text : Bytes)
  | invoked (id : SessionId) (operation : Operation)
  | handed (id : SessionId) (frame : Bytes)
  deriving DecidableEq, Repr

structure Server where
  sessions : SessionId → Session := fun id => { sessionId := id }
  nextId : SessionId := 1
  destroyed : List SessionId := []
  stream : StreamSystem := {}
  trace : List Obs := []

/-- What the clocks and the disk answer to `start_recording` and `stop_recording`. -/
structure Clock where
  localTime : Tm
  now : Instant
  fileOpens : Bool

inductive ServerEvent (P : Platform)
  /-- An HTTP session has been upgraded. -/
  | connect
  | session (id : SessionId) (e : SessionEvent) (clock : Clock)
  | segment (i : Nat) (camera : CameraEnv) (content : Option Bytes)
  | loop (i : Nat) (capture : Capture P)
  | runAddViewer
  | playbackExpire
  | playbackHandler (k : Nat)
  | destroy (id : SessionId)

def Caller.session : Caller → SessionId
  | .handler id | .destructor id => id

namespace Server

/-! ## Lifetimes -/

/-- The session exists: what `lock()` on a weak pointer to it tests. -/
def alive (s : Server) (id : SessionId) : Bool :=
  0 < id && id < s.nextId && !s.destroyed.contains id

def Task.holds (t : Task) (id : SessionId) : Bool :=
  match t.pc with
  | .dispatch (.startPlayback _ session) => session == id
  | .stoppingPlayback _ session => session == id
  | _ => false

/-- Some coroutine, posted handler or member holds a shared pointer to the session. -/
def referenced (s : Server) (id : SessionId) : Bool :=
  let σ := s.sessions id
  σ.reader != .finished || !σ.posted.isEmpty || !σ.writers.isEmpty || σ.closing ||
    s.stream.adding.contains id || s.stream.controller.playbackSession == some id ||
    s.stream.tasks.any (Task.holds · id)

/-- The last reference is gone and the destructor has not run. -/
def due (s : Server) (id : SessionId) : Bool := s.alive id && !s.referenced id

def quiescent (s : Server) : Bool := (List.range s.nextId).all fun id => !s.due id

/-! ## Updates -/

def setSession (s : Server) (id : SessionId) (σ : Session) : Server :=
  { s with sessions := Function.update s.sessions id σ }

def observe (s : Server) (o : Obs) : Server := { s with trace := s.trace ++ [o] }

def setStream (s : Server) (stream : StreamSystem) : Server := { s with stream := stream }

/-- A call of `send_frame` from outside the session. -/
def sendTo (s : Server) (id : SessionId) (m : Message) : Server :=
  let s := s.setSession id ((s.sessions id).sendFrame m)
  match m with
  | .live frame => s.observe (.handed id frame)
  | _ => s

def sendAll (s : Server) (sends : List (SessionId × Message)) : Server :=
  sends.foldl (fun s x => s.sendTo x.1 x.2) s

/-- A method of the stream controller is called. -/
def invoke (s : Server) (caller : Caller) (call : Call) : Server :=
  let s := s.setStream (s.stream.invoke caller call)
  match call.operation with
  | some operation => s.observe (.invoked caller.session operation)
  | none => s

/-- What the handling of a message of `id` asks of the stream controller. -/
def request (s : Server) (id : SessionId) (clock : Clock) : Request → Server
  | .addViewer => s.setStream (s.stream.addViewer id)
  | .call call => s.invoke (.handler id) call
  | .startRecording =>
    (s.setStream (s.stream.startRecording clock.localTime clock.now clock.fileOpens)).observe
      (.invoked id .startRecording)
  | .stopRecording =>
    (s.setStream (s.stream.stopRecording clock.now)).observe (.invoked id .stopRecording)

def requestAll (s : Server) (id : SessionId) (clock : Clock) (rs : List Request) : Server :=
  rs.foldl (fun s r => s.request id clock r) s

/-- A segment of a session, after the message that starts it has been noted. -/
def note (s : Server) (id : SessionId) : SessionEvent → Server
  | .message text _ => s.observe (.received id text)
  | _ => s

variable (P : Platform) (api : Api)

/-- A method has returned: its caller goes on, unless it was a destructor's. -/
def resume (s : Server) (caller : Caller) (result : Except Exn Unit) : Server :=
  match caller with
  | .destructor _ => s
  | .handler id => match (s.sessions id).step P api (.returned result) with
    | some (σ, _) => s.setSession id σ
    | none => s

/-! ## Segments -/

/-- `send_frame` and the return of a method are called by other segments, and `is_streaming()`
answers what it is. -/
def external (s : Server) : SessionEvent → Bool
  | .sendFrame _ | .returned _ => false
  | .message _ isStreaming => isStreaming == s.stream.controller.isStreaming
  | _ => true

def sessionSegment (s : Server) (id : SessionId) (e : SessionEvent) (clock : Clock) :
    Option Server :=
  if s.alive id && s.external e then
    ((s.sessions id).step P api e).map fun (σ, rs) =>
      (((s.note id e).setSession id σ).requestAll id clock rs)
  else none

def methodSegment (s : Server) (i : Nat) (camera : CameraEnv) (content : Option Bytes) :
    Option Server :=
  (s.stream.segment P i ⟨camera, content, s.alive⟩).map fun (stream, t, g) =>
    let s := (s.setStream stream).sendAll g.sends
    match g.next with
    | .inl _ => s
    | .inr result => s.resume P api t.caller result

/-- `~WebSocketSession`. -/
def destroy (s : Server) (id : SessionId) : Server :=
  let σ := s.sessions id
  let s := { s.setSession id { σ with isOpen := false } with destroyed := s.destroyed ++ [id] }
  if σ.isController then s.invoke (.destructor id) .stopStreaming
  else if σ.isAuthenticated then s.invoke (.destructor id) (.removeViewerById id)
  else s

def segmentOf (s : Server) : ServerEvent P → Option Server
  | .connect => some { s with nextId := s.nextId + 1 }
  | .session id e clock => s.sessionSegment P api id e clock
  | .segment i camera content => s.methodSegment P api i camera content
  | .loop i capture => (s.stream.loop P i capture s.alive).map fun (stream, sends) =>
    (s.setStream stream).sendAll sends
  | .runAddViewer => s.stream.runAddViewer.map s.setStream
  | .playbackExpire => s.stream.playbackExpire.map s.setStream
  | .playbackHandler k => (s.stream.playbackHandler P k).map fun (stream, sends) =>
    (s.setStream stream).sendAll sends
  | .destroy id => if s.due id then some (s.destroy id) else none

end Server

/-- A session that is due is destroyed before anything else runs. -/
def server (P : Platform) (api : Api) : Machine Server (ServerEvent P) where
  step s
    | .destroy id => s.segmentOf P api (.destroy id)
    | e => if s.quiescent then s.segmentOf P api e else none

/-! ## What a step of the server is -/

/-- The steps of the server, each with what has to be the case for it. -/
inductive ServerStep (P : Platform) (api : Api) (s : Server) : ServerEvent P → Server → Prop
  | connect : ServerStep P api s .connect { s with nextId := s.nextId + 1 }
  | session (id : SessionId) (e : SessionEvent) (clock : Clock) (σ : Session) (rs : List Request)
      (exist : s.alive id = true) (step : (s.sessions id).step P api e = some (σ, rs)) :
    ServerStep P api s (.session id e clock)
      (((s.note id e).setSession id σ).requestAll id clock rs)
  | segment (i : Nat) (camera : CameraEnv) (content : Option Bytes) (s' : Server)
      (segment : s.methodSegment P api i camera content = some s') :
    ServerStep P api s (.segment i camera content) s'
  | loop (i : Nat) (capture : Capture P) (stream : StreamSystem)
      (sends : List (SessionId × Message))
      (loop : s.stream.loop P i capture s.alive = some (stream, sends)) :
    ServerStep P api s (.loop i capture) ((s.setStream stream).sendAll sends)
  | runAddViewer (stream : StreamSystem) (adds : s.stream.runAddViewer = some stream) :
    ServerStep P api s .runAddViewer (s.setStream stream)
  | playbackExpire (stream : StreamSystem) (expires : s.stream.playbackExpire = some stream) :
    ServerStep P api s .playbackExpire (s.setStream stream)
  | playbackHandler (k : Nat) (stream : StreamSystem) (sends : List (SessionId × Message))
      (handles : s.stream.playbackHandler P k = some (stream, sends)) :
    ServerStep P api s (.playbackHandler k) ((s.setStream stream).sendAll sends)
  | destroy (id : SessionId) (due : s.due id = true) :
    ServerStep P api s (.destroy id) (s.destroy id)

section Steps

variable {P : Platform} {api : Api} {s s' : Server} {e : ServerEvent P}

theorem segmentOf_of_step (h : (server P api).step s e = some s') :
    s.segmentOf P api e = some s' := by
  cases e with
  | destroy id => exact h
  | _ => exact (Option.ite_none_right_eq_some.1 h).2

/-- The sessions call their own `send_frame`, and learn what the stream controller answers. -/
theorem external_of_step {id : SessionId} {e : SessionEvent} {clock : Clock}
    (h : (server P api).step s (.session id e clock) = some s') : s.external e = true := by
  obtain ⟨hexist, -⟩ := Option.ite_none_right_eq_some.1 (segmentOf_of_step h)
  rw [Bool.and_eq_true] at hexist
  exact hexist.2

theorem serverStep_of_step (h : (server P api).step s e = some s') : ServerStep P api s e s' := by
  have hseg := segmentOf_of_step h
  cases e with
  | connect =>
    cases hseg
    exact .connect
  | session id e clock =>
    obtain ⟨hexist, hseg⟩ := Option.ite_none_right_eq_some.1 hseg
    obtain ⟨⟨σ, rs⟩, hstep, rfl⟩ := Option.map_eq_some_iff.1 hseg
    rw [Bool.and_eq_true] at hexist
    exact .session id e clock σ rs hexist.1 hstep
  | segment i camera content => exact .segment i camera content s' hseg
  | loop i capture =>
    obtain ⟨⟨stream, sends⟩, hloop, rfl⟩ := Option.map_eq_some_iff.1 hseg
    exact .loop i capture stream sends hloop
  | runAddViewer =>
    obtain ⟨stream, hadd, rfl⟩ := Option.map_eq_some_iff.1 hseg
    exact .runAddViewer stream hadd
  | playbackExpire =>
    obtain ⟨stream, hexp, rfl⟩ := Option.map_eq_some_iff.1 hseg
    exact .playbackExpire stream hexp
  | playbackHandler k =>
    obtain ⟨⟨stream, sends⟩, hk, rfl⟩ := Option.map_eq_some_iff.1 hseg
    exact .playbackHandler k stream sends hk
  | destroy id =>
    obtain ⟨hdue, hseg⟩ := Option.ite_none_right_eq_some.1 hseg
    cases hseg
    exact .destroy id hdue

end Steps

/-! ## The parts of the server -/

namespace Server

section Projections

variable {P : Platform} {api : Api} {s s' : Server}

@[simp] theorem setSession_self (s : Server) (id : SessionId) (σ : Session) :
    (s.setSession id σ).sessions id = σ := Function.update_self ..

theorem setSession_other {id j : SessionId} (h : j ≠ id) (σ : Session) :
    (s.setSession id σ).sessions j = s.sessions j := Function.update_of_ne h ..

@[simp] theorem setSession_stream (s : Server) (id : SessionId) (σ : Session) :
    (s.setSession id σ).stream = s.stream := rfl

@[simp] theorem note_stream (s : Server) (id : SessionId) (e : SessionEvent) :
    (s.note id e).stream = s.stream := by cases e <;> rfl

@[simp] theorem note_sessions (s : Server) (id : SessionId) (e : SessionEvent) :
    (s.note id e).sessions = s.sessions := by cases e <;> rfl

@[simp] theorem sendTo_stream (s : Server) (id : SessionId) (m : Message) :
    (s.sendTo id m).stream = s.stream := by cases m <;> rfl

theorem sendTo_sessions (s : Server) (id : SessionId) (m : Message) :
    (s.sendTo id m).sessions = (s.setSession id ((s.sessions id).sendFrame m)).sessions := by
  cases m <;> rfl

/-- Neither sending nor what follows a method creates or destroys sessions. -/
theorem sendTo_population (s : Server) (id : SessionId) (m : Message) :
    (s.sendTo id m).nextId = s.nextId ∧ (s.sendTo id m).destroyed = s.destroyed := by
  cases m <;> exact ⟨rfl, rfl⟩

theorem sendAll_population (s : Server) (sends : List (SessionId × Message)) :
    (s.sendAll sends).nextId = s.nextId ∧ (s.sendAll sends).destroyed = s.destroyed := by
  induction sends generalizing s with
  | nil => exact ⟨rfl, rfl⟩
  | cons x xs ih =>
    obtain ⟨hnext, hdest⟩ := ih (s.sendTo x.1 x.2)
    obtain ⟨hnext', hdest'⟩ := sendTo_population s x.1 x.2
    exact ⟨hnext.trans hnext', hdest.trans hdest'⟩

theorem resume_population (s : Server) (caller : Caller) (result : Except Exn Unit) :
    (s.resume P api caller result).nextId = s.nextId ∧
      (s.resume P api caller result).destroyed = s.destroyed := by
  unfold resume
  split
  · exact ⟨rfl, rfl⟩
  · split <;> exact ⟨rfl, rfl⟩

@[simp] theorem sendAll_stream (s : Server) (sends : List (SessionId × Message)) :
    (s.sendAll sends).stream = s.stream := by
  induction sends generalizing s with
  | nil => rfl
  | cons x xs ih => exact (ih _).trans (sendTo_stream s x.1 x.2)

@[simp] theorem invoke_stream (s : Server) (caller : Caller) (call : Call) :
    (s.invoke caller call).stream = s.stream.invoke caller call := by
  unfold invoke
  cases call.operation <;> rfl

@[simp] theorem invoke_sessions (s : Server) (caller : Caller) (call : Call) :
    (s.invoke caller call).sessions = s.sessions := by
  unfold invoke
  cases call.operation <;> rfl

theorem invoke_population (s : Server) (caller : Caller) (call : Call) :
    (s.invoke caller call).nextId = s.nextId ∧ (s.invoke caller call).destroyed = s.destroyed := by
  unfold invoke
  cases call.operation <;> exact ⟨rfl, rfl⟩

@[simp] theorem request_sessions (s : Server) (id : SessionId) (clock : Clock) (r : Request) :
    (s.request id clock r).sessions = s.sessions := by
  cases r with
  | call c => exact invoke_sessions s _ c
  | _ => rfl

@[simp] theorem requestAll_sessions (s : Server) (id : SessionId) (clock : Clock)
    (rs : List Request) : (s.requestAll id clock rs).sessions = s.sessions := by
  induction rs generalizing s with
  | nil => rfl
  | cons r rs ih => exact (ih _).trans (request_sessions s id clock r)

@[simp] theorem resume_stream (s : Server) (caller : Caller) (result : Except Exn Unit) :
    (s.resume P api caller result).stream = s.stream := by
  unfold resume
  split
  · rfl
  · split <;> rfl

theorem resume_trace (s : Server) (caller : Caller) (result : Except Exn Unit) :
    (s.resume P api caller result).trace = s.trace := by
  unfold resume
  split
  · rfl
  · split <;> rfl

/-! ### The stream controller of the server -/

theorem requestAll_streaming (id : SessionId) (clock : Clock) (rs : List Request) :
    ∀ s : Server, ∃ ds, (streaming P).run s.stream ds = some (s.requestAll id clock rs).stream := by
  induction rs with
  | nil => exact fun s => ⟨[], rfl⟩
  | cons r rs ih =>
    intro s
    obtain ⟨ds, hds⟩ := ih (s.request id clock r)
    have hone : ∃ d, (streaming P).step s.stream d = some (s.request id clock r).stream := by
      cases r with
      | addViewer => exact ⟨.addViewer id, rfl⟩
      | call c => exact ⟨.invoke (.handler id) c, congrArg some (invoke_stream s _ c).symm⟩
      | startRecording =>
        exact ⟨.startRecording clock.localTime clock.now clock.fileOpens, rfl⟩
      | stopRecording => exact ⟨.stopRecording clock.now, rfl⟩
    obtain ⟨d, hd⟩ := hone
    exact ⟨d :: ds, Machine.run_cons_some.2 ⟨_, hd, hds⟩⟩

theorem run_one {d : StreamEvent P} {t t' : StreamSystem} (h : (streaming P).step t d = some t') :
    ∃ ds, (streaming P).run t ds = some t' :=
  ⟨[d], Machine.run_cons_some.2 ⟨t', h, rfl⟩⟩

theorem methodSegment_stream {i : Nat} {camera : CameraEnv} {content : Option Bytes}
    (h : s.methodSegment P api i camera content = some s') :
    ∃ t g, s.stream.segment P i ⟨camera, content, s.alive⟩ = some (s'.stream, t, g) := by
  obtain ⟨⟨stream, t, g⟩, hseg, rfl⟩ := Option.map_eq_some_iff.1 h
  refine ⟨t, g, hseg.trans ?_⟩
  simp only [Option.some.injEq, Prod.mk.injEq, and_true]
  cases hn : g.next with
  | inl pc => simp only [sendAll_stream]; rfl
  | inr r => simp only [resume_stream, sendAll_stream]; rfl

/-- A destructor calls at most one method. -/
theorem destroy_stream (s : Server) (id : SessionId) : (s.destroy id).stream = s.stream ∨
    ∃ call, (s.destroy id).stream = s.stream.invoke (.destructor id) call := by
  unfold destroy
  simp only
  split
  · exact Or.inr ⟨_, invoke_stream _ _ _⟩
  · split
    · exact Or.inr ⟨_, invoke_stream _ _ _⟩
    · exact Or.inl rfl

/-- And it touches nothing else of the stream. -/
theorem destroy_tasks (s : Server) (id : SessionId) : ∃ tasks, s.stream.tasks <+: tasks ∧
    (s.destroy id).stream = { s.stream with tasks := tasks } := by
  rcases destroy_stream s id with h | ⟨call, h⟩
  · exact ⟨s.stream.tasks, List.prefix_refl _, h⟩
  · exact ⟨_, List.prefix_append _ _, h⟩

theorem destroy_streaming (s : Server) (id : SessionId) :
    ∃ ds, (streaming P).run s.stream ds = some (s.destroy id).stream := by
  rcases destroy_stream s id with h | ⟨call, h⟩
  · exact ⟨[], congrArg some h.symm⟩
  · exact run_one (d := .invoke (.destructor id) call) (congrArg some h.symm)

/-! ### The sessions of the server -/

variable (P) (api)

theorem sendTo_session (s : Server) (j : SessionId) (m : Message) (id : SessionId) :
    ∃ ds, (session P api).run (s.sessions id) ds = some ((s.sendTo j m).sessions id) := by
  rw [sendTo_sessions]
  by_cases h : id = j
  · subst h
    exact ⟨[.sendFrame m], by rw [setSession_self]; rfl⟩
  · exact ⟨[], by rw [setSession_other h]; rfl⟩

theorem sendAll_session (sends : List (SessionId × Message)) (id : SessionId) :
    ∀ s : Server, ∃ ds, (session P api).run (s.sessions id) ds =
      some ((s.sendAll sends).sessions id) := by
  induction sends with
  | nil => exact fun s => ⟨[], rfl⟩
  | cons x xs ih =>
    intro s
    obtain ⟨ds, hds⟩ := sendTo_session P api s x.1 x.2 id
    obtain ⟨ds', hds'⟩ := ih (s.sendTo x.1 x.2)
    exact ⟨ds ++ ds', by rw [Machine.run_append, hds]; exact hds'⟩

theorem sendTo_posts (s : Server) (j : SessionId) (m : Message) (id : SessionId) :
    ∃ ms, (s.sendTo j m).sessions id =
        { s.sessions id with posted := (s.sessions id).posted ++ ms } ∧
      ∀ y ∈ ms, (id, y) = (j, m) := by
  rw [sendTo_sessions]
  by_cases h : id = j
  · subst h
    rw [setSession_self]
    exact ⟨[m], rfl, fun y hy => by rw [List.mem_singleton.1 hy]⟩
  · rw [setSession_other h]
    exact ⟨[], by rw [List.append_nil], nofun⟩

/-- **What sending does to a session**: it posts what is sent to it. -/
theorem sendAll_posts (sends : List (SessionId × Message)) (id : SessionId) :
    ∀ s : Server, ∃ ms, (s.sendAll sends).sessions id =
        { s.sessions id with posted := (s.sessions id).posted ++ ms } ∧
      ∀ m ∈ ms, (id, m) ∈ sends := by
  induction sends with
  | nil => exact fun s => ⟨[], by rw [List.append_nil]; rfl, nofun⟩
  | cons x xs ih =>
    intro s
    obtain ⟨m, hm, hx⟩ := sendTo_posts s x.1 x.2 id
    obtain ⟨ms, hms, hxs⟩ := ih (s.sendTo x.1 x.2)
    refine ⟨m ++ ms, ?_, fun y hy => ?_⟩
    · rw [← List.append_assoc]
      rw [hm] at hms
      exact hms
    · rcases List.mem_append.1 hy with hy | hy
      · rw [hx y hy]
        exact List.mem_cons_self
      · exact List.mem_cons_of_mem _ (hxs y hy)

theorem setSession_session {s : Server} {j : SessionId} {e : SessionEvent} {σ : Session}
    {rs : List Request} (h : (s.sessions j).step P api e = some (σ, rs)) (id : SessionId) :
    ∃ ds, (session P api).run (s.sessions id) ds = some ((s.setSession j σ).sessions id) := by
  by_cases hid : id = j
  · subst hid
    rw [setSession_self]
    exact ⟨[e], Machine.run_cons_some.2 ⟨σ, Option.map_eq_some_iff.2 ⟨_, h, rfl⟩, rfl⟩⟩
  · exact ⟨[], by rw [setSession_other hid]; rfl⟩

theorem resume_session (s : Server) (caller : Caller) (result : Except Exn Unit) (id : SessionId) :
    ∃ ds, (session P api).run (s.sessions id) ds =
      some ((s.resume P api caller result).sessions id) := by
  unfold resume
  split
  · exact ⟨[], rfl⟩
  · split
    · next σ rs h => exact setSession_session P api h id
    · exact ⟨[], rfl⟩

theorem destroy_sessions (s : Server) (id : SessionId) : (s.destroy id).sessions =
    Function.update s.sessions id { s.sessions id with isOpen := false } := by
  unfold destroy
  simp only
  split
  · exact invoke_sessions _ _ _
  · split
    · exact invoke_sessions _ _ _
    · rfl

/-- Of the other members of a session, a destructor touches none. -/
theorem destroy_isOpen (s : Server) (j id : SessionId) :
    ∃ isOpen, (s.destroy j).sessions id = { s.sessions id with isOpen := isOpen } := by
  rw [destroy_sessions]
  by_cases h : id = j
  · subst h
    exact ⟨false, Function.update_self ..⟩
  · exact ⟨_, Function.update_of_ne h ..⟩

theorem destroy_session (s : Server) (j id : SessionId) :
    ∃ ds, (session P api).run (s.sessions id) ds = some ((s.destroy j).sessions id) := by
  rw [destroy_sessions]
  exact setSession_session P api (e := .disconnected) rfl id

end Projections

end Server

/-- **The server runs the stream controller**: every run of the server is, for the stream
controller, a run of its own. -/
theorem server_simulates_streaming (P : Platform) (api : Api) (es : List (ServerEvent P))
    (s s' : Server) (hrun : (server P api).run s es = some s') :
    ∃ ds, (streaming P).run s.stream ds = some s'.stream := by
  refine Machine.run_simulation (I := fun _ => True) (f := fun s : Server => s.stream)
    (fun _ _ => trivial) ?_ es trivial hrun
  intro s e s' _ hs
  cases serverStep_of_step hs with
  | connect => exact ⟨[], rfl⟩
  | session id e clock σ rs =>
    obtain ⟨ds, hds⟩ := Server.requestAll_streaming (P := P) id clock rs
      ((s.note id e).setSession id σ)
    rw [Server.setSession_stream, Server.note_stream] at hds
    exact ⟨ds, hds⟩
  | segment i camera content _ hseg =>
    obtain ⟨t, g, hseg⟩ := Server.methodSegment_stream hseg
    exact Server.run_one (d := .segment i ⟨camera, content, s.alive⟩)
      (Option.map_eq_some_iff.2 ⟨_, hseg, rfl⟩)
  | loop i capture stream sends hloop =>
    rw [Server.sendAll_stream]
    exact Server.run_one (d := .loop i capture s.alive)
      (Option.map_eq_some_iff.2 ⟨_, hloop, rfl⟩)
  | runAddViewer stream hadd => exact Server.run_one (d := .runAddViewer) hadd
  | playbackExpire stream hexp => exact Server.run_one (d := .playbackExpire) hexp
  | playbackHandler k stream sends hk =>
    rw [Server.sendAll_stream]
    exact Server.run_one (d := .playbackHandler k) (Option.map_eq_some_iff.2 ⟨_, hk, rfl⟩)
  | destroy id => exact Server.destroy_streaming s id

/-- **The server runs the sessions**: every run of the server is, for each session, a run of its
own. -/
theorem server_simulates_session (P : Platform) (api : Api) (id : SessionId)
    (es : List (ServerEvent P)) (s s' : Server) (hrun : (server P api).run s es = some s') :
    ∃ ds, (session P api).run (s.sessions id) ds = some (s'.sessions id) := by
  refine Machine.run_simulation (I := fun _ => True) (f := fun s : Server => s.sessions id)
    (fun _ _ => trivial) ?_ es trivial hrun
  intro s e s' _ hs
  cases serverStep_of_step hs with
  | connect => exact ⟨[], rfl⟩
  | session j e clock σ rs _ hstep =>
    rw [← Server.note_sessions s j e] at hstep
    obtain ⟨ds, hds⟩ := Server.setSession_session P api hstep id
    rw [Server.note_sessions] at hds
    rw [Server.requestAll_sessions]
    exact ⟨ds, hds⟩
  | segment i camera content _ hseg =>
    obtain ⟨⟨stream, t, g⟩, -, rfl⟩ := Option.map_eq_some_iff.1 hseg
    obtain ⟨ds, hds⟩ := Server.sendAll_session P api g.sends id (s.setStream stream)
    simp only
    split
    · exact ⟨ds, hds⟩
    · next result hn =>
      obtain ⟨ds', hds'⟩ := Server.resume_session P api
        ((s.setStream stream).sendAll g.sends) t.caller result id
      have hfirst : (session P api).run (s.sessions id) ds =
          some (((s.setStream stream).sendAll g.sends).sessions id) := hds
      exact ⟨ds ++ ds', by rw [Machine.run_append, hfirst]; exact hds'⟩
  | loop i capture stream sends => exact Server.sendAll_session P api sends id (s.setStream stream)
  | runAddViewer stream => exact ⟨[], rfl⟩
  | playbackExpire stream => exact ⟨[], rfl⟩
  | playbackHandler k stream sends =>
    exact Server.sendAll_session P api sends id (s.setStream stream)
  | destroy j => exact Server.destroy_session P api s j id

/-! ## The stream, apart from its methods -/

/-- What the requests of a message leave alone. Methods are called, but do not run yet. -/
structure Requested (s s' : Server) : Prop where
  nextId : s'.nextId = s.nextId
  destroyed : s'.destroyed = s.destroyed
  tasks : s.stream.tasks <+: s'.stream.tasks
  loops : s'.stream.loops = s.stream.loops
  added : s'.stream.added = s.stream.added
  same : SameStream s.stream.controller s'.stream.controller
  playback : KeepsPlayback s.stream.controller s'.stream.controller

/-- What a step leaves of the stream in which no method runs. -/
structure RunsNoMethod {P : Platform} (s : Server) (e : ServerEvent P) (s' : Server) : Prop where
  tasks : s.stream.tasks <+: s'.stream.tasks
  stream : s'.stream.controller.isStreaming = false ∨
    SameStream s.stream.controller s'.stream.controller
  loops : (∀ i capture, e ≠ .loop i capture) → s'.stream.loops = s.stream.loops

section Stream

variable {P : Platform} {api : Api} {s s' s'' : Server} {e : ServerEvent P}

theorem Requested.refl (s : Server) : Requested s s :=
  ⟨rfl, rfl, List.prefix_refl _, rfl, rfl, .refl _, ⟨rfl, rfl⟩⟩

theorem Requested.trans (h : Requested s s') (h' : Requested s' s'') : Requested s s'' :=
  ⟨h'.nextId.trans h.nextId, h'.destroyed.trans h.destroyed, h.tasks.trans h'.tasks,
    h'.loops.trans h.loops, h'.added.trans h.added, h.same.trans h'.same,
    ⟨h'.playback.controller.trans h.playback.controller,
      h'.playback.session.trans h.playback.session⟩⟩

theorem request_requested (s : Server) (id : SessionId) (clock : Clock) (r : Request) :
    Requested s (s.request id clock r) := by
  cases r with
  | addViewer => exact ⟨rfl, rfl, List.prefix_refl _, rfl, rfl, .refl _, ⟨rfl, rfl⟩⟩
  | call c =>
    have hstream : (s.request id clock (.call c)).stream = s.stream.invoke (.handler id) c :=
      Server.invoke_stream s _ c
    obtain ⟨hnext, hdest⟩ := Server.invoke_population s (.handler id) c
    refine ⟨hnext, hdest, ?_, ?_, ?_, ?_, ?_⟩
    · rw [hstream]
      exact List.prefix_append _ _
    · rw [hstream, StreamSystem.invoke]
    · rw [hstream, StreamSystem.invoke]
    · rw [hstream]
      exact .refl _
    · rw [hstream]
      exact ⟨rfl, rfl⟩
  | startRecording =>
    exact ⟨rfl, rfl, List.prefix_refl _, rfl, rfl, startRecording_same _ _ _ _,
      startRecording_playback _ _ _ _⟩
  | stopRecording =>
    exact ⟨rfl, rfl, List.prefix_refl _, rfl, rfl, stopRecording_same _ _,
      stopRecording_playback _ _⟩

/-- **What the requests of a message leave alone.** -/
theorem requestAll_requested (s : Server) (id : SessionId) (clock : Clock) (rs : List Request) :
    Requested s (s.requestAll id clock rs) := by
  induction rs generalizing s with
  | nil => exact .refl s
  | cons r rs ih => exact (request_requested s id clock r).trans (ih _)

/-- A segment of a session, with the note that is taken of it. -/
theorem session_requested (s : Server) (id : SessionId) (e : SessionEvent) (clock : Clock)
    (σ : Session) (rs : List Request) :
    Requested s (((s.note id e).setSession id σ).requestAll id clock rs) := by
  have hnoted : Requested s ((s.note id e).setSession id σ) := by
    cases e <;> exact ⟨rfl, rfl, List.prefix_refl _, rfl, rfl, .refl _, ⟨rfl, rfl⟩⟩
  exact hnoted.trans (requestAll_requested _ id clock rs)

theorem RunsNoMethod.of_same (htasks : s'.stream.tasks = s.stream.tasks)
    (hsame : SameStream s.stream.controller s'.stream.controller)
    (hloops : s'.stream.loops = s.stream.loops) : RunsNoMethod s e s' :=
  ⟨htasks ▸ List.prefix_refl _, Or.inr hsame, fun _ => hloops⟩

/-- **What a step does to the stream in which no method runs**: it is left alone or ends, and no
method returns. -/
theorem runsNoMethod_of_step (hs : (server P api).step s e = some s')
    (hother : ∀ i camera content, e ≠ .segment i camera content) : RunsNoMethod s e s' := by
  cases serverStep_of_step hs with
  | connect => exact .of_same rfl (.refl _) rfl
  | session id e clock σ rs =>
    have hrequested := session_requested s id e clock σ rs
    exact ⟨hrequested.tasks, Or.inr hrequested.same, fun _ => hrequested.loops⟩
  | segment i camera content => exact absurd rfl (hother i camera content)
  | loop i capture stream sends hloop =>
    obtain ⟨pc, c, next, -, hc, rfl⟩ := loop_eq hloop
    refine ⟨?_, ?_, fun hno => absurd rfl (hno i capture)⟩
    · rw [Server.sendAll_stream]
      exact List.prefix_refl s.stream.tasks
    · rw [Server.sendAll_stream]
      cases captureLoop_effect hc with
      | goesOn pc next same => exact Or.inr same
      | ends next isStreaming => exact Or.inl isStreaming
  | runAddViewer stream hadd =>
    obtain ⟨v, vs, -, rfl⟩ := runAddViewer_eq hadd
    exact .of_same rfl (.of_update _ _ _ _ _) rfl
  | playbackExpire stream hexp =>
    obtain ⟨p, rfl⟩ := playbackExpire_eq hexp
    exact .of_same rfl (.of_update _ _ _ _ _) rfl
  | playbackHandler k stream sends hk =>
    obtain ⟨o, rfl, -⟩ := playbackHandler_eq hk
    refine .of_same ?_ ?_ ?_
    · rw [Server.sendAll_stream, Server.setStream]
    · rw [Server.sendAll_stream]
      exact played_same _ _
    · rw [Server.sendAll_stream, Server.setStream]
  | destroy id =>
    obtain ⟨tasks, htasks, hstream⟩ := Server.destroy_tasks s id
    refine ⟨?_, Or.inr ?_, fun _ => ?_⟩
    · rw [hstream]
      exact htasks
    · rw [hstream]
      exact .refl _
    · rw [hstream]

end Stream

end AsciiStreamer
