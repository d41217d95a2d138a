import AsciiStreamer.Recording.History
import AsciiStreamer.Server.Access
import AsciiStreamer.Server.Handlers

/-!
# Positive acknowledgements

`CONFIG_APPLIED`, `RECORDING_STARTED` and `PLAYBACK_STARTED` are sent when the call has returned,
but a call can return without having done anything: `start_streaming` when a stream is active
already, `start_recording` when the file cannot be opened, `start_playback` when the loader refuses
the file. These are the only cases in which such a reply is not true (`acknowledged_iff`).
-/

namespace AsciiStreamer

open Cxx

/-! ## What the replies say -/

/-- A stream is active with the parameters of a `config` command. -/
structure Applied (c : StreamController) (cameraIndex : Int) (resolution : Bytes) (fps : Int) :
    Prop where
  active : c.isStreaming = true
  camera : c.videoSource.cameraIndex = cameraIndex
  width : stoi (StreamController.widthText resolution) = .ok c.frameWidth
  height : stoi (StreamController.heightText resolution) = .ok c.frameHeight
  fps : c.fps = fps

/-- `load_recording` has accepted the file, and `start_playback` of the player, which does not
refuse, has been called for the session. -/
structure PlaybackStarted (P : Platform) (c : StreamController) (filename : Bytes)
    (content : Option Bytes) (id : SessionId) (c' : StreamController) : Prop where
  session : c'.playbackSession = some id
  player : ∃ p, c.stopPlayback.playbackController.loadRecording (lit "recordings/" ++ filename)
      content = (p, .ok true) ∧ p.playbackFile.isOpen = true ∧ p.isPlaying = false ∧
    c'.playbackController = (p.startPlayback P).self

/-- The command of the session's last message. -/
def Server.lastCommand (P : Platform) (api : Api) (s : Server) (id : SessionId) : Option Command :=
  (lastMessage s.trace id).bind fun text =>
    (decode P api (s.sessions id).isController text).toOption

/-- What a positive reply in the step from `s` to `s'` says is the case. -/
structure Truthful {P : Platform} (api : Api) (s : Server) (e : ServerEvent P) (s' : Server)
    (id : SessionId) : Prop where
  config : Replied s s' id (lit "CONFIG_APPLIED") → ∃ cameraIndex resolution fps,
    s'.lastCommand P api id = some (.config cameraIndex resolution fps) ∧
      Applied s'.stream.controller cameraIndex resolution fps
  recording : Replied s s' id (lit "RECORDING_STARTED") →
    s'.stream.controller.recorder.controller.isRecording = true
  playback : Replied s s' id (lit "PLAYBACK_STARTED") → ∃ filename i camera content,
    s'.lastCommand P api id = some (.playbackStart filename) ∧ e = .segment i camera content ∧
      PlaybackStarted P s.stream.controller filename content id s'.stream.controller

/-- The replies of the step are true. -/
def Acknowledges {P : Platform} (api : Api) (s : Server) (e : ServerEvent P) : Prop :=
  ∀ s', (server P api).step s e = some s' → ∀ id, Truthful api s e s' id

/-! ## When they are true -/

/-- In this step no `start_streaming` finds a stream that is active with other parameters, no
`start_recording` fails to open its file, and no `start_playback` finds a file that is refused. -/
def TakesEffect {P : Platform} (api : Api) (s : Server) : ServerEvent P → Prop
  | .session id (.message text _) clock =>
    decode P api (s.sessions id).isController text = .ok .recordStart →
      s.stream.controller.recorder.controller.isRecording = true ∨ clock.fileOpens = true
  | .segment i _ content => ∀ t id, s.stream.tasks[i]? = some t → t.handles id →
    (∀ cameraIndex resolution fps, t.pc = .dispatch (.startStreaming cameraIndex resolution fps) →
      s.stream.controller.isStreaming = true →
        Applied s.stream.controller cameraIndex resolution fps) ∧
    ∀ filename session, t.pc = .stoppingPlayback filename session →
      Loadable s.stream.controller.playbackController content
  | _ => True

section Calls

variable {P : Platform} {api : Api} {c : StreamController}

/-! ## What the calls leave -/

theorem openStream_applied {cameraIndex fps : Int} {resolution : Bytes} {env : CameraEnv}
    {c' : StreamController} (h : c.openStream cameraIndex resolution fps env = (c', .ok ())) :
    Applied c' cameraIndex resolution fps := by
  have hopening := openStream_opening c cameraIndex resolution fps env
  rw [h] at hopening
  cases hopening with
  | started w h width height => exact ⟨rfl, rfl, width, height, rfl⟩

/-- `start_streaming` returns with its parameters applied, or because a stream is active. -/
theorem startStreaming_applied {cameraIndex fps : Int} {resolution : Bytes} {env : CameraEnv}
    (hn : (c.startStreaming cameraIndex resolution fps env).next = .inr (.ok ())) :
    c.isStreaming = true ∧ (c.startStreaming cameraIndex resolution fps env).self = c ∨
      Applied (c.startStreaming cameraIndex resolution fps env).self cameraIndex resolution fps := by
  unfold StreamController.startStreaming at hn ⊢
  cases hs : c.isStreaming with
  | true => exact Or.inl ⟨rfl, rfl⟩
  | false =>
    right
    rcases hopen : c.openStream cameraIndex resolution fps env with ⟨c', r⟩
    cases r with
    | error e =>
      simp only [hs, hopen, Bool.false_eq_true, ↓reduceIte] at hn
      cases hn
    | ok u => exact openStream_applied hopen

theorem startRecording_isRecording (t : Tm) (now : Instant) (fileOpens : Bool) :
    (c.startRecording t now fileOpens).recorder.controller.isRecording =
      (c.recorder.controller.isRecording || fileOpens) := by
  unfold StreamController.startRecording RecordController.startRecording
  cases hr : c.recorder.controller.isRecording with
  | true => simp only [↓reduceIte, hr, Bool.true_or]
  | false =>
    cases fileOpens with
    | true => rfl
    | false => simp only [Bool.false_eq_true, ↓reduceIte, Bool.or_false]

theorem loadable_stopPlayback (content : Option Bytes) :
    Loadable c.stopPlayback.playbackController content ↔
      Loadable c.playbackController content := by
  have hidem := stopPlayback_of_stopped (stopPlayback_isPlaying c.playbackController)
  have hfile : c.stopPlayback.playbackController.stopPlayback.playbackFile =
      c.playbackController.stopPlayback.playbackFile := congrArg PlaybackController.playbackFile hidem
  constructor
  · rintro ⟨hclosed, hheader⟩
    exact ⟨hfile ▸ hclosed, hheader⟩
  · rintro ⟨hclosed, hheader⟩
    exact ⟨hfile ▸ hclosed, hheader⟩

/-- `start_playback` returns with a playback, or because the loader has refused the file. -/
theorem startPlayback_started (filename : Bytes) (id : SessionId) (env : Env) :
    ¬Loadable c.playbackController env.content ∧
        (Pc.run P c env (.stoppingPlayback filename id)).next = .inr (.ok ()) ∧
        (Pc.run P c env (.stoppingPlayback filename id)).self.playbackSession = none ∨
      Loadable c.playbackController env.content ∧
        ((Pc.run P c env (.stoppingPlayback filename id)).next = .inr (.ok ()) →
          PlaybackStarted P c filename env.content id
            (Pc.run P c env (.stoppingPlayback filename id)).self) := by
  rw [← loadable_stopPlayback]
  simp only [Pc.run, StreamController.startPlayback]
  rcases loadRecording_cases c.stopPlayback.playbackController (lit "recordings/" ++ filename)
    env.content with ⟨hno, p, hload⟩ | ⟨hyes, ⟨p, e, hload⟩ | ⟨p, hload, hopen, hplay⟩⟩
  · left
    rw [hload]
    exact ⟨hno, rfl, rfl⟩
  · right
    rw [hload]
    refine ⟨hyes, fun hn => ?_⟩
    cases hn
  · right
    refine ⟨hyes, fun _ => ?_⟩
    rw [hload]
    exact ⟨rfl, p, hload, hopen, hplay, rfl⟩

end Calls

/-! ## Which command is acknowledged -/

section Commands

variable {P : Platform} {api : Api} {s : Session} {id : SessionId} {c : Command} {call : Call}
  {text reply : Bytes} {isStreaming : Bool}

/-- The two awaited calls whose replies claim that something has started, and the others. -/
theorem awaited_cases (h : c.awaited id = some (call, reply)) :
    (∃ cameraIndex resolution fps, c = .config cameraIndex resolution fps ∧
        call = .startStreaming cameraIndex resolution fps ∧ reply = lit "CONFIG_APPLIED") ∨
      (∃ filename, c = .playbackStart filename ∧ call = .startPlayback filename id ∧
        reply = lit "PLAYBACK_STARTED") ∨
      ((∀ cameraIndex resolution fps, call ≠ .startStreaming cameraIndex resolution fps) ∧
        (∀ filename session, call ≠ .startPlayback filename session) ∧
        reply ∈ [lit "STREAM_STOPPED", lit "PLAYBACK_PAUSED", lit "PLAYBACK_RESUMED",
          lit "PLAYBACK_STOPPED", lit "PLAYBACK_SPEED_CHANGED"]) := by
  cases c with
  | config cameraIndex resolution fps =>
    cases h
    exact Or.inl ⟨_, _, _, rfl, rfl, rfl⟩
  | playbackStart filename =>
    simp only [Command.awaited] at h
    split at h
    · cases h
    · cases h
      exact Or.inr (Or.inl ⟨_, rfl, rfl, rfl⟩)
  | auth _ _ | recordStart | recordStop | unknown => cases h
  | _ =>
    cases h
    refine Or.inr (Or.inr ⟨?_, ?_, by simp⟩)
    · intro _ _ _ heq
      cases heq
    · intro _ _ heq
      cases heq

/-- A reply at once is an error, or `RECORDING_STARTED` to the command, or none of the three. -/
theorem messageReplies_cases (h : text ∈ s.messageReplies P api reply isStreaming)
    (hno : text.take 7 ≠ lit "ERROR: ") :
    decode P api s.isController reply = .ok .recordStart ∧ text = lit "RECORDING_STARTED" ∨
      text ≠ lit "RECORDING_STARTED" ∧ text ≠ lit "CONFIG_APPLIED" ∧
        text ≠ lit "PLAYBACK_STARTED" := by
  unfold Session.messageReplies at h
  cases hd : decode P api s.isController reply with
  | error e =>
    rw [hd] at h
    exact absurd (List.mem_singleton.1 h).symm (errorText_ne e hno)
  | ok c =>
    rw [hd] at h
    rcases replies_cases h with ⟨rfl, htext⟩ | hother
    · exact Or.inl ⟨rfl, htext⟩
    · right
      refine ⟨?_, ?_, ?_⟩ <;> rintro rfl <;> revert hother <;> decide

end Commands

/-! ## Every step -/

section Steps

variable {P : Platform} {api : Api} {s s' : Server} {id : SessionId}

theorem Pc.call_startStreaming {pc : Pc} {cameraIndex fps : Int} {resolution : Bytes}
    (h : pc.call = .startStreaming cameraIndex resolution fps) :
    pc = .dispatch (.startStreaming cameraIndex resolution fps) := by
  cases pc with
  | dispatch call => exact congrArg Pc.dispatch h
  | polling => cases h
  | stoppingPlayback filename session => cases h

theorem Pc.call_startPlayback {pc : Pc} {filename : Bytes} {session : SessionId}
    (h : pc.call = .startPlayback filename session) :
    pc = .dispatch (.startPlayback filename session) ∨ pc = .stoppingPlayback filename session := by
  cases pc with
  | dispatch call => exact Or.inl (congrArg Pc.dispatch h)
  | polling => cases h
  | stoppingPlayback filename' session' =>
    cases h
    exact Or.inr rfl

/-- What the session awaits is the call of its last command. -/
theorem Handled.lastCommand (h : Handled P api s) {call : Call} {reply : Bytes}
    (hreader : (s.sessions id).reader = .calling call reply) :
    ∃ c, s.lastCommand P api id = some c ∧ c.awaited id = some (call, reply) := by
  obtain ⟨text, c, hlast, hdecode, hawaited⟩ := (h.message id call reply hreader).command
  refine ⟨c, ?_, hawaited⟩
  simp only [Server.lastCommand, hlast, Option.bind_some, hdecode]
  rfl

/-- The command stays the last one while its method runs. -/
theorem segment_lastCommand (h : Handled P api s) {i : Nat} {camera : CameraEnv}
    {content : Option Bytes} (hs : s.methodSegment P api i camera content = some s')
    (id : SessionId) : s'.lastCommand P api id = s.lastCommand P api id := by
  obtain ⟨hlast, -, hcontroller⟩ := methodSegment_heard h hs id
  unfold Server.lastCommand
  rw [hlast, hcontroller]

/-- The reply to `record_start`, and what it does. -/
theorem recordStart_step {text : Bytes} {isStreaming : Bool} {clock : Clock}
    (hs : (server P api).step s (.session id (.message text isStreaming) clock) = some s')
    (hd : decode P api (s.sessions id).isController text = .ok .recordStart) :
    Replied s s' id (lit "RECORDING_STARTED") ∧
      s'.stream.controller.recorder.controller.isRecording =
        (s.stream.controller.recorder.controller.isRecording || clock.fileOpens) := by
  cases serverStep_of_step hs with
  | session _ _ _ σ rs _ hstep =>
    cases sessionStep_of_step hstep with
    | message _ _ reader =>
      have hposted : ((s.sessions id).handleMessage P api text isStreaming).1.posted = _ :=
        handleMessage_posted text isStreaming
      simp only [Session.messageReplies, hd] at hposted
      refine ⟨⟨[.reply (lit "RECORDING_STARTED")], ?_, List.mem_cons_self⟩, ?_⟩
      · rw [Server.requestAll_sessions, Server.setSession_self]
        exact hposted
      · simp only [Session.handleMessage, hd]
        exact startRecording_isRecording clock.localTime clock.now clock.fileOpens

/-- Where one of the three replies comes from. -/
inductive Acknowledging (api : Api) (s : Server) (e : ServerEvent P) (s' : Server)
    (id : SessionId) (text : Bytes) : Prop
  | recording (message : Bytes) (isStreaming : Bool) (clock : Clock)
      (event : e = .session id (.message message isStreaming) clock)
      (decoded : decode P api (s.sessions id).isController message = .ok .recordStart)
      (reply : text = lit "RECORDING_STARTED")
  | returned (i : Nat) (camera : CameraEnv) (content : Option Bytes) (t : Task) (c : Command)
      (event : e = .segment i camera content) (task : s.stream.tasks[i]? = some t)
      (handles : t.handles id)
      (next : (t.pc.run P s.stream.controller ⟨camera, content, s.alive⟩).next = .inr (.ok ()))
      (controller : s'.stream.controller =
        (t.pc.run P s.stream.controller ⟨camera, content, s.alive⟩).self)
      (command : s'.lastCommand P api id = some c) (awaited : c.awaited id = some (t.pc.call, text))

theorem acknowledging_of_replied {e : ServerEvent P} (h : Handled P api s)
    (hs : (server P api).step s e = some s') {text : Bytes} (hr : Replied s s' id text)
    (htext : text ∈ [lit "CONFIG_APPLIED", lit "RECORDING_STARTED", lit "PLAYBACK_STARTED"]) :
    Acknowledging api s e s' id text := by
  have hno : text.take 7 ≠ lit "ERROR: " := by
    have hall : ∀ x ∈ [lit "CONFIG_APPLIED", lit "RECORDING_STARTED", lit "PLAYBACK_STARTED"],
        x.take 7 ≠ lit "ERROR: " := by decide
    exact hall text htext
  cases replied_cases h hs hr with
  | atOnce message isStreaming clock event reply =>
    rcases messageReplies_cases reply hno with ⟨hd, hrecording⟩ | ⟨hrecording, hconfig, hplayback⟩
    · exact .recording message isStreaming clock event hd hrecording
    · simp only [List.mem_cons, hconfig, hrecording, hplayback, List.not_mem_nil, or_self] at htext
  | unwritten err clock event reply => exact absurd reply.symm (errorText_ne err hno)
  | later i camera content t expected result event task handles next reader controller reply =>
    cases result with
    | error err => exact absurd reply.symm (errorText_ne err hno)
    | ok u =>
      subst event reply
      obtain ⟨c, hlast, hawaited⟩ := h.lastCommand reader
      rw [← segment_lastCommand h (segmentOf_of_step hs) id] at hlast
      exact .returned i camera content t c rfl task handles next controller hlast hawaited

/-- The replies are true where the condition is met. -/
theorem truthful_of_takesEffect {e : ServerEvent P} (h : Handled P api s)
    (hs : (server P api).step s e = some s') (he : TakesEffect api s e) (id : SessionId) :
    Truthful api s e s' id := by
  refine ⟨fun hr => ?_, fun hr => ?_, fun hr => ?_⟩
  · cases acknowledging_of_replied h hs hr (by simp) with
    | recording message isStreaming clock event decoded reply => exact absurd reply (by decide)
    | returned i camera content t c event task handles next controller command awaited =>
      subst event
      rcases awaited_cases awaited with ⟨cameraIndex, resolution, fps, rfl, hcall, -⟩ |
        ⟨-, -, -, hreply⟩ | ⟨-, -, hreply⟩
      · refine ⟨cameraIndex, resolution, fps, command, ?_⟩
        have hpc := Pc.call_startStreaming hcall
        rw [hpc] at next controller
        rw [controller]
        rcases startStreaming_applied next with ⟨hactive, hself⟩ | happlied
        · -- the warning of `start_streaming`
          have hself' : (Pc.run P s.stream.controller ⟨camera, content, s.alive⟩ (.dispatch
            (.startStreaming cameraIndex resolution fps))).self = s.stream.controller := hself
          rw [hself']
          exact (he t id task handles).1 cameraIndex resolution fps hpc hactive
        · exact happlied
      · exact absurd hreply (by decide)
      · exact absurd hreply (by decide)
  · cases acknowledging_of_replied h hs hr (by simp) with
    | recording message isStreaming clock event decoded reply =>
      subst event
      rw [(recordStart_step hs decoded).2, Bool.or_eq_true]
      exact he decoded
    | returned i camera content t c event task handles next controller command awaited =>
      rcases awaited_cases awaited with ⟨-, -, -, -, -, hreply⟩ | ⟨-, -, -, hreply⟩ |
        ⟨-, -, hreply⟩ <;> exact absurd hreply (by decide)
  · cases acknowledging_of_replied h hs hr (by simp) with
    | recording message isStreaming clock event decoded reply => exact absurd reply (by decide)
    | returned i camera content t c event task handles next controller command awaited =>
      subst event
      rcases awaited_cases awaited with ⟨-, -, -, -, -, hreply⟩ | ⟨filename, rfl, hcall, -⟩ |
        ⟨-, -, hreply⟩
      · exact absurd hreply (by decide)
      · refine ⟨filename, i, camera, content, command, rfl, ?_⟩
        rcases Pc.call_startPlayback hcall with hpc | hpc
        · rw [hpc] at next
          cases next
        · rw [hpc] at next controller
          rw [controller]
          have hload := (he t id task handles).2 filename id hpc
          rcases startPlayback_started (P := P) (c := s.stream.controller) filename id
            ⟨camera, content, s.alive⟩ with ⟨hno, -, -⟩ | ⟨-, hstarted⟩
          · exact absurd hload hno
          · exact hstarted next
      · exact absurd hreply (by decide)

/-- What a method acknowledges that returns normally. -/
theorem replied_of_ok (h : Handled P api s) {i : Nat} {camera : CameraEnv}
    {content : Option Bytes} (hs : s.methodSegment P api i camera content = some s') {t : Task}
    (ht : s.stream.tasks[i]? = some t) (hid : t.handles id)
    (hn : (t.pc.run P s.stream.controller ⟨camera, content, s.alive⟩).next = .inr (.ok ())) :
    ∃ c reply, s'.lastCommand P api id = some c ∧ c.awaited id = some (t.pc.call, reply) ∧
      Replied s s' id reply ∧ s'.stream.controller =
        (t.pc.run P s.stream.controller ⟨camera, content, s.alive⟩).self := by
  obtain ⟨reply, ms, hreader, hposted, -, hcontroller⟩ := replied_of_returned h hs ht hid hn
  obtain ⟨c, hlast, hawaited⟩ := h.lastCommand hreader
  rw [← segment_lastCommand h hs id] at hlast
  exact ⟨c, reply, hlast, hawaited, ⟨_, hposted, List.mem_append_right _ List.mem_cons_self⟩,
    hcontroller⟩

/-- The condition is met where the replies are true. -/
theorem takesEffect_of_truthful {e : ServerEvent P} (h : Handled P api s)
    (hs : (server P api).step s e = some s') (htrue : ∀ id, Truthful api s e s' id) :
    TakesEffect api s e := by
  cases e with
  | session id e clock =>
    cases e with
    | message text isStreaming =>
      intro hd
      obtain ⟨hr, hrecording⟩ := recordStart_step hs hd
      rw [← Bool.or_eq_true, ← hrecording]
      exact (htrue id).recording hr
    | _ => trivial
  | segment i camera content =>
    intro t id ht hid
    refine ⟨fun cameraIndex resolution fps hpc hactive => ?_, fun filename session hpc => ?_⟩
    · have hrun : Pc.run P s.stream.controller ⟨camera, content, s.alive⟩ t.pc =
          { self := s.stream.controller } := by
        rw [hpc]
        exact if_pos hactive
      obtain ⟨c, reply, hlast, hawaited, hr, hcontroller⟩ :=
        replied_of_ok h (segmentOf_of_step hs) ht hid (congrArg Segment.next hrun)
      rw [hpc] at hawaited
      rcases awaited_cases hawaited with ⟨cameraIndex', resolution', fps', rfl, hcall, rfl⟩ |
        ⟨_, _, hcall, _⟩ | ⟨hcall, -, -⟩
      · cases hcall
        obtain ⟨_, _, _, hlast', happlied⟩ := (htrue id).config hr
        cases hlast.symm.trans hlast'
        rw [hcontroller, hrun] at happlied
        exact happlied
      · cases hcall
      · exact absurd rfl (hcall _ _ _)
    · rcases startPlayback_started (P := P) (c := s.stream.controller) filename session
        ⟨camera, content, s.alive⟩ with ⟨-, hnext, hnone⟩ | ⟨hload, -⟩
      · rw [← hpc] at hnext hnone
        obtain ⟨c, reply, -, hawaited, hr, hcontroller⟩ :=
          replied_of_ok h (segmentOf_of_step hs) ht hid hnext
        rw [hpc] at hawaited
        rcases awaited_cases hawaited with ⟨_, _, _, _, hcall, _⟩ |
          ⟨-, -, -, rfl⟩ | ⟨-, hcall, -⟩
        · cases hcall
        · -- the loader has refused the file, and nothing is played
          obtain ⟨_, _, _, _, -, -, hstarted⟩ := (htrue id).playback hr
          have hsession := hstarted.session
          rw [hcontroller, hnone] at hsession
          cases hsession
        · exact absurd rfl (hcall _ _)
      · exact hload
  | _ => trivial

/-- **The replies of a step are true exactly if the condition is met.** -/
theorem acknowledges_iff {e : ServerEvent P} (h : Handled P api s)
    (hs : (server P api).step s e = some s') : Acknowledges api s e ↔ TakesEffect api s e := by
  constructor
  · intro htrue
    exact takesEffect_of_truthful h hs (htrue s' hs)
  · intro he s'' hs' id
    exact truthful_of_takesEffect h hs' he id

end Steps

/-! ## Every run -/

/-- **Positive acknowledgements over whole runs.** A reply of a step from a reachable state is true
exactly if the condition is met there, and all replies of a run are true exactly if it is met in all
steps. -/
theorem acknowledged_iff (P : Platform) (api : Api) (es : List (ServerEvent P)) (s : Server)
    (hrun : (server P api).run {} es = some s) :
    ((server P api).AllSteps (Acknowledges api) {} es ↔
        (server P api).AllSteps (TakesEffect api) {} es) ∧
      ∀ e s', (server P api).step s e = some s' → (Acknowledges api s e ↔ TakesEffect api s e) := by
  have h : Handled P api s := Machine.run_invariant Handled.step es Handled.init hrun
  refine ⟨Machine.allSteps_congr Handled.step acknowledges_iff Handled.init hrun, ?_⟩
  intro e s' hs
  exact acknowledges_iff h hs

/-- A parser that also knows `playback_start` messages, by the name of their file. -/
def playerApi : Api where
  apiKey := lit "key"
  parse text :=
    if text.take 5 = lit "play " then .ok (.object [(lit "type", .string (lit "playback_start")),
      (lit "filename", .string (text.drop 5))])
    else sampleApi.parse text

/-- A controller starts a stream, and starts it again. -/
def configured : List (ServerEvent x86_64) :=
  joins 1 ++ [tells 1 "controller", .runAddViewer, tells 1 "config", .segment 0 .working none,
    .loop 0 .empty, tells 1 "config" true, .segment 0 .working none]

theorem acknowledged_iff_configured : ∃ s, (server x86_64 playerApi).run {} configured = some s ∧
    (((server x86_64 playerApi).AllSteps (Acknowledges playerApi) {} configured ↔
        (server x86_64 playerApi).AllSteps (TakesEffect playerApi) {} configured) ∧
      ∀ e s', (server x86_64 playerApi).step s e = some s' →
        (Acknowledges playerApi s e ↔ TakesEffect playerApi s e)) := by
  have hruns : ((server x86_64 playerApi).run {} configured).isSome = true := by decide +kernel
  obtain ⟨s, hs⟩ := Option.isSome_iff_exists.1 hruns
  exact ⟨s, hs, acknowledged_iff x86_64 playerApi configured s hs⟩

/-- A session asks for a file that does not exist. -/
def absentFile : List (ServerEvent x86_64) :=
  joins 1 ++ [tells 1 "play missing.asciirec", .segment 0 .working none]

/-- `PLAYBACK_STARTED` without a playback. -/
theorem playback_not_started : ¬∀ (es : List (ServerEvent x86_64)) (s s' : Server)
    (e : ServerEvent x86_64) (id : SessionId), (server x86_64 playerApi).run {} es = some s →
      (server x86_64 playerApi).step s e = some s' → Truthful playerApi s e s' id := by
  intro hclaim
  have hstep : (((server x86_64 playerApi).run {} absentFile).bind fun s =>
      ((server x86_64 playerApi).step s (.segment 0 .working none)).map fun s' => (s, s')).any
        (fun x => (x.2.sessions 1).posted ==
            (x.1.sessions 1).posted ++ [.reply (lit "PLAYBACK_STARTED")] &&
          x.2.stream.controller.playbackSession == none) = true := by decide +kernel
  obtain ⟨⟨s, s'⟩, hx, hfacts⟩ := (Option.any_eq_true _ _).1 hstep
  obtain ⟨t, hrun, ht⟩ := Option.bind_eq_some_iff.1 hx
  obtain ⟨t', hreturn, heq⟩ := Option.map_eq_some_iff.1 ht
  cases heq
  simp only [Bool.and_eq_true, beq_iff_eq] at hfacts
  obtain ⟨hposted, hnone⟩ := hfacts
  have htrue := hclaim absentFile s s' _ 1 hrun hreturn
  obtain ⟨_, _, _, _, -, -, hstarted⟩ := htrue.playback ⟨_, hposted, List.mem_cons_self⟩
  have hsession := hstarted.session
  rw [hnone] at hsession
  cases hsession

end AsciiStreamer
