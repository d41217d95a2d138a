import AsciiStreamer.Server.Replay

/-!
# Stops are final

`STREAM_STOPPED`, `PLAYBACK_STOPPED`, `PLAYBACK_PAUSED` and `RECORDING_STOPPED` say that something
has come to an end. It has, when the reply is given; and from then on no session is sent a frame of
it, and the recorder writes nothing, until a segment runs that begins it again, whatever else the
sessions, the methods, the capture loops and the timers do in between (`stops_are_final`). There is
an `Activity` for each of these replies, and a step lemma for each of them.
-/

namespace AsciiStreamer

open Cxx

/-- What a client can stop. -/
inductive Activity
  | streaming
  | playing
  /-- A playback that is not paused. -/
  | unpaused
  | recording
  deriving DecidableEq, Repr

namespace Activity

/-- The reply to the command that stops it. -/
def stopped : Activity → Bytes
  | .streaming => lit "STREAM_STOPPED"
  | .playing => lit "PLAYBACK_STOPPED"
  | .unpaused => lit "PLAYBACK_PAUSED"
  | .recording => lit "RECORDING_STOPPED"

end Activity

/-- The player reads nothing: neither a late timer nor anything but a start or a resume. -/
def PlaybackController.Silent (p : PlaybackController) : Prop :=
  p.isPlaying = true → p.isPaused = true

/-- Nothing of it goes on. -/
def Activity.Over (c : StreamController) : Activity → Prop
  | .streaming => c.isStreaming = false
  | .playing => c.playbackController.isPlaying = false
  | .unpaused => c.playbackController.Silent
  | .recording => c.recorder.controller.isRecording = false

/-- The segments of methods that begin it. -/
def Activity.begunBy : Activity → Pc → Bool
  | .streaming, .dispatch (.startStreaming ..) => true
  | .playing, .stoppingPlayback .. => true
  | .unpaused, .stoppingPlayback .. => true
  | .unpaused, .dispatch .resumePlayback => true
  | _, _ => false

/-- In this step it is begun. -/
def Activity.Begins {P : Platform} (a : Activity) (api : Api) (s : Server) : ServerEvent P → Prop
  | .segment i _ _ => ∃ t, s.stream.tasks[i]? = some t ∧ a.begunBy t.pc = true
  | .session id (.message text _) _ => a = .recording ∧
      decode P api (s.sessions id).isController text = .ok .recordStart
  | _ => False

/-- In this step something of it is seen. -/
def Activity.Seen (s s' : Server) : Activity → Prop
  | .streaming => ∃ id frame, Sent s s' id (.live frame)
  | .playing => ∃ id frame, Sent s s' id (.playback frame)
  | .unpaused => ∃ id frame, Sent s s' id (.playback frame)
  | .recording => s'.stream.controller.recorder.disk ≠ s.stream.controller.recorder.disk

/-! ## Which segment sends a frame -/

/-- The segments that send frames: of a method, of a capture loop, of a timer. -/
inductive FrameStep {P : Platform} (s : Server) (e : ServerEvent P) (x : SessionId × Message) : Prop
  | segment (i : Nat) (camera : CameraEnv) (content : Option Bytes) (t : Task)
      (event : e = .segment i camera content) (task : s.stream.tasks[i]? = some t)
      (sent : x ∈ (t.pc.run P s.stream.controller ⟨camera, content, s.alive⟩).sends)
  | loop (i : Nat) (capture : Capture P) (pc : LoopPc) (c : StreamController)
      (next : Option LoopPc) (sends : List (SessionId × Message)) (event : e = .loop i capture)
      (live : s.stream.loops[i]? = some pc)
      (run : s.stream.controller.captureLoop P capture s.alive pc = some (c, next, sends))
      (sent : x ∈ sends)
  | handler (k : Nat) (c : Timer.Completion) (event : e = .playbackHandler k)
      (sent : x ∈ (s.stream.controller.played
        (s.stream.controller.playbackController.handler P k c)).sends)

section Sending

variable {P : Platform} {api : Api} {s s' : Server} {e : ServerEvent P} {id : SessionId}
  {m : Message}

/-- **Which segment sends a frame.** -/
theorem frameStep_of_sent (h : Handled P api s) (hs : (server P api).step s e = some s')
    (hsent : Sent s s' id m) (hm : ∀ text, m ≠ .reply text) : FrameStep s e (id, m) := by
  have same : (s'.sessions id).posted = (s.sessions id).posted → FrameStep s e (id, m) :=
    fun hsame => absurd hsent (not_sent hsame)
  cases serverStep_of_step hs with
  | connect => exact same rfl
  | session j e clock σ rs _ hstep =>
    exact absurd hsent (session_not_sent (external_of_step hs) hstep hm)
  | segment i camera content _ hseg =>
    obtain ⟨stream, t, ht, -⟩ := methodSegment_cases hseg
    exact .segment i camera content t rfl ht (hsent.segment h hseg ht hm)
  | loop i capture stream sends hloop =>
    obtain ⟨pc, c, next, hi, hc, -⟩ := loop_eq hloop
    exact .loop i capture pc c next sends rfl hi hc hsent.mem_sends
  | runAddViewer stream => exact same rfl
  | playbackExpire stream => exact same rfl
  | playbackHandler k stream sends hk =>
    obtain ⟨c, -, -, rfl⟩ := playbackHandler_reads hk
    exact .handler k c rfl hsent.mem_sends
  | destroy j =>
    obtain ⟨isOpen, heq⟩ := Server.destroy_isOpen s j id
    exact same (by rw [heq])

end Sending

/-! ## A player that reads nothing -/

/-- The player has not begun to read. -/
def Hushed (p p' : PlaybackController) : Prop :=
  p'.isPlaying = true → p.isPlaying = true ∧ p'.isPaused = true

section Player

variable {P : Platform} {p p' : PlaybackController} {c : StreamController}

theorem Hushed.of_same (h : p.Silent) (hplay : p'.isPlaying = p.isPlaying)
    (hpause : p'.isPaused = p.isPaused) : Hushed p p' := by
  intro hp
  rw [hplay] at hp
  rw [hpause]
  exact ⟨hp, h hp⟩

theorem pausePlayback_silent (h : p.Silent) : p.pausePlayback = p := by
  unfold PlaybackController.pausePlayback
  refine if_neg fun hgo => ?_
  rw [Bool.and_eq_true, Bool.not_eq_true'] at hgo
  exact Bool.false_ne_true (hgo.2.symm.trans (h hgo.1))

/-- A timer that fires finds the player stopped or paused. -/
theorem handler_silent (h : p.Silent) (k : Nat) (t : Timer.Completion) :
    p.handler P k t = { self := { p with playbackTimer := p.playbackTimer.take k } } := by
  unfold PlaybackController.handler PlaybackController.onTimer
  refine if_neg fun ⟨_, hplay, hpause⟩ => ?_
  exact Bool.false_ne_true (hpause.symm.trans (h hplay))

theorem resumePlayback_idle (h : p.isPlaying = false) : p.resumePlayback P = { self := p } := by
  unfold PlaybackController.resumePlayback
  rw [h, Bool.false_and, if_neg Bool.false_ne_true]

/-- **What a method does to such a player**: nothing is read unless it is started or resumed. -/
theorem Pc.run_silent {env : Env} {pc : Pc} (h : c.playbackController.Silent)
    (hstart : ∀ filename session, pc ≠ .stoppingPlayback filename session)
    (hresume : pc = .dispatch .resumePlayback → c.playbackController.isPlaying = false) :
    (pc.run P c env).sends = [] ∧
      Hushed c.playbackController (pc.run P c env).self.playbackController := by
  have same : Hushed c.playbackController c.playbackController := .of_same h rfl rfl
  cases pc with
  | dispatch call =>
    cases call with
    | startStreaming cameraIndex resolution fps =>
      refine ⟨startStreaming_sends c cameraIndex resolution fps env.camera, ?_⟩
      have hrest := (startStreaming_rest c cameraIndex resolution fps env.camera).playbackController
      exact .of_same h (congrArg PlaybackController.isPlaying hrest)
        (congrArg PlaybackController.isPaused hrest)
    | stopStreaming =>
      refine ⟨stopStreaming_sends c, ?_⟩
      have hrest := (stopStreaming_rest c).playbackController
      exact .of_same h (congrArg PlaybackController.isPlaying hrest)
        (congrArg PlaybackController.isPaused hrest)
    | removeViewerById id => exact ⟨rfl, same⟩
    | startPlayback filename session => exact ⟨rfl, same⟩
    | pausePlayback =>
      refine ⟨rfl, ?_⟩
      change Hushed _ c.playbackController.pausePlayback
      rw [pausePlayback_silent h]
      exact same
    | resumePlayback =>
      simp only [Pc.run, resumePlayback_idle (hresume rfl)]
      exact ⟨rfl, same⟩
    | stopPlayback =>
      refine ⟨rfl, fun hplay => ?_⟩
      cases (stopPlayback_isPlaying c.playbackController).symm.trans hplay
    | setPlaybackSpeed speed => exact ⟨rfl, .of_same h rfl rfl⟩
  | polling =>
    refine ⟨poll_sends c, ?_⟩
    simp only [Pc.run, StreamController.poll]
    cases c.isStreaming <;> exact same
  | stoppingPlayback filename session => exact absurd rfl (hstart filename session)

end Player

/-! ## Steps that begin nothing -/

section Steps

variable {P : Platform} {api : Api} {s s' : Server} {e : ServerEvent P}

/-! ### Streaming -/

theorem streaming_over (hover : Activity.streaming.Over s.stream.controller)
    (hno : ¬Activity.streaming.Begins api s e) (hs : (server P api).step s e = some s') :
    Activity.streaming.Over s'.stream.controller := by
  change s.stream.controller.isStreaming = false at hover
  change s'.stream.controller.isStreaming = false
  by_cases hsegment : ∃ i camera content, e = .segment i camera content
  · obtain ⟨i, camera, content, rfl⟩ := hsegment
    obtain ⟨t, g, hseg⟩ := Server.methodSegment_stream (segmentOf_of_step hs)
    obtain ⟨ht, rfl, hstream⟩ := segment_eq hseg
    rw [hstream]
    cases Pc.run_effect P s.stream.controller ⟨camera, content, s.alive⟩ t.pc with
    | started cameraIndex resolution fps call =>
      refine absurd ⟨t, ht, ?_⟩ hno
      rw [call, Activity.begunBy]
    | failed cameraIndex resolution fps call begins idle spawned cleaned isStreaming =>
      exact isStreaming
    | stopping call streaming => cases hover.symm.trans streaming
    | waiting call streaming => cases hover.symm.trans streaming
    | cleaned call idle self =>
      simp only [self]
      rfl
    | quiet other same => exact same.isStreaming.trans hover
  · have hother : ∀ i camera content, e ≠ .segment i camera content := by
      intro i camera content he
      exact hsegment ⟨i, camera, content, he⟩
    rcases (runsNoMethod_of_step hs hother).stream with hoff | hsame
    · exact hoff
    · exact hsame.isStreaming.trans hover

/-- Without a stream there is no capture loop that could broadcast. -/
theorem not_sent_live (h : Handled P api s) (hone : OneLoop s.stream)
    (hover : Activity.streaming.Over s.stream.controller)
    (hs : (server P api).step s e = some s') (id : SessionId) (frame : Bytes) :
    ¬Sent s s' id (.live frame) := by
  intro hsent
  cases frameStep_of_sent h hs hsent nofun with
  | segment i camera content t event task sent =>
    obtain ⟨frame', hframe⟩ := Pc.run_sends sent
    cases hframe
  | loop i capture pc c next sends event live run sent =>
    rw [hone.idle hover] at live
    cases live
  | handler k c event sent =>
    obtain ⟨frame', hframe⟩ := played_sends sent
    cases hframe

/-! ### Playing -/

/-- The step neither starts a playback nor resumes one. -/
structure SparesPlayer (s : Server) (e : ServerEvent P) : Prop where
  start : ∀ i camera content t filename session, e = .segment i camera content →
    s.stream.tasks[i]? = some t → t.pc ≠ .stoppingPlayback filename session
  resume : ∀ i camera content t, e = .segment i camera content → s.stream.tasks[i]? = some t →
    t.pc = .dispatch .resumePlayback → s.stream.controller.playbackController.isPlaying = false

theorem SparesPlayer.of_playing (hover : Activity.playing.Over s.stream.controller)
    (hno : ¬Activity.playing.Begins api s e) : SparesPlayer s e := by
  refine ⟨?_, fun _ _ _ _ _ _ _ => hover⟩
  rintro i camera content t filename session rfl ht hpc
  refine hno ⟨t, ht, ?_⟩
  rw [hpc, Activity.begunBy]

theorem SparesPlayer.of_unpaused (hno : ¬Activity.unpaused.Begins api s e) : SparesPlayer s e := by
  refine ⟨?_, ?_⟩
  · rintro i camera content t filename session rfl ht hpc
    refine hno ⟨t, ht, ?_⟩
    rw [hpc, Activity.begunBy]
  · rintro i camera content t rfl ht hpc
    refine absurd ⟨t, ht, ?_⟩ hno
    rw [hpc, Activity.begunBy]

/-- **What such a step does to a player that reads nothing.** -/
theorem hushed_of_step (hspares : SparesPlayer s e)
    (h : s.stream.controller.playbackController.Silent)
    (hs : (server P api).step s e = some s') :
    Hushed s.stream.controller.playbackController s'.stream.controller.playbackController := by
  have kept : KeepsPlayback s.stream.controller s'.stream.controller →
      Hushed s.stream.controller.playbackController s'.stream.controller.playbackController := by
    intro hkeeps
    exact .of_same h (congrArg _ hkeeps.controller) (congrArg _ hkeeps.controller)
  cases serverStep_of_step hs with
  | connect => exact kept ⟨rfl, rfl⟩
  | session j e clock σ rs => exact kept (session_requested s j e clock σ rs).playback
  | segment i camera content _ hseg =>
    obtain ⟨t, g, hsegment⟩ := Server.methodSegment_stream hseg
    obtain ⟨ht, rfl, hstream⟩ := segment_eq hsegment
    rw [hstream]
    exact (Pc.run_silent h (fun filename session => hspares.start i camera content t filename
      session rfl ht) (hspares.resume i camera content t rfl ht)).2
  | loop i capture stream sends hloop =>
    obtain ⟨pc, c, next, -, hc, rfl⟩ := loop_eq hloop
    refine kept ?_
    rw [Server.sendAll_stream]
    exact captureLoop_playback hc
  | runAddViewer stream hadd =>
    obtain ⟨v, vs, -, rfl⟩ := runAddViewer_eq hadd
    exact kept ⟨rfl, rfl⟩
  | playbackExpire stream hexp =>
    rw [playbackExpire_timer hexp]
    exact .of_same h rfl rfl
  | playbackHandler k stream sends hk =>
    obtain ⟨c, -, rfl, -⟩ := playbackHandler_reads hk
    rw [Server.sendAll_stream]
    change Hushed _ (s.stream.controller.playbackController.handler P k c).self
    rw [handler_silent h]
    exact .of_same h rfl rfl
  | destroy j =>
    obtain ⟨tasks, -, hstream⟩ := Server.destroy_tasks s j
    refine kept ?_
    rw [hstream]
    exact ⟨rfl, rfl⟩

theorem not_sent_playback (hhandled : Handled P api s) (hspares : SparesPlayer s e)
    (h : s.stream.controller.playbackController.Silent)
    (hs : (server P api).step s e = some s') (id : SessionId) (frame : Bytes) :
    ¬Sent s s' id (.playback frame) := by
  intro hsent
  cases frameStep_of_sent hhandled hs hsent nofun with
  | segment i camera content t event task sent =>
    subst event
    rw [(Pc.run_silent h (fun filename session => hspares.start i camera content t filename
      session rfl task) (hspares.resume i camera content t rfl task)).1] at sent
    cases sent
  | loop i capture pc c next sends event live run sent =>
    obtain ⟨frame', hframe⟩ := captureLoop_sends run sent
    cases hframe
  | handler k c event sent =>
    rw [handler_silent h] at sent
    cases sent

/-! ### Recording -/

/-- A recorder that does not record is told something else than to begin. -/
theorem requestAll_recorder (id : SessionId) (clock : Clock) (rs : List Request) :
    ∀ s : Server, Activity.recording.Over s.stream.controller → .startRecording ∉ rs →
      (s.requestAll id clock rs).stream.controller.recorder = s.stream.controller.recorder := by
  induction rs with
  | nil => exact fun s _ _ => rfl
  | cons r rs ih =>
    intro s hover hno
    have hone : (s.request id clock r).stream.controller.recorder =
        s.stream.controller.recorder := by
      cases r with
      | addViewer => rfl
      | call c =>
        have hstream : (s.request id clock (.call c)).stream = s.stream.invoke (.handler id) c :=
          Server.invoke_stream s _ c
        rw [hstream]
        rfl
      | startRecording => exact absurd List.mem_cons_self hno
      | stopRecording =>
        change (s.stream.controller.stopRecording clock.now).recorder = _
        unfold StreamController.stopRecording
        exact congrArg StreamController.recorder (if_neg (hover ▸ Bool.false_ne_true))
    refine (ih _ ?_ fun hmem => hno (List.mem_cons_of_mem _ hmem)).trans hone
    change (s.request id clock r).stream.controller.recorder.controller.isRecording = false
    rw [hone]
    exact hover

/-- A message asks for a recording only if it is `record_start`. -/
theorem startRecording_not_requested {σ σ' : Session} {e : SessionEvent} {rs : List Request}
    (hstep : σ.step P api e = some (σ', rs)) (hno : ∀ text isStreaming,
      e = .message text isStreaming → decode P api σ.isController text ≠ .ok .recordStart) :
    .startRecording ∉ rs := by
  cases sessionStep_of_step hstep with
  | message text isStreaming =>
    cases messageStep_handleMessage P api σ text isStreaming with
    | failed err decoded self requests => simp [requests]
    | rejected apiKey role decoded wrong self requests => simp [requests]
    | granted role decoded self requests => simp [requests]
    | awaits c call reply decoded awaited self requests => simp [requests]
    | replied c decoded other awaited self requests =>
      rw [requests]
      rcases c.requests_cases with hnone | ⟨rfl, -⟩ | ⟨-, hstop⟩
      · simp [hnone]
      · exact absurd decoded (hno text isStreaming rfl)
      · simp [hstop]
  | _ => exact List.not_mem_nil

theorem recorder_of_step (hover : Activity.recording.Over s.stream.controller)
    (hno : ¬Activity.recording.Begins api s e) (hs : (server P api).step s e = some s') :
    s'.stream.controller.recorder = s.stream.controller.recorder := by
  cases serverStep_of_step hs with
  | connect => rfl
  | session j e clock σ rs _ hstep =>
    refine (requestAll_recorder j clock rs _ ?_ ?_).trans ?_
    · rw [Server.setSession_stream, Server.note_stream]
      exact hover
    · refine startRecording_not_requested hstep fun text isStreaming he hdecode => ?_
      subst he
      exact hno ⟨rfl, hdecode⟩
    · rw [Server.setSession_stream, Server.note_stream]
  | segment i camera content _ hseg =>
    obtain ⟨t, g, hsegment⟩ := Server.methodSegment_stream hseg
    obtain ⟨-, rfl, hstream⟩ := segment_eq hsegment
    rw [hstream]
    exact Pc.run_recorder P s.stream.controller _ t.pc
  | loop i capture stream sends hloop =>
    obtain ⟨pc, c, next, -, hc, rfl⟩ := loop_eq hloop
    rw [Server.sendAll_stream]
    change c.recorder = _
    rw [captureLoop_recorder hc]
    split
    · exact if_neg (hover ▸ Bool.false_ne_true)
    · rfl
  | runAddViewer stream hadd =>
    obtain ⟨v, vs, -, rfl⟩ := runAddViewer_eq hadd
    rfl
  | playbackExpire stream hexp =>
    rw [playbackExpire_timer hexp]
    rfl
  | playbackHandler k stream sends hk =>
    obtain ⟨o, rfl, -⟩ := playbackHandler_eq hk
    rw [Server.sendAll_stream]
    rfl
  | destroy j =>
    obtain ⟨tasks, -, hstream⟩ := Server.destroy_tasks s j
    rw [hstream]

/-! ### Any of them -/

/-- **What is over stays over** in a step that does not begin it. -/
theorem Activity.Over.step {a : Activity} (h : a.Over s.stream.controller)
    (hno : ¬a.Begins api s e) (hs : (server P api).step s e = some s') :
    a.Over s'.stream.controller := by
  cases a with
  | streaming => exact streaming_over h hno hs
  | playing =>
    change s'.stream.controller.playbackController.isPlaying = false
    have hsilent : s.stream.controller.playbackController.Silent := by
      intro hplay
      cases (show _ = false from h).symm.trans hplay
    rw [Bool.eq_false_iff]
    intro hplay
    have hbefore := (hushed_of_step (.of_playing h hno) hsilent hs hplay).1
    cases (show _ = false from h).symm.trans hbefore
  | unpaused => exact fun hplay => (hushed_of_step (.of_unpaused hno) h hs hplay).2
  | recording =>
    change s'.stream.controller.recorder.controller.isRecording = false
    rw [recorder_of_step h hno hs]
    exact h

/-- **And nothing of it is seen** in that step. -/
theorem Activity.Over.not_seen {a : Activity} (h : a.Over s.stream.controller)
    (hhandled : Handled P api s) (hone : OneLoop s.stream) (hno : ¬a.Begins api s e)
    (hs : (server P api).step s e = some s') : ¬a.Seen s s' := by
  cases a with
  | streaming =>
    rintro ⟨id, frame, hsent⟩
    exact not_sent_live hhandled hone h hs id frame hsent
  | playing =>
    rintro ⟨id, frame, hsent⟩
    refine not_sent_playback hhandled (.of_playing h hno) (fun hplay => ?_) hs id frame hsent
    cases (show _ = false from h).symm.trans hplay
  | unpaused =>
    rintro ⟨id, frame, hsent⟩
    exact not_sent_playback hhandled (.of_unpaused hno) h hs id frame hsent
  | recording => exact fun hseen => hseen (congrArg Recorder.disk (recorder_of_step h hno hs))

end Steps

/-! ## What the replies say -/

/-- The method that stops it; a recording is stopped at once. -/
def Activity.call : Activity → Option Call
  | .streaming => some .stopStreaming
  | .playing => some .stopPlayback
  | .unpaused => some .pausePlayback
  | .recording => none

section Replies

variable {P : Platform} {api : Api} {s s' : Server} {e : ServerEvent P} {a : Activity}

theorem stopped_ne_error (a : Activity) (err : Exn) : a.stopped ≠ errorText err := by
  intro heq
  refine errorText_ne err ?_ heq.symm
  cases a <;> decide

theorem call_of_awaited {id : SessionId} {c : Command} {call : Call}
    (h : c.awaited id = some (call, a.stopped)) : a.call = some call := by
  rcases awaited_cases h with ⟨_, _, _, -, -, hreply⟩ | ⟨_, -, -, hreply⟩ | -
  · cases a <;> exact absurd hreply (by decide)
  · cases a <;> exact absurd hreply (by decide)
  · cases c with
    | stop | playbackPause | playbackStop =>
      simp only [Command.awaited, Option.some.injEq, Prod.mk.injEq] at h
      obtain ⟨rfl, hreply⟩ := h
      cases a <;> first | rfl | exact absurd hreply (by decide)
    | playbackResume | playbackSpeed =>
      simp only [Command.awaited, Option.some.injEq, Prod.mk.injEq] at h
      cases a <;> exact absurd h.2 (by decide)
    | config cameraIndex resolution fps =>
      simp only [Command.awaited, Option.some.injEq, Prod.mk.injEq] at h
      cases a <;> exact absurd h.2 (by decide)
    | playbackStart filename =>
      obtain ⟨-, h⟩ := Option.ite_none_left_eq_some.1 h
      simp only [Option.some.injEq, Prod.mk.injEq] at h
      cases a <;> exact absurd h.2 (by decide)
    | auth _ _ | recordStart | recordStop | unknown => cases h

/-- It is over when the method returns that stops it. -/
theorem over_of_returned {c : StreamController} {env : Env} {pc : Pc}
    (hcall : a.call = some pc.call) (hn : (pc.run P c env).next = .inr (.ok ())) :
    a.Over (pc.run P c env).self := by
  cases a with
  | streaming =>
    have hpoll : ∀ c : StreamController, c.poll.next = .inr (.ok ()) →
        c.poll.self.isStreaming = false := by
      intro c hc
      unfold StreamController.poll at hc ⊢
      split at hc
      · cases hc
      · next hoff =>
        rw [if_neg hoff]
        rfl
    cases pc with
    | dispatch call =>
      cases hcall
      change c.stopStreaming.self.isStreaming = false
      change c.stopStreaming.next = .inr (.ok ()) at hn
      unfold StreamController.stopStreaming at hn ⊢
      split at hn
      · next hoff =>
        rw [if_pos hoff]
        exact Bool.not_eq_true' _ ▸ hoff
      · next hon =>
        rw [if_neg hon]
        exact hpoll _ hn
    | polling => exact hpoll c hn
    | stoppingPlayback filename session => cases hcall
  | playing =>
    cases pc with
    | dispatch call =>
      cases hcall
      exact stopPlayback_isPlaying c.playbackController
    | polling => cases hcall
    | stoppingPlayback filename session => cases hcall
  | unpaused =>
    cases pc with
    | dispatch call =>
      cases hcall
      change c.playbackController.pausePlayback.Silent
      unfold PlaybackController.pausePlayback
      split
      · exact fun _ => rfl
      · next hno =>
        intro hplay
        rw [hplay, Bool.true_and, Bool.not_eq_true', Bool.not_eq_false] at hno
        exact hno
    | polling => cases hcall
    | stoppingPlayback filename session => cases hcall
  | recording => cases hcall

/-- Of these replies, one is given at once. -/
theorem recordStop_of_reply {σ : Session} {message : Bytes} {isStreaming : Bool}
    (h : a.stopped ∈ σ.messageReplies P api message isStreaming) :
    a = .recording ∧ decode P api σ.isController message = .ok .recordStop := by
  unfold Session.messageReplies at h
  cases hd : decode P api σ.isController message with
  | error err =>
    rw [hd] at h
    exact absurd (List.mem_singleton.1 h) (stopped_ne_error a err)
  | ok c =>
    rw [hd] at h
    have ha : a = .recording := by
      rcases replies_cases h with ⟨-, htext⟩ | hother
      · cases a <;> first | rfl | exact absurd htext (by decide)
      · cases a <;> first | rfl | exact absurd hother (by decide)
    subst ha
    refine ⟨rfl, ?_⟩
    cases c with
    | recordStop => rfl
    | auth apiKey role =>
      simp only [Command.replies] at h
      split at h
      · cases h
      · split at h
        · exact absurd h (by decide)
        · cases isStreaming <;> exact absurd h (by decide)
    | playbackStart filename =>
      simp only [Command.replies] at h
      split at h
      · exact absurd h (by decide)
      · cases h
    | recordStart | unknown => exact absurd (List.mem_singleton.1 h) (by decide)
    | _ => cases h

theorem recordStop_step {id : SessionId} {text : Bytes} {isStreaming : Bool} {clock : Clock}
    (hs : (server P api).step s (.session id (.message text isStreaming) clock) = some s')
    (hd : decode P api (s.sessions id).isController text = .ok .recordStop) :
    Activity.recording.Over s'.stream.controller := by
  cases serverStep_of_step hs with
  | session _ _ _ σ rs _ hstep =>
    cases sessionStep_of_step hstep with
    | message _ _ reader =>
      simp only [Session.handleMessage, hd]
      change (s.stream.controller.stopRecording clock.now).recorder.controller.isRecording = false
      unfold StreamController.stopRecording RecordController.stopRecording
      cases hrec : s.stream.controller.recorder.controller.isRecording with
      | true => rfl
      | false => exact hrec

/-- **What such a reply says is the case.** -/
theorem over_of_replied {id : SessionId} (h : Handled P api s)
    (hs : (server P api).step s e = some s') (hr : Replied s s' id a.stopped) :
    a.Over s'.stream.controller := by
  cases replied_cases h hs hr with
  | atOnce message isStreaming clock event reply =>
    obtain ⟨rfl, hdecode⟩ := recordStop_of_reply reply
    subst event
    exact recordStop_step hs hdecode
  | unwritten err clock event reply => exact absurd reply (stopped_ne_error a err)
  | later i camera content t expected result event task handles next reader controller reply =>
    cases result with
    | error err => exact absurd reply (stopped_ne_error a err)
    | ok u =>
      obtain ⟨c, -, hawaited⟩ := h.lastCommand reader
      change a.stopped = expected at reply
      rw [← reply] at hawaited
      rw [controller]
      exact over_of_returned (call_of_awaited hawaited) next

end Replies

/-! ## Every run -/

/-- **Stops are final.** When a session is sent a reply which says that something has stopped, it has;
and in every run from there in whose steps it is not begun again it stays over, and no step lets a
session see anything of it. -/
theorem stops_are_final (P : Platform) (api : Api) (es : List (ServerEvent P)) (s s' : Server)
    (hrun : (server P api).run {} es = some s) (e : ServerEvent P)
    (hs : (server P api).step s e = some s') (a : Activity) (id : SessionId)
    (hreplied : Replied s s' id a.stopped) :
    a.Over s'.stream.controller ∧
      ∀ es' s'', (server P api).run s' es' = some s'' →
        (server P api).AllSteps (fun s e => ¬a.Begins api s e) s' es' →
          a.Over s''.stream.controller ∧ (server P api).AllSteps (fun s e =>
            ∀ s', (server P api).step s e = some s' → ¬a.Seen s s') s' es' := by
  have hhandled : Handled P api s := Machine.run_invariant Handled.step es Handled.init hrun
  have hinit : OneLoop ({} : Server).stream := ⟨rfl, nofun, nofun⟩
  have hone : OneLoop s.stream :=
    Machine.run_invariant (I := fun s : Server => OneLoop s.stream)
      (fun hi hs => hi.server_step hs) es hinit hrun
  have hover := over_of_replied hhandled hs hreplied
  refine ⟨hover, fun es' s'' hrun' hno => ?_⟩
  have hstart : Handled P api s' ∧ OneLoop s'.stream ∧ a.Over s'.stream.controller :=
    ⟨hhandled.step hs, hone.server_step hs, hover⟩
  have hkept : ∀ {s s' : Server} {e : ServerEvent P},
      (Handled P api s ∧ OneLoop s.stream ∧ a.Over s.stream.controller) →
        ¬a.Begins api s e → (server P api).step s e = some s' →
          Handled P api s' ∧ OneLoop s'.stream ∧ a.Over s'.stream.controller := by
    rintro s s' e ⟨h, hone, hover⟩ hno hs
    exact ⟨h.step hs, hone.server_step hs, hover.step hno hs⟩
  refine ⟨(hno.invariant hkept hstart hrun').2.2, hno.of_invariant hkept ?_ hstart⟩
  rintro s e ⟨h, hone, hover⟩ hno s' hs
  exact hover.not_seen h hone hno hs

/-- A controller records one frame of its stream. -/
def cutting : List (ServerEvent x86_64) :=
  joins 1 ++ [tells 1 "controller", .runAddViewer, tells 1 "config", .segment 0 .working none,
    .loop 0 .empty, tells 1 "record" true, .loop 0 (.frame sampleFrame 5000000), .loop 0 .empty]

/-- The stream goes on after the recording. -/
def uncut : ServerEvent x86_64 := .loop 0 (.frame ⟨lit "uncut", by decide⟩ 0)

theorem stops_are_final_cutting : ∃ s s' s'',
    (server x86_64 studioApi).run {} cutting = some s ∧
      (server x86_64 studioApi).step s (tells 1 "cut" true) = some s' ∧
      Replied s s' 1 (lit "RECORDING_STOPPED") ∧
      (server x86_64 studioApi).run s' [uncut] = some s'' ∧ s''.underway = [lit "uncut"] ∧
      s'.stream.controller.recorder.controller.isRecording = false ∧
      s''.stream.controller.recorder.controller.isRecording = false ∧
      (server x86_64 studioApi).AllSteps (fun s e => ∀ s',
        (server x86_64 studioApi).step s e = some s' → ¬Activity.recording.Seen s s') s' [uncut] := by
  have hfacts : ((((server x86_64 studioApi).run {} cutting).bind fun s =>
      ((server x86_64 studioApi).step s (tells 1 "cut" true)).bind fun s' =>
        ((server x86_64 studioApi).run s' [uncut]).map fun s'' => (s, s', s'')).any fun x =>
          (x.2.1.sessions 1).posted == (x.1.sessions 1).posted ++ [.reply (lit "RECORDING_STOPPED")] &&
            x.2.2.underway == [lit "uncut"]) = true := by decide +kernel
  obtain ⟨⟨s, s', s''⟩, hx, hfacts⟩ := (Option.any_eq_true _ _).1 hfacts
  obtain ⟨t, hrun, hx⟩ := Option.bind_eq_some_iff.1 hx
  obtain ⟨t', hstep, hx⟩ := Option.bind_eq_some_iff.1 hx
  obtain ⟨t'', hrun', heq⟩ := Option.map_eq_some_iff.1 hx
  cases heq
  simp only [Bool.and_eq_true, beq_iff_eq] at hfacts
  have hreplied : Replied s s' 1 (lit "RECORDING_STOPPED") :=
    ⟨_, hfacts.1, List.mem_cons_self⟩
  obtain ⟨hover, hfinal⟩ := stops_are_final x86_64 studioApi cutting s s' hrun (tells 1 "cut" true)
    hstep .recording 1 hreplied
  obtain ⟨hover', hseen⟩ := hfinal [uncut] s'' hrun' ⟨id, fun _ _ => trivial⟩
  exact ⟨s, s', s'', hrun, hstep, hreplied, hrun', hfacts.2, hover, hover', hseen⟩

end AsciiStreamer
