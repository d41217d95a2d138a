import AsciiStreamer.Server.Acknowledged

/-!
# Commands that fail

The handler of a message that ends with an exception replies with an error, and undoes nothing of
what it has done. `Spared` is what is as before all the same: everything but the width, the height,
the rate and the camera for a `config`, and everything but the playback for a `playback_start`,
which stops the current one before it looks at the file (`failed_command_spares`).
-/

namespace AsciiStreamer

open Cxx

/-! ## What is as before -/

/-- The file of the player stays open, or closed, and a playback stays running, or stopped. -/
structure SamePlayback (p p' : PlaybackController) : Prop where
  isPlaying : p'.isPlaying = p.isPlaying
  isOpen : p'.playbackFile.isOpen = p.playbackFile.isOpen

/-- The stream, the recording and the playback are as they were. -/
structure SameState (c c' : StreamController) : Prop where
  isStreaming : c'.isStreaming = c.isStreaming
  frameWidth : c'.frameWidth = c.frameWidth
  frameHeight : c'.frameHeight = c.frameHeight
  fps : c'.fps = c.fps
  videoSource : c'.videoSource = c.videoSource
  recorder : c'.recorder = c.recorder
  playback : SamePlayback c.playbackController c'.playbackController

/-- And so are the flags of the session. -/
structure Unchanged (s s' : Server) (id : SessionId) : Prop where
  isAuthenticated : (s'.sessions id).isAuthenticated = (s.sessions id).isAuthenticated
  isController : (s'.sessions id).isController = (s.sessions id).isController
  state : SameState s.stream.controller s'.stream.controller

/-- What a message leaves as it was that is decoded to `r` and fails. -/
structure Spared (r : Except Exn Command) (s s' : Server) (id : SessionId) : Prop where
  isAuthenticated : (s'.sessions id).isAuthenticated = (s.sessions id).isAuthenticated
  isController : (s'.sessions id).isController = (s.sessions id).isController
  isStreaming : s'.stream.controller.isStreaming = s.stream.controller.isStreaming
  recorder : s'.stream.controller.recorder = s.stream.controller.recorder
  frameWidth : s'.stream.controller.frameWidth = s.stream.controller.frameWidth ∨
    ∃ cameraIndex resolution fps, r = .ok (.config cameraIndex resolution fps) ∧
      stoi (StreamController.widthText resolution) = .ok s'.stream.controller.frameWidth
  frameHeight : s'.stream.controller.frameHeight = s.stream.controller.frameHeight ∨
    ∃ cameraIndex resolution fps, r = .ok (.config cameraIndex resolution fps) ∧
      stoi (StreamController.heightText resolution) = .ok s'.stream.controller.frameHeight
  fps : s'.stream.controller.fps = s.stream.controller.fps ∨
    ∃ cameraIndex resolution, r = .ok (.config cameraIndex resolution s'.stream.controller.fps)
  videoSource : (∀ cameraIndex resolution fps, r ≠ .ok (.config cameraIndex resolution fps)) →
    s'.stream.controller.videoSource = s.stream.controller.videoSource
  playback : (∀ filename, r ≠ .ok (.playbackStart filename)) →
    SamePlayback s.stream.controller.playbackController s'.stream.controller.playbackController

/-- In this step the session is sent an error. -/
def Fails (s s' : Server) (id : SessionId) : Prop :=
  ∃ what, Replied s s' id (lit "ERROR: " ++ what)

/-- The event is not another message of the session. -/
def NoMessage {P : Platform} (id : SessionId) (e : ServerEvent P) : Prop :=
  ∀ text isStreaming clock, e ≠ .session id (.message text isStreaming) clock

/-- A run that begins with a message of the session and ends with the error that answers it. -/
structure FailedCommand {P : Platform} (api : Api) (s₀ : Server) (id : SessionId) (text : Bytes)
    (es : List (ServerEvent P)) (e : ServerEvent P) (s' : Server) : Prop where
  message : ∃ isStreaming clock fs, es ++ [e] = .session id (.message text isStreaming) clock :: fs ∧
    ∀ f ∈ fs, NoMessage id f
  fails : ∃ s, (server P api).run s₀ es = some s ∧ (server P api).step s e = some s' ∧ Fails s s' id

/-- The step changes nothing, or belongs to the handler of the session. -/
def Undisturbed {P : Platform} (api : Api) (id : SessionId) (s : Server) (e : ServerEvent P) :
    Prop :=
  s.handlerOf e ≠ some id → ∀ s', (server P api).step s e = some s' → Unchanged s s' id

/-- The step spares what the message spares, or does not belong to the handler of the session. -/
def Sparing {P : Platform} (api : Api) (r : Except Exn Command) (id : SessionId) (s : Server)
    (e : ServerEvent P) : Prop :=
  s.handlerOf e = some id → ∀ s', (server P api).step s e = some s' → Spared r s s' id

section Preorder

variable {r : Except Exn Command} {s s' s'' : Server} {id : SessionId}

theorem SameState.of_eq {c c' : StreamController} (h : c' = c) : SameState c c' := by
  subst h
  exact ⟨rfl, rfl, rfl, rfl, rfl, rfl, rfl, rfl⟩

theorem Unchanged.refl (s : Server) (id : SessionId) : Unchanged s s id := ⟨rfl, rfl, .of_eq rfl⟩

theorem Unchanged.trans (h : Unchanged s s' id) (h' : Unchanged s' s'' id) : Unchanged s s'' id where
  isAuthenticated := h'.isAuthenticated.trans h.isAuthenticated
  isController := h'.isController.trans h.isController
  state := ⟨h'.state.isStreaming.trans h.state.isStreaming,
    h'.state.frameWidth.trans h.state.frameWidth, h'.state.frameHeight.trans h.state.frameHeight,
    h'.state.fps.trans h.state.fps, h'.state.videoSource.trans h.state.videoSource,
    h'.state.recorder.trans h.state.recorder,
    h'.state.playback.isPlaying.trans h.state.playback.isPlaying,
    h'.state.playback.isOpen.trans h.state.playback.isOpen⟩

theorem Unchanged.spared (h : Unchanged s s' id) : Spared r s s' id where
  isAuthenticated := h.isAuthenticated
  isController := h.isController
  isStreaming := h.state.isStreaming
  recorder := h.state.recorder
  frameWidth := Or.inl h.state.frameWidth
  frameHeight := Or.inl h.state.frameHeight
  fps := Or.inl h.state.fps
  videoSource := fun _ => h.state.videoSource
  playback := fun _ => h.state.playback

/-- What is spared from a state on, is spared from an earlier one that has not changed since. -/
theorem Unchanged.trans_spared (h : Unchanged s s' id) (h' : Spared r s' s'' id) :
    Spared r s s'' id where
  isAuthenticated := h'.isAuthenticated.trans h.isAuthenticated
  isController := h'.isController.trans h.isController
  isStreaming := h'.isStreaming.trans h.state.isStreaming
  recorder := h'.recorder.trans h.state.recorder
  frameWidth := h.state.frameWidth ▸ h'.frameWidth
  frameHeight := h.state.frameHeight ▸ h'.frameHeight
  fps := h.state.fps ▸ h'.fps
  videoSource := fun hr => (h'.videoSource hr).trans h.state.videoSource
  playback := fun hr => ⟨(h'.playback hr).isPlaying.trans h.state.playback.isPlaying,
    (h'.playback hr).isOpen.trans h.state.playback.isOpen⟩

theorem Undisturbed.of_own {P : Platform} {api : Api} {e : ServerEvent P}
    (h : s.handlerOf e = some id) : Undisturbed api id s e := fun hne => absurd h hne

end Preorder

/-! ## Methods that fail -/

/-- How far a `start_streaming` has come that throws. -/
structure Attempted (c : StreamController) (resolution : Bytes) (fps : Int)
    (c' : StreamController) : Prop where
  frameWidth : c'.frameWidth = c.frameWidth ∨
    stoi (StreamController.widthText resolution) = .ok c'.frameWidth
  frameHeight : c'.frameHeight = c.frameHeight ∨
    stoi (StreamController.heightText resolution) = .ok c'.frameHeight
  fps : c'.fps = c.fps ∨ c'.fps = fps
  rest : SameRest c c'

section Calls

variable {P : Platform} {c : StreamController}

theorem readNextFrame_exn {p : PlaybackController} {e : Exn}
    (h : (p.readNextFrame P).exn = some e) : SamePlayback p (p.readNextFrame P).self := by
  unfold PlaybackController.readNextFrame at h ⊢
  split
  · exact ⟨rfl, rfl⟩
  · next hgo =>
    rw [if_neg hgo] at h
    have hopen := p.playbackFile.getline_isOpen []
    cases hf : (p.playbackFile.getline []).1.fail with
    | true =>
      simp only [hf, ↓reduceIte] at h
      cases h
    | false =>
      simp only [hf, Bool.false_eq_true, ↓reduceIte] at h ⊢
      cases hheader : frameHeader (p.playbackFile.getline []).2 with
      | none =>
        rw [readFrame_none hheader] at h
        cases h
      | some fields =>
        rcases readFrame_cases (P := P) (p := p) hheader (p.playbackFile.getline []).1 with
          ⟨err, herr⟩ | ⟨t, n, ht, hn, hmax⟩
        · rw [herr]
          exact ⟨rfl, hopen⟩
        · rw [readFrame_some hheader ht hn hmax] at h
          cases h

/-- The `try` block of `start_streaming` throws: what it has assigned before stays assigned. -/
theorem openStream_failed {cameraIndex fps : Int} {resolution : Bytes} {env : CameraEnv}
    {c' : StreamController} {e : Exn}
    (h : c.openStream cameraIndex resolution fps env = (c', .error e)) :
    Attempted c resolution fps c' := by
  have hopening := openStream_opening c cameraIndex resolution fps env
  rw [h] at hopening
  cases hopening with
  | width => exact ⟨Or.inl rfl, Or.inl rfl, Or.inl rfl, .of_update _ _ _ _ _ _ _ _⟩
  | height w e width => exact ⟨Or.inr width, Or.inl rfl, Or.inl rfl, .of_update c _ _ _ _ _ _ _⟩
  | camera w h width height =>
    exact ⟨Or.inr width, Or.inr height, Or.inr rfl, .of_update c _ _ _ _ _ _ _⟩
  | throws w h e width height =>
    exact ⟨Or.inr width, Or.inr height, Or.inr rfl, .of_update c _ _ _ _ _ _ _⟩

/-- The height does not parse, and the width has been assigned. -/
example : (({} : StreamController).openStream 0 (lit "640xhigh") 10 .working).1.frameWidth = 640 := by
  decide

/-- `start_streaming` throws: no stream was active, and none is. -/
theorem startStreaming_failed {cameraIndex fps : Int} {resolution : Bytes} {env : CameraEnv}
    {e : Exn} (h : (c.startStreaming cameraIndex resolution fps env).next = .inr (.error e)) :
    (c.startStreaming cameraIndex resolution fps env).self.isStreaming = c.isStreaming ∧
      Attempted c resolution fps (c.startStreaming cameraIndex resolution fps env).self := by
  unfold StreamController.startStreaming at h ⊢
  cases hs : c.isStreaming with
  | true =>
    simp only [hs, ↓reduceIte] at h
    cases h
  | false =>
    rcases hopen : c.openStream cameraIndex resolution fps env with ⟨c', r⟩
    cases r with
    | error err =>
      obtain ⟨hwidth, hheight, hfps, hrest⟩ := openStream_failed hopen
      simp only [Bool.false_eq_true, ↓reduceIte]
      exact ⟨trivial, hwidth, hheight, hfps, hrest.1, hrest.2, hrest.3, hrest.4⟩
    | ok u =>
      simp only [hs, hopen, Bool.false_eq_true, ↓reduceIte] at h
      cases h

/-- What a method that throws leaves. -/
inductive Failure (c : StreamController) (c' : StreamController) : Pc → Prop
  | startStreaming (cameraIndex : Int) (resolution : Bytes) (fps : Int)
      (isStreaming : c'.isStreaming = c.isStreaming) (attempted : Attempted c resolution fps c') :
    Failure c c' (.dispatch (.startStreaming cameraIndex resolution fps))
  | resumePlayback (stream : SameStream c c') (recorder : c'.recorder = c.recorder)
      (playback : SamePlayback c.playbackController c'.playbackController) :
    Failure c c' (.dispatch .resumePlayback)
  | startPlayback (filename : Bytes) (session : SessionId) (stream : SameStream c c')
      (recorder : c'.recorder = c.recorder) : Failure c c' (.stoppingPlayback filename session)

theorem played_error {o : Outcome} {e : Exn} (h : (c.played o).next = .inr (.error e)) :
    o.exn = some e := by
  unfold StreamController.played at h
  cases he : o.exn with
  | none =>
    simp only [he] at h
    cases h
  | some err =>
    simp only [he] at h
    cases h
    rfl

theorem Suspends.sameState {c' : StreamController} {pc pc' : Pc} (h : Suspends c pc c' pc') :
    SameState c c' := by
  cases h with
  | stopping => exact ⟨rfl, rfl, rfl, rfl, rfl, rfl, rfl, rfl⟩
  | waiting => exact .of_eq rfl
  | loading filename session => exact .of_eq rfl

/-- **The methods that throw**: the others only return. -/
theorem Pc.run_failed {pc : Pc} {env : Env} {e : Exn} (h : (pc.run P c env).next = .inr (.error e)) :
    Failure c (pc.run P c env).self pc := by
  cases pc with
  | dispatch call =>
    cases call with
    | startStreaming cameraIndex resolution fps =>
      obtain ⟨hstream, hattempted⟩ := startStreaming_failed h
      exact .startStreaming cameraIndex resolution fps hstream hattempted
    | stopStreaming =>
      simp only [Pc.run, StreamController.stopStreaming, StreamController.poll] at h
      split at h
      · cases h
      · split at h <;> cases h
    | resumePlayback =>
      have hexn := played_error h
      refine .resumePlayback (.of_update c _ _ _ _) rfl ?_
      simp only [Pc.run, StreamController.played]
      unfold PlaybackController.resumePlayback at hexn ⊢
      split
      · next hpaused =>
        rw [if_pos hpaused] at hexn
        have hsame := readNextFrame_exn hexn
        exact ⟨hsame.isPlaying, hsame.isOpen⟩
      · exact ⟨rfl, rfl⟩
    | _ => cases h
  | polling =>
    simp only [Pc.run, StreamController.poll] at h
    split at h <;> cases h
  | stoppingPlayback filename session =>
    have hrun : SameStream c (Pc.run P c env (.stoppingPlayback filename session)).self ∧
        (Pc.run P c env (.stoppingPlayback filename session)).self.recorder = c.recorder := by
      simp only [Pc.run, StreamController.startPlayback]
      split
      · exact ⟨.of_update c _ _ _ _, rfl⟩
      · exact ⟨.of_update c _ _ _ _, rfl⟩
      · exact ⟨.of_update c _ _ _ _, rfl⟩
    exact .startPlayback filename session hrun.1 hrun.2

end Calls

/-! ## Segments of a handler -/

section Segments

variable {P : Platform} {api : Api} {s s' : Server} {id : SessionId}

/-- A segment of the session that at most calls a method. -/
theorem unchanged_of_asks {e : SessionEvent} {clock : Clock} {σ : Session} {rs : List Request}
    (h : Asks (s.sessions id) σ rs) :
    Unchanged s (((s.note id e).setSession id σ).requestAll id clock rs) id := by
  refine ⟨?_, ?_, .of_eq ?_⟩
  · rw [Server.requestAll_sessions, Server.setSession_self]
    exact h.isAuthenticated
  · rw [Server.requestAll_sessions, Server.setSession_self]
    exact h.isController
  · rcases h.requests with rfl | ⟨call, rfl⟩
    · simp only [Server.requestAll, List.foldl_nil, Server.setSession_stream, Server.note_stream]
    · simp only [Server.requestAll, List.foldl_cons, List.foldl_nil, Server.request,
        Server.invoke_stream, Server.setSession_stream, Server.note_stream]
      rfl

/-- The segment that reads a message, where it is not done with or fails at once. -/
theorem message_unchanged {text : Bytes} {isStreaming : Bool} {clock : Clock}
    (hs : (server P api).step s (.session id (.message text isStreaming) clock) = some s')
    (h : (s'.sessions id).Handling ∨ Fails s s' id) : Unchanged s s' id := by
  cases serverStep_of_step hs with
  | session _ _ _ σ rs _ hstep =>
    have hasks : (s.sessions id).step P api (.message text isStreaming) = some (σ, rs) := hstep
    cases sessionStep_of_step hstep with
    | message _ _ reader =>
      refine unchanged_of_asks (handleMessage_asks ?_)
      rcases h with h | ⟨what, hr⟩
      · rw [Server.requestAll_sessions, Server.setSession_self] at h
        exact Or.inl h
      · obtain ⟨ms, hposted, hmem⟩ := hr
        obtain ⟨-, hmem⟩ := session_posts hasks hposted hmem
        obtain ⟨reply, hreply, heq⟩ := List.mem_map.1 hmem
        cases heq
        exact Or.inr ⟨what, hreply⟩

/-- A handler that is suspended after a segment of its method. -/
theorem segment_unchanged (h : Handled P api s) {i : Nat} {camera : CameraEnv}
    {content : Option Bytes} (hs : s.methodSegment P api i camera content = some s') {t : Task}
    (ht : s.stream.tasks[i]? = some t) (hid : t.handles id) (hh : (s'.sessions id).Handling) :
    Unchanged s s' id := by
  cases hears_of_methodSegment h hs ht id with
  | nothing still suspended =>
    obtain ⟨pc, hn⟩ := suspended hid
    obtain ⟨stream, t', ht', -, -, hcontroller, rfl⟩ := methodSegment_cases hs
    obtain rfl := Option.some.inj (ht.symm.trans ht')
    have hstate := (Pc.run_suspends hn).sameState
    rw [← hcontroller] at hstate
    refine ⟨still.same.isAuthenticated, still.same.isController, ?_⟩
    simp only [hn, Server.sendAll_stream]
    exact hstate
  | returned handles result reply σ next reader same self last =>
    rw [self] at hh
    exact absurd hh (returned_not_handling reply result)

/-- A segment of the handler of a session that is suspended after it. -/
theorem own_unchanged (h : Handled P api s) {e : ServerEvent P}
    (hs : (server P api).step s e = some s') (hown : s.handlerOf e = some id)
    (hh : (s'.sessions id).Handling) : Unchanged s s' id := by
  cases e with
  | session j e clock =>
    obtain rfl : j = id := Option.some.inj hown
    by_cases hmsg : ∃ text isStreaming, e = .message text isStreaming
    · obtain ⟨text, isStreaming, rfl⟩ := hmsg
      exact message_unchanged hs (Or.inl hh)
    · cases serverStep_of_step hs with
      | session _ _ _ σ rs _ hstep =>
        rw [Server.requestAll_sessions, Server.setSession_self] at hh
        exact unchanged_of_asks (handling_step hstep hh fun text isStreaming heq =>
          hmsg ⟨text, isStreaming, heq⟩).2
  | segment i camera content =>
    obtain ⟨t, ht, hcaller⟩ := Option.bind_eq_some_iff.1 hown
    have hid : t.handles id := by
      unfold Caller.handler? at hcaller
      split at hcaller
      · next j hj =>
        cases hcaller
        exact hj
      · cases hcaller
    exact segment_unchanged h (segmentOf_of_step hs) ht hid hh
  | _ => cases hown

/-! ## While a message is handled -/

theorem StillAwaits.trans {s'' : Server} (h : StillAwaits s s' id) (h' : StillAwaits s' s'' id) :
    StillAwaits s s'' id where
  same := ⟨h'.same.reader.trans h.same.reader,
    h'.same.isAuthenticated.trans h.same.isAuthenticated,
    h'.same.isController.trans h.same.isController, h'.same.sessionId.trans h.same.sessionId⟩
  last := h'.last.trans h.last

theorem StillAwaits.handling (h : StillAwaits s s' id) (hh : (s'.sessions id).Handling) :
    (s.sessions id).Handling := by
  unfold Session.Handling at hh ⊢
  rwa [h.same.reader] at hh

/-- A handler that is suspended after a step has been suspended before, in the same call. -/
theorem stillAwaits_step (h : Handled P api s) {e : ServerEvent P}
    (hs : (server P api).step s e = some s') (hno : NoMessage id e)
    (hh : (s'.sessions id).Handling) : StillAwaits s s' id := by
  cases serverStep_of_step hs with
  | connect => exact ⟨.refl _, rfl⟩
  | session j e clock σ rs _ hstep =>
    by_cases hj : j = id
    · subst hj
      have hnone : ∀ text isStreaming, e ≠ .message text isStreaming := by
        rintro text isStreaming rfl
        exact hno text isStreaming clock rfl
      rw [Server.requestAll_sessions, Server.setSession_self] at hh
      obtain ⟨hreader, hasks⟩ := handling_step hstep hh hnone
      refine ⟨?_, (requestAll_lastMessage j clock rs _).trans
        (note_lastMessage s j (Or.inr hnone))⟩
      rw [Server.requestAll_sessions, Server.setSession_self]
      exact ⟨hreader, hasks.isAuthenticated, hasks.isController, step_sessionId hstep⟩
    · refine ⟨?_, (requestAll_lastMessage j clock rs _).trans (note_lastMessage s j (Or.inl hj))⟩
      rw [Server.requestAll_sessions, Server.setSession_other (Ne.symm hj), Server.note_sessions]
      exact .refl _
  | segment i camera content _ hseg =>
    obtain ⟨stream, t, ht, -⟩ := methodSegment_cases hseg
    cases hears_of_methodSegment h hseg ht id with
    | nothing still suspended => exact still
    | returned handles result reply σ next reader same self last =>
      rw [self] at hh
      exact absurd hh (returned_not_handling reply result)
  | loop i capture stream sends => exact sent_stillAwaits stream sends
  | runAddViewer stream => exact sent_stillAwaits stream []
  | playbackExpire stream => exact sent_stillAwaits stream []
  | playbackHandler k stream sends => exact sent_stillAwaits stream sends
  | destroy j =>
    refine ⟨?_, destroy_lastMessage s j⟩
    obtain ⟨isOpen, heq⟩ := Server.destroy_isOpen s j id
    rw [heq]
    exact ⟨rfl, rfl, rfl, rfl⟩

/-- And in every run. -/
theorem stillAwaits_run {fs : List (ServerEvent P)} (h : Handled P api s)
    (hno : ∀ e ∈ fs, NoMessage id e) (hrun : (server P api).run s fs = some s')
    (hh : (s'.sessions id).Handling) : StillAwaits s s' id := by
  induction fs generalizing s with
  | nil =>
    rw [Machine.run_nil, Option.some.injEq] at hrun
    exact hrun ▸ .refl _ _
  | cons e fs ih =>
    obtain ⟨t, ht, hrun⟩ := Machine.run_cons_some.1 hrun
    have hrest := ih (h.step ht) (fun e he => hno e (List.mem_cons_of_mem _ he)) hrun
    exact (stillAwaits_step h ht (hno e List.mem_cons_self) (hrest.handling hh)).trans hrest

/-! ## The segment that fails -/

theorem awaited_positive {c : Command} {call : Call} {reply : Bytes}
    (h : c.awaited id = some (call, reply)) : reply.take 7 ≠ lit "ERROR: " := by
  rcases awaited_cases h with ⟨_, _, _, -, -, rfl⟩ | ⟨_, -, -, rfl⟩ | ⟨-, -, hreply⟩
  · decide
  · decide
  · have hall : ∀ x ∈ [lit "STREAM_STOPPED", lit "PLAYBACK_PAUSED", lit "PLAYBACK_RESUMED",
        lit "PLAYBACK_STOPPED", lit "PLAYBACK_SPEED_CHANGED"], x.take 7 ≠ lit "ERROR: " := by
      decide
    exact hall reply hreply

/-- What the method of the session's command spares that throws. -/
theorem failure_spared {c : Command} {pc : Pc} {reply : Bytes}
    (hf : Failure s.stream.controller s'.stream.controller pc)
    (hawaited : c.awaited id = some (pc.call, reply))
    (hkey : (s'.sessions id).isAuthenticated = (s.sessions id).isAuthenticated)
    (hcon : (s'.sessions id).isController = (s.sessions id).isController) :
    Spared (.ok c) s s' id := by
  have hcases := awaited_cases hawaited
  cases hf with
  | startStreaming cameraIndex resolution fps isStreaming attempted =>
    obtain ⟨hwidth, hheight, hfps, hrest⟩ := attempted
    rcases hcases with ⟨cameraIndex', resolution', fps', rfl, hcall, -⟩ | ⟨_, _, hcall, _⟩ | ⟨hcall, -⟩
    · cases hcall
      refine ⟨hkey, hcon, isStreaming, hrest.recorder, ?_, ?_, ?_, ?_, ?_⟩
      · exact hwidth.imp_right fun hw => ⟨_, _, _, rfl, hw⟩
      · exact hheight.imp_right fun hh => ⟨_, _, _, rfl, hh⟩
      · exact hfps.imp_right fun hf => ⟨cameraIndex, resolution, by rw [hf]⟩
      · exact fun hno => absurd rfl (hno _ _ _)
      · intro _
        rw [hrest.playbackController]
        exact ⟨rfl, rfl⟩
    · cases hcall
    · exact absurd rfl (hcall _ _ _)
  | resumePlayback stream recorder playback =>
    exact ⟨hkey, hcon, stream.isStreaming, recorder, Or.inl stream.frameWidth,
      Or.inl stream.frameHeight, Or.inl stream.fps, fun _ => stream.videoSource, fun _ => playback⟩
  | startPlayback filename session stream recorder =>
    rcases hcases with ⟨_, _, _, _, hcall, _⟩ | ⟨filename', rfl, -, -⟩ | ⟨-, hcall, -⟩
    · cases hcall
    · exact ⟨hkey, hcon, stream.isStreaming, recorder, Or.inl stream.frameWidth,
        Or.inl stream.frameHeight, Or.inl stream.fps, fun _ => stream.videoSource,
        fun hno => absurd rfl (hno filename')⟩
    · exact absurd rfl (hcall _ _)

/-- The error of a handler that has been suspended. -/
theorem fails_spared (h : Handled P api s) {e : ServerEvent P}
    (hs : (server P api).step s e = some s') (hno : NoMessage id e) (hf : Fails s s' id) :
    (s.sessions id).Handling ∧ ∀ text, lastMessage s.trace id = some text →
      Spared (decode P api (s.sessions id).isController text) s s' id := by
  obtain ⟨what, hr⟩ := hf
  cases replied_cases h hs hr with
  | atOnce message isStreaming clock event reply => exact absurd event (hno _ _ _)
  | unwritten err clock event reply =>
    subst event
    cases serverStep_of_step hs with
    | session _ _ _ σ rs _ hstep =>
      cases sessionStep_of_step hstep with
      | authFailedWritten _ reader =>
        have hasks : Asks (s.sessions id) ((s.sessions id).authFailedWritten (.error err)) [] :=
          ⟨rfl, rfl, Or.inl rfl⟩
        exact ⟨Or.inl reader, fun _ _ => (unchanged_of_asks hasks).spared⟩
  | later i camera content t expected result event task handles next reader controller reply =>
    subst event
    refine ⟨Or.inr ⟨_, _, reader⟩, fun text hlast => ?_⟩
    obtain ⟨text', c, hlast', hdecode, hawaited⟩ := (h.message id _ _ reader).command
    obtain rfl : text' = text := Option.some.inj (hlast'.symm.trans hlast)
    cases result with
    | ok u => exact absurd reply (error_ne what (awaited_positive hawaited))
    | error err =>
      obtain ⟨-, hkey, hcon⟩ := methodSegment_heard h (segmentOf_of_step hs) id
      have hfailed := Pc.run_failed next
      rw [← controller] at hfailed
      rw [hdecode]
      exact failure_spared hfailed hawaited hkey hcon

end Segments

/-! ## Every run -/

section Runs

variable {P : Platform} {api : Api} {s s' : Server} {id : SessionId}

/-- While a message is handled, the segments of its handler change nothing. -/
theorem handling_run (r : Except Exn Command) {fs : List (ServerEvent P)} (h : Handled P api s)
    (hno : ∀ e ∈ fs.tail, NoMessage id e) (hrun : (server P api).run s fs = some s')
    (hh : (s'.sessions id).Handling) : (server P api).AllSteps (Sparing api r id) s fs ∧
      ((server P api).AllSteps (Undisturbed api id) s fs → Unchanged s s' id) := by
  induction fs generalizing s with
  | nil =>
    rw [Machine.run_nil, Option.some.injEq] at hrun
    exact ⟨trivial, fun _ => hrun ▸ .refl _ _⟩
  | cons e fs ih =>
    obtain ⟨t, ht, hrun⟩ := Machine.run_cons_some.1 hrun
    have htail : ∀ f ∈ fs.tail, NoMessage id f := fun f hf => hno f (List.mem_of_mem_tail hf)
    obtain ⟨hspared, hunchanged⟩ := ih (h.step ht) htail hrun
    have hhandling := (stillAwaits_run (h.step ht) hno hrun hh).handling hh
    refine ⟨⟨?_, ?_⟩, ?_⟩
    · intro hown t' ht'
      obtain rfl : t = t' := Option.some.inj (ht.symm.trans ht')
      exact (own_unchanged h ht hown hhandling).spared
    · intro t' ht'
      obtain rfl : t = t' := Option.some.inj (ht.symm.trans ht')
      exact hspared
    · rintro ⟨hfirst, hrest⟩
      refine Unchanged.trans ?_ (hunchanged (hrest t ht))
      by_cases hown : s.handlerOf e = some id
      · exact own_unchanged h ht hown hhandling
      · exact hfirst hown t ht

/-- The last segment, after those that the handler has been suspended in. -/
theorem failed_last {text : Bytes} {es : List (ServerEvent P)} {e : ServerEvent P} {s₀ : Server}
    (h : Handled P api s₀) (hf : FailedCommand api s₀ id text es e s') :
    ∃ s, (server P api).run s₀ es = some s ∧ (server P api).step s e = some s' ∧
      (es = [] ∨ (s.sessions id).Handling ∧ ∀ f ∈ es.tail, NoMessage id f) ∧
      Spared (decode P api (s₀.sessions id).isController text) s s' id := by
  obtain ⟨⟨isStreaming, clock, fs, hes, hno⟩, s, hrun, hs, hfails⟩ := hf
  refine ⟨s, hrun, hs, ?_⟩
  cases es with
  | nil =>
    obtain ⟨rfl, rfl⟩ := List.cons.inj hes
    rw [Machine.run_nil, Option.some.injEq] at hrun
    subst hrun
    exact ⟨Or.inl rfl, (message_unchanged hs (Or.inr hfails)).spared⟩
  | cons e' es =>
    obtain ⟨rfl, rfl⟩ := List.cons.inj hes
    obtain ⟨t, ht, hrun⟩ := Machine.run_cons_some.1 hrun
    have hhandled := Machine.run_invariant Handled.step es (h.step ht) hrun
    have hes : ∀ f ∈ es, NoMessage id f := fun f hf => hno f (List.mem_append_left _ hf)
    have hlast : NoMessage id e := hno e (List.mem_append_right _ List.mem_cons_self)
    obtain ⟨hh, hspared⟩ := fails_spared hhandled hs hlast hfails
    refine ⟨Or.inr ⟨hh, hes⟩, ?_⟩
    have hstill := stillAwaits_run (h.step ht) hes hrun hh
    have hunchanged := message_unchanged ht (Or.inl (hstill.handling hh))
    have hheard : lastMessage t.trace id = some text := by
      cases serverStep_of_step ht with
      | session _ _ _ σ rs =>
        exact (requestAll_lastMessage id clock rs _).trans (lastMessage_received s₀.trace text)
    rw [← hunchanged.isController, ← hstill.same.isController]
    exact hspared text (hstill.last.trans hheard)

end Runs

/-- **Failed commands over whole runs.** From a message of a session to the error that answers it,
whatever the other sessions, the capture loops and the timers do in between, the segments of its
handler spare what the command spares; and where nobody else changes it, the state is spared
altogether. -/
theorem failed_command_spares (P : Platform) (api : Api) (hs es : List (ServerEvent P))
    (s₀ s' : Server) (id : SessionId) (text : Bytes) (e : ServerEvent P)
    (hrun : (server P api).run {} hs = some s₀) (hf : FailedCommand api s₀ id text es e s') :
    (server P api).AllSteps (Sparing api (decode P api (s₀.sessions id).isController text) id) s₀
        (es ++ [e]) ∧
      ((server P api).AllSteps (Undisturbed api id) s₀ (es ++ [e]) →
        Spared (decode P api (s₀.sessions id).isController text) s₀ s' id) := by
  have h : Handled P api s₀ := Machine.run_invariant Handled.step hs Handled.init hrun
  obtain ⟨s, hes, hstep, hbefore, hspared⟩ := failed_last h hf
  have hbefore : (server P api).AllSteps
      (Sparing api (decode P api (s₀.sessions id).isController text) id) s₀ es ∧
      ((server P api).AllSteps (Undisturbed api id) s₀ es → Unchanged s₀ s id) := by
    rcases hbefore with rfl | ⟨hh, hno⟩
    · rw [Machine.run_nil, Option.some.injEq] at hes
      exact ⟨trivial, fun _ => hes ▸ .refl _ _⟩
    · exact handling_run _ h hno hes hh
  rw [Machine.allSteps_append hes, Machine.allSteps_append hes]
  refine ⟨⟨hbefore.1, fun _ t ht => ?_, fun _ _ => trivial⟩, ?_⟩
  · obtain rfl : s' = t := Option.some.inj (hstep.symm.trans ht)
    exact hspared
  · rintro ⟨hundisturbed, -⟩
    exact (hbefore.2 hundisturbed).trans_spared hspared

/-- What a camera answers that cannot be opened. -/
def CameraEnv.unplugged : CameraEnv := ⟨false, .ok (), .ok ()⟩

theorem failed_command_spares_unplugged : ∃ s₀ s',
    (server x86_64 sampleApi).run {} (joins 1 ++ [tells 1 "controller", .runAddViewer]) = some s₀ ∧
    ((server x86_64 sampleApi).AllSteps
        (Sparing sampleApi (decode x86_64 sampleApi (s₀.sessions 1).isController (lit "config")) 1)
        s₀ ([tells 1 "config"] ++ [.segment 0 .unplugged none]) ∧
      ((server x86_64 sampleApi).AllSteps (Undisturbed sampleApi 1) s₀
          ([tells 1 "config"] ++ [.segment 0 .unplugged none]) →
        Spared (decode x86_64 sampleApi (s₀.sessions 1).isController (lit "config")) s₀ s' 1)) := by
  have hruns : (((server x86_64 sampleApi).run {}
      (joins 1 ++ [tells 1 "controller", .runAddViewer])).bind fun s₀ =>
        ((server x86_64 sampleApi).run s₀ [tells 1 "config"]).bind fun s =>
          ((server x86_64 sampleApi).step s (.segment 0 .unplugged none)).map fun s' =>
            (s₀, s, s')).any (fun x => (x.2.2.sessions 1).posted == (x.2.1.sessions 1).posted ++
              [.reply (lit "ERROR: Could not open video source")]) = true := by decide +kernel
  obtain ⟨⟨s₀, s, s'⟩, hx, hposted⟩ := (Option.any_eq_true _ _).1 hruns
  obtain ⟨t₀, hrun, hx⟩ := Option.bind_eq_some_iff.1 hx
  obtain ⟨t, hconfig, hx⟩ := Option.bind_eq_some_iff.1 hx
  obtain ⟨t', hstep, heq⟩ := Option.map_eq_some_iff.1 hx
  cases heq
  have hfails : Fails s s' 1 :=
    ⟨lit "Could not open video source", _, beq_iff_eq.1 hposted, List.mem_singleton.2 rfl⟩
  have hno : ∀ f ∈ [(.segment 0 .unplugged none : ServerEvent x86_64)], NoMessage 1 f := by
    intro f hf
    rw [List.mem_singleton.1 hf]
    exact nofun
  exact ⟨s₀, s', hrun, failed_command_spares x86_64 sampleApi _ [tells 1 "config"] s₀ s' 1
    (lit "config") (.segment 0 .unplugged none) hrun
    ⟨⟨false, ⟨noon, 0, true⟩, _, rfl, hno⟩, s, hconfig, hstep, hfails⟩⟩

/-- A recording of one frame. -/
def singleFrame : Bytes := magic ++ lit "\nframes:\nframe:0:1\nA\n"

/-- A recording whose metadata cannot be read. -/
def badMetadata : Bytes := magic ++ lit "\nframe_count:x\nframes:\n"

/-- A session plays a file, and another one joins. -/
def playing : List (ServerEvent x86_64) :=
  joins 1 ++ [tells 1 "play old.asciirec", .segment 0 .working none,
    .segment 0 .working (some singleFrame)] ++ joins 2

/-- The second session fails to play a file, and the playback of the first one is over. -/
theorem playback_stopped_by_failure : ¬∀ (hs es : List (ServerEvent x86_64)) (s₀ s' : Server)
    (id : SessionId) (text : Bytes) (e : ServerEvent x86_64),
      (server x86_64 playerApi).run {} hs = some s₀ → FailedCommand playerApi s₀ id text es e s' →
        (server x86_64 playerApi).AllSteps (Undisturbed playerApi id) s₀ (es ++ [e]) →
          Unchanged s₀ s' id := by
  intro hclaim
  have hruns : (((server x86_64 playerApi).run {} playing).bind fun s₀ =>
      ((server x86_64 playerApi).step s₀ (tells 2 "play new.asciirec")).bind fun s₁ =>
        ((server x86_64 playerApi).step s₁ (.segment 0 .working none)).bind fun s₂ =>
          ((server x86_64 playerApi).step s₂ (.segment 0 .working (some badMetadata))).map fun s' =>
            (s₀, s₁, s₂, s')).any (fun (s₀, s₁, s₂, s') =>
              s₀.stream.controller.playbackController.isPlaying &&
              s₁.stream.tasks == [⟨.handler 2, .dispatch (.startPlayback (lit "new.asciirec") 2)⟩] &&
              s₂.stream.tasks == [⟨.handler 2, .stoppingPlayback (lit "new.asciirec") 2⟩] &&
              (s'.sessions 2).posted == (s₂.sessions 2).posted ++ [.reply (lit "ERROR: stoi")] &&
              !s'.stream.controller.playbackController.isPlaying) = true := by decide +kernel
  obtain ⟨⟨s₀, s₁, s₂, s'⟩, hx, hfacts⟩ := (Option.any_eq_true _ _).1 hruns
  obtain ⟨t₀, hrun, hx⟩ := Option.bind_eq_some_iff.1 hx
  obtain ⟨t₁, hread, hx⟩ := Option.bind_eq_some_iff.1 hx
  obtain ⟨t₂, hawait, hx⟩ := Option.bind_eq_some_iff.1 hx
  obtain ⟨t', hthrow, heq⟩ := Option.map_eq_some_iff.1 hx
  cases heq
  simp only [Bool.and_eq_true, beq_iff_eq, Bool.not_eq_true'] at hfacts
  obtain ⟨⟨⟨⟨hplaying, htasks₁⟩, htasks₂⟩, hposted⟩, hstopped⟩ := hfacts
  have hes : (server x86_64 playerApi).run s₀
      [tells 2 "play new.asciirec", .segment 0 .working none] = some s₂ :=
    Machine.run_cons_some.2 ⟨s₁, hread, Machine.run_cons_some.2 ⟨s₂, hawait, rfl⟩⟩
  have hfails : Fails s₂ s' 2 := ⟨lit "stoi", _, hposted, List.mem_singleton.2 rfl⟩
  have hno : ∀ f ∈ [(.segment 0 .working none : ServerEvent x86_64),
      .segment 0 .working (some badMetadata)], NoMessage 2 f := by
    intro f hf
    rcases List.mem_cons.1 hf with rfl | hf
    · exact nofun
    · rw [List.mem_singleton.1 hf]
      exact nofun
  have hown₁ : ∀ content, s₁.handlerOf (.segment 0 .working content : ServerEvent x86_64) =
      some 2 := by
    intro content
    simp only [Server.handlerOf, htasks₁]
    rfl
  have hown₂ : ∀ content, s₂.handlerOf (.segment 0 .working content : ServerEvent x86_64) =
      some 2 := by
    intro content
    simp only [Server.handlerOf, htasks₂]
    rfl
  have hundisturbed : (server x86_64 playerApi).AllSteps (Undisturbed playerApi 2) s₀
      ([tells 2 "play new.asciirec", .segment 0 .working none] ++
        [.segment 0 .working (some badMetadata)]) := by
    rw [Machine.allSteps_append hes]
    refine ⟨⟨.of_own rfl, fun t ht => ⟨.of_own ?_, fun _ _ => trivial⟩⟩, .of_own (hown₂ _),
      fun _ _ => trivial⟩
    obtain rfl : s₁ = t := Option.some.inj (hread.symm.trans ht)
    exact hown₁ none
  have hsame := hclaim playing [tells 2 "play new.asciirec", .segment 0 .working none] s₀ s' 2
    (lit "play new.asciirec") (.segment 0 .working (some badMetadata)) hrun
    ⟨⟨false, ⟨noon, 0, true⟩, _, rfl, hno⟩, s₂, hes, hthrow, hfails⟩ hundisturbed
  have hplays := hsame.state.playback.isPlaying
  rw [hplaying, hstopped] at hplays
  cases hplays

end AsciiStreamer
