import AsciiStreamer.Recording.RoundTrip
import AsciiStreamer.Server.Server
import AsciiStreamer.Session.Writer
import AsciiStreamer.Stream.Viewers

/-!
# Access control

A session has the permissions that the messages it has sent give it: `Authorised` reads the two
flags, the viewers, the posted handlers and the suspended methods against the trace, and no step of
the server breaks it. Hence nothing is ever done on behalf of a session that has not presented the
key for it (`access_control`).
-/

namespace AsciiStreamer

open Cxx

/-! ## What a session has presented -/

section Presented

variable (api : Api)

/-- The session has sent an `auth` message with the server's key. -/
def PresentedKey (trace : List Obs) (id : SessionId) : Prop :=
  ∃ text role, .received id text ∈ trace ∧ AuthMessage api text role

/-- The session has sent one with the role `controller`. -/
def PresentedController (trace : List Obs) (id : SessionId) : Prop :=
  ∃ text, .received id text ∈ trace ∧ AuthMessage api text (lit "controller")

/-- What may be done after `trace`. -/
def Allowed (trace : List Obs) : Obs → Prop
  | .received .. => True
  | .invoked id _ => PresentedController api trace id
  | .handed id _ => PresentedKey api trace id

/-- Whatever the trace shows was allowed when it was done. -/
def Justified (trace : List Obs) : Prop :=
  ∀ pre o post, trace = pre ++ o :: post → Allowed api pre o

variable {api} {trace trace' : List Obs} {id : SessionId}

theorem PresentedController.key (h : PresentedController api trace id) :
    PresentedKey api trace id := by
  obtain ⟨text, hmem, hauth⟩ := h
  exact ⟨text, _, hmem, hauth⟩

theorem PresentedKey.mono (h : PresentedKey api trace id) (hsub : trace ⊆ trace') :
    PresentedKey api trace' id := by
  obtain ⟨text, role, hmem, hauth⟩ := h
  exact ⟨text, role, hsub hmem, hauth⟩

theorem PresentedController.mono (h : PresentedController api trace id) (hsub : trace ⊆ trace') :
    PresentedController api trace' id := by
  obtain ⟨text, hmem, hauth⟩ := h
  exact ⟨text, hsub hmem, hauth⟩

theorem Justified.concat (h : Justified api trace) {o : Obs} (ho : Allowed api trace o) :
    Justified api (trace ++ [o]) := by
  intro pre p post heq
  rcases List.eq_nil_or_concat post with rfl | ⟨post', q, rfl⟩
  · obtain ⟨rfl, hop⟩ := List.append_inj' heq rfl
    rw [List.cons.injEq] at hop
    exact hop.1 ▸ ho
  · rw [List.concat_eq_append, ← List.cons_append, ← List.append_assoc] at heq
    obtain ⟨hpre, -⟩ := List.append_inj' heq rfl
    exact h pre p post' hpre

end Presented

/-! ## The trace grows -/

namespace Server

section Traces

variable {P : Platform} {api : Api} {s s' : Server}

theorem sendTo_trace (s : Server) (id : SessionId) (m : Message) :
    s.trace <+: (s.sendTo id m).trace := by
  cases m with
  | live frame => exact List.prefix_append _ _
  | reply text => exact List.prefix_refl _
  | playback frame => exact List.prefix_refl _

theorem sendAll_trace (s : Server) (sends : List (SessionId × Message)) :
    s.trace <+: (s.sendAll sends).trace := by
  induction sends generalizing s with
  | nil => exact List.prefix_refl _
  | cons x xs ih => exact (sendTo_trace s x.1 x.2).trans (ih _)

theorem note_trace (s : Server) (id : SessionId) (e : SessionEvent) :
    s.trace <+: (s.note id e).trace := by
  cases e with
  | message text isStreaming => exact List.prefix_append _ _
  | _ => exact List.prefix_refl _

theorem request_trace (s : Server) (id : SessionId) (clock : Clock) (r : Request) :
    s.trace <+: (s.request id clock r).trace := by
  cases r with
  | addViewer => exact List.prefix_refl _
  | call c =>
    simp only [Server.request, Server.invoke]
    cases c.operation with
    | none => exact List.prefix_refl _
    | some operation => exact List.prefix_append _ _
  | startRecording => exact List.prefix_append _ _
  | stopRecording => exact List.prefix_append _ _

theorem requestAll_trace (s : Server) (id : SessionId) (clock : Clock) (rs : List Request) :
    s.trace <+: (s.requestAll id clock rs).trace := by
  induction rs generalizing s with
  | nil => exact List.prefix_refl _
  | cons r rs ih => exact (request_trace s id clock r).trans (ih _)

theorem methodSegment_trace {i : Nat} {camera : CameraEnv} {content : Option Bytes}
    (h : s.methodSegment P api i camera content = some s') : s.trace <+: s'.trace := by
  obtain ⟨⟨stream, t, g⟩, -, rfl⟩ := Option.map_eq_some_iff.1 h
  have hsend : s.trace <+: ((s.setStream stream).sendAll g.sends).trace :=
    sendAll_trace (s.setStream stream) g.sends
  simp only
  split
  · exact hsend
  · rw [resume_trace]
    exact hsend

theorem destroy_trace (s : Server) (id : SessionId) : s.trace <+: (s.destroy id).trace := by
  simp only [destroy]
  split
  · exact List.prefix_append _ _
  · split <;> exact List.prefix_refl _

theorem step_trace {e : ServerEvent P} (h : (server P api).step s e = some s') :
    s.trace <+: s'.trace := by
  cases serverStep_of_step h with
  | connect => exact List.prefix_refl _
  | session id e clock σ rs =>
    exact (note_trace s id e).trans
      (requestAll_trace ((s.note id e).setSession id σ) id clock rs)
  | segment i camera content _ hs => exact methodSegment_trace hs
  | loop i capture stream sends => exact sendAll_trace (s.setStream stream) sends
  | runAddViewer stream => exact List.prefix_refl _
  | playbackExpire stream => exact List.prefix_refl _
  | playbackHandler k stream sends => exact sendAll_trace (s.setStream stream) sends
  | destroy id => exact destroy_trace s id

end Traces

end Server

/-! ## The invariant -/

structure Authorised (api : Api) (s : Server) : Prop where
  key : ∀ id, (s.sessions id).isAuthenticated = true → PresentedKey api s.trace id
  controller : ∀ id, (s.sessions id).isController = true → PresentedController api s.trace id
  viewers : ∀ v ∈ s.stream.controller.viewers, PresentedKey api s.trace v
  adding : ∀ v ∈ s.stream.adding, PresentedKey api s.trace v
  tasks : ∀ t ∈ s.stream.tasks, t.pc.controls = true →
    PresentedController api s.trace t.caller.session
  trace : Justified api s.trace

namespace Authorised

section Updates

variable {P : Platform} {api : Api} {s : Server}

theorem init : Authorised api {} := by
  refine ⟨nofun, nofun, nofun, nofun, nofun, ?_⟩
  intro pre o post h
  exact absurd h.symm (List.append_ne_nil_of_right_ne_nil _ (List.cons_ne_nil _ _))

theorem observe (h : Authorised api s) {o : Obs} (ho : Allowed api s.trace o) :
    Authorised api (s.observe o) := by
  have hsub : s.trace ⊆ (s.observe o).trace := List.subset_append_left _ _
  exact ⟨fun id hid => (h.key id hid).mono hsub, fun id hid => (h.controller id hid).mono hsub,
    fun v hv => (h.viewers v hv).mono hsub, fun v hv => (h.adding v hv).mono hsub,
    fun t ht hc => (h.tasks t ht hc).mono hsub, h.trace.concat ho⟩

theorem setSession (h : Authorised api s) {id : SessionId} {σ : Session}
    (hkey : σ.isAuthenticated = true → PresentedKey api s.trace id)
    (hcon : σ.isController = true → PresentedController api s.trace id) :
    Authorised api (s.setSession id σ) := by
  refine ⟨fun j hj => ?_, fun j hj => ?_, h.viewers, h.adding, h.tasks, h.trace⟩
  · by_cases hid : j = id
    · subst hid
      rw [Server.setSession_self] at hj
      exact hkey hj
    · rw [Server.setSession_other hid] at hj
      exact h.key j hj
  · by_cases hid : j = id
    · subst hid
      rw [Server.setSession_self] at hj
      exact hcon hj
    · rw [Server.setSession_other hid] at hj
      exact h.controller j hj

/-- An update of a session that leaves its flags alone. -/
theorem setSession_flags (h : Authorised api s) {id : SessionId} {σ : Session}
    (hkey : σ.isAuthenticated = (s.sessions id).isAuthenticated)
    (hcon : σ.isController = (s.sessions id).isController) : Authorised api (s.setSession id σ) :=
  h.setSession (fun hσ => h.key id (hkey ▸ hσ)) (fun hσ => h.controller id (hcon ▸ hσ))

theorem setStream (h : Authorised api s) {stream : StreamSystem}
    (hv : ∀ v ∈ stream.controller.viewers, PresentedKey api s.trace v)
    (ha : ∀ v ∈ stream.adding, PresentedKey api s.trace v)
    (ht : ∀ t ∈ stream.tasks, t.pc.controls = true →
      PresentedController api s.trace t.caller.session) : Authorised api (s.setStream stream) :=
  ⟨h.key, h.controller, hv, ha, ht, h.trace⟩

theorem sendTo (h : Authorised api s) {id : SessionId} {m : Message}
    (hm : ∀ frame, m = .live frame → PresentedKey api s.trace id) :
    Authorised api (s.sendTo id m) := by
  have hset : Authorised api (s.setSession id ((s.sessions id).sendFrame m)) :=
    h.setSession_flags rfl rfl
  cases m with
  | live frame => exact hset.observe (hm frame rfl)
  | reply text => exact hset
  | playback frame => exact hset

theorem sendAll {sends : List (SessionId × Message)} :
    ∀ {s : Server}, Authorised api s →
      (∀ x ∈ sends, ∀ frame, x.2 = .live frame → PresentedKey api s.trace x.1) →
        Authorised api (s.sendAll sends) := by
  induction sends with
  | nil => exact fun h _ => h
  | cons x xs ih =>
    intro s h hx
    refine ih (h.sendTo (hx x List.mem_cons_self)) fun y hy frame hf => ?_
    exact (hx y (List.mem_cons_of_mem _ hy) frame hf).mono
      (Server.sendTo_trace s x.1 x.2).subset

theorem invoke (h : Authorised api s) {caller : Caller} {call : Call}
    (hcall : call.operation.isSome = true → PresentedController api s.trace caller.session) :
    Authorised api (s.invoke caller call) := by
  have hset : Authorised api (s.setStream (s.stream.invoke caller call)) := by
    refine h.setStream h.viewers h.adding fun t ht hc => ?_
    rcases List.mem_append.1 ht with ht | ht
    · exact h.tasks t ht hc
    · rw [List.mem_singleton] at ht
      subst ht
      exact hcall hc
  unfold Server.invoke
  cases hop : call.operation with
  | none => exact hset
  | some operation => exact hset.observe (hcall (by rw [hop]; rfl))

theorem request (h : Authorised api s) {id : SessionId} {r : Request} (clock : Clock)
    (hview : r = .addViewer → PresentedKey api s.trace id)
    (hop : r.operation.isSome = true → PresentedController api s.trace id) :
    Authorised api (s.request id clock r) := by
  cases r with
  | addViewer =>
    refine h.setStream h.viewers (fun v hv => ?_) h.tasks
    rcases List.mem_append.1 hv with hv | hv
    · exact h.adding v hv
    · rw [List.mem_singleton.1 hv]
      exact hview rfl
  | call c => exact h.invoke hop
  | startRecording =>
    have hset : Authorised api (s.setStream
        (s.stream.startRecording clock.localTime clock.now clock.fileOpens)) := by
      refine h.setStream (fun v hv => ?_) h.adding h.tasks
      exact h.viewers v (startRecording_viewers s.stream.controller .. ▸ hv)
    exact hset.observe (hop rfl)
  | stopRecording =>
    have hset : Authorised api (s.setStream (s.stream.stopRecording clock.now)) := by
      refine h.setStream (fun v hv => ?_) h.adding h.tasks
      exact h.viewers v (stopRecording_viewers s.stream.controller clock.now ▸ hv)
    exact hset.observe (hop rfl)

theorem requestAll {id : SessionId} (clock : Clock) {rs : List Request} :
    ∀ {s : Server}, Authorised api s → (.addViewer ∈ rs → PresentedKey api s.trace id) →
      (∀ r ∈ rs, r.operation.isSome = true → PresentedController api s.trace id) →
        Authorised api (s.requestAll id clock rs) := by
  induction rs with
  | nil => exact fun h _ _ => h
  | cons r rs ih =>
    intro s h hview hop
    have hsub := (Server.request_trace s id clock r).subset
    refine ih (h.request clock ?_ (hop r List.mem_cons_self)) ?_ ?_
    · rintro rfl
      exact hview List.mem_cons_self
    · exact fun hmem => (hview (List.mem_cons_of_mem _ hmem)).mono hsub
    · exact fun r' hr' ho => (hop r' (List.mem_cons_of_mem _ hr') ho).mono hsub

/-- Whoever a method belongs to, its caller only sends the reply. -/
theorem resume (h : Authorised api s) (caller : Caller) (result : Except Exn Unit) :
    Authorised api (s.resume P api caller result) := by
  unfold Server.resume
  split
  · exact h
  · split
    · next id σ rs hσ =>
      rcases step_authority hσ with flags | ⟨text, isStreaming, role, event, -, -, -, -⟩
      · exact h.setSession_flags flags.isAuthenticated flags.isController
      · cases event
    · exact h

end Updates

/-! ## Every step -/

section Steps

variable {P : Platform} {api : Api} {s s' : Server}

theorem sessionSegment (h : Authorised api s) {id : SessionId} {e : SessionEvent} {clock : Clock}
    {σ : Session} {rs : List Request} (hstep : (s.sessions id).step P api e = some (σ, rs)) :
    Authorised api (((s.note id e).setSession id σ).requestAll id clock rs) := by
  have hnote : Authorised api (s.note id e) := by
    cases e with
    | message text isStreaming => exact h.observe trivial
    | _ => exact h
  rcases step_authority hstep with flags | ⟨text, isStreaming, role, rfl, hauth, -, hcon, rfl⟩
  · have hset : Authorised api ((s.note id e).setSession id σ) := by
      refine hnote.setSession_flags ?_ ?_
      · rw [Server.note_sessions, flags.isAuthenticated]
      · rw [Server.note_sessions, flags.isController]
    refine hset.requestAll clock (fun hmem => absurd hmem flags.noViewer) fun r hr ho => ?_
    refine hnote.controller id ?_
    rw [Server.note_sessions]
    exact flags.privileged r hr ho
  · -- the message presents the key: it has just been noted
    have hmem : .received id text ∈ (s.note id (.message text isStreaming)).trace :=
      List.mem_append_right _ (List.mem_singleton_self _)
    have hkey : PresentedKey api (s.note id (.message text isStreaming)).trace id :=
      ⟨text, role, hmem, hauth⟩
    have hset : Authorised api ((s.note id (.message text isStreaming)).setSession id σ) := by
      refine hnote.setSession (fun _ => hkey) fun hσ => ?_
      rw [hcon, Bool.or_eq_true, decide_eq_true_eq] at hσ
      rcases hσ with hσ | hσ
      · exact hnote.controller id hσ
      · exact ⟨text, hmem, hσ ▸ hauth⟩
    refine hset.requestAll clock (fun _ => hkey) fun r hr ho => ?_
    rw [List.mem_singleton] at hr
    subst hr
    cases ho

/-- The stream after a segment of a method. -/
theorem segment_stream (h : Authorised api s) {i : Nat} {env : Env} {stream : StreamSystem}
    {t : Task} {g : Segment} (hs : s.stream.segment P i env = some (stream, t, g)) :
    Authorised api (s.setStream stream) := by
  obtain ⟨ht, rfl, rfl⟩ := segment_eq hs
  refine h.setStream (fun v hv => ?_) h.adding (fun x hx hc => ?_)
  · cases Pc.run_viewers P s.stream.controller env t.pc with
    | same other hsame => exact h.viewers v (hsame ▸ hv)
    | removed id call hrem =>
      rw [hrem] at hv
      exact h.viewers v (List.mem_of_mem_filter hv)
    | cleared call idle hnil =>
      rw [hnil] at hv
      cases hv
  · rcases mem_of_mem_proceed hx with hmem | hmem
    · exact h.tasks x hmem hc
    · cases hn : (t.pc.run P s.stream.controller env).next with
      | inl pc =>
        rw [hn, Task.after, Option.some.injEq] at hmem
        subst hmem
        exact h.tasks t (List.mem_of_getElem? ht) ((Pc.run_suspends hn).controls hc)
      | inr r =>
        rw [hn] at hmem
        cases hmem

theorem methodSegment (h : Authorised api s) {i : Nat} {camera : CameraEnv}
    {content : Option Bytes} (hs : s.methodSegment P api i camera content = some s') :
    Authorised api s' := by
  obtain ⟨⟨stream, t, g⟩, hseg, rfl⟩ := Option.map_eq_some_iff.1 hs
  have hset := h.segment_stream hseg
  have hsend : Authorised api ((s.setStream stream).sendAll g.sends) := by
    obtain ⟨-, rfl, -⟩ := segment_eq hseg
    refine hset.sendAll fun x hx frame hf => ?_
    obtain ⟨played, hplayed⟩ := Pc.run_sends hx
    rw [hplayed] at hf
    cases hf
  simp only
  split
  · exact hsend
  · exact hsend.resume _ _

theorem loopSegment (h : Authorised api s) {i : Nat} {capture : Capture P}
    {stream : StreamSystem} {sends : List (SessionId × Message)}
    (hs : s.stream.loop P i capture s.alive = some (stream, sends)) :
    Authorised api ((s.setStream stream).sendAll sends) := by
  obtain ⟨pc, c, next, -, hc, rfl⟩ := loop_eq hs
  have hview : (∀ v ∈ c.viewers, v ∈ s.stream.controller.viewers) ∧
      ∀ x ∈ sends, x.1 ∈ s.stream.controller.viewers := by
    rcases captureLoop_viewers hc with ⟨-, hv, rfl⟩ | ⟨frame, -, hv, rfl⟩
    · exact ⟨fun v hmem => hv ▸ hmem, nofun⟩
    · refine ⟨fun v hmem => List.mem_of_mem_filter (hv ▸ hmem), fun x hx => ?_⟩
      obtain ⟨v, hmem, rfl⟩ := List.mem_map.1 hx
      exact List.mem_of_mem_filter hmem
  have hset : Authorised api (s.setStream
      { s.stream with controller := c, loops := proceed s.stream.loops i next }) :=
    h.setStream (fun v hv => h.viewers v (hview.1 v hv)) h.adding h.tasks
  exact hset.sendAll fun x hx _ _ => h.viewers x.1 (hview.2 x hx)

theorem playbackHandler (h : Authorised api s) {k : Nat} {stream : StreamSystem}
    {sends : List (SessionId × Message)}
    (hs : s.stream.playbackHandler P k = some (stream, sends)) :
    Authorised api ((s.setStream stream).sendAll sends) := by
  obtain ⟨o, rfl, rfl⟩ := playbackHandler_eq hs
  have hset : Authorised api (s.setStream
      { s.stream with controller := (s.stream.controller.played o).self }) :=
    h.setStream h.viewers h.adding h.tasks
  refine hset.sendAll fun x hx frame hf => ?_
  obtain ⟨played, hplayed⟩ := played_sends hx
  rw [hplayed] at hf
  cases hf

theorem runAddViewer (h : Authorised api s) {stream : StreamSystem}
    (hs : s.stream.runAddViewer = some stream) : Authorised api (s.setStream stream) := by
  obtain ⟨v, vs, hv, rfl⟩ := runAddViewer_eq hs
  refine h.setStream (fun w hw => ?_) (fun w hw => ?_) h.tasks
  · rcases List.mem_append.1 hw with hw | hw
    · exact h.viewers w hw
    · rw [List.mem_singleton.1 hw]
      exact h.adding v (hv ▸ List.mem_cons_self)
  · exact h.adding w (hv ▸ List.mem_cons_of_mem _ hw)

theorem destroy (h : Authorised api s) (id : SessionId) : Authorised api (s.destroy id) := by
  have hset : Authorised api { s.setSession id { s.sessions id with isOpen := false } with
      destroyed := s.destroyed ++ [id] } := by
    have hflags : Authorised api (s.setSession id { s.sessions id with isOpen := false }) :=
      h.setSession_flags rfl rfl
    exact ⟨hflags.key, hflags.controller, hflags.viewers, hflags.adding, hflags.tasks,
      hflags.trace⟩
  unfold Server.destroy
  simp only
  split
  · next hcon => exact hset.invoke fun _ => h.controller id hcon
  · split
    · exact hset.invoke nofun
    · exact hset

theorem step {e : ServerEvent P} (h : Authorised api s)
    (hs : (server P api).step s e = some s') : Authorised api s' := by
  cases serverStep_of_step hs with
  | connect => exact ⟨h.key, h.controller, h.viewers, h.adding, h.tasks, h.trace⟩
  | session id e clock σ rs _ hstep => exact h.sessionSegment hstep
  | segment i camera content _ hseg => exact h.methodSegment hseg
  | loop i capture stream sends hloop => exact h.loopSegment hloop
  | runAddViewer stream hadd => exact h.runAddViewer hadd
  | playbackExpire stream hexp =>
    obtain ⟨p, rfl⟩ := playbackExpire_eq hexp
    exact h.setStream h.viewers h.adding h.tasks
  | playbackHandler k stream sends hk => exact h.playbackHandler hk
  | destroy id => exact h.destroy id

end Steps

end Authorised

/-! ## What a message handler can do -/

def Caller.handler? : Caller → Option SessionId
  | .handler id => some id
  | .destructor _ => none

/-- Whose message handler the segment belongs to. -/
def Server.handlerOf {P : Platform} (s : Server) : ServerEvent P → Option SessionId
  | .session id _ _ => some id
  | .segment i _ _ => (s.stream.tasks[i]?).bind fun t => t.caller.handler?
  | _ => none

/-- The stream and the recording are as they were. -/
structure Untouched (c c' : StreamController) : Prop where
  stream : SameStream c c'
  recorder : c'.recorder = c.recorder

section Handlers

variable {P : Platform} {api : Api} {s s' : Server}

theorem Untouched.of_eq {c c' : StreamController} (h : c' = c) : Untouched c c' := by
  subst h
  exact ⟨.refl c', rfl⟩

theorem request_controller (id : SessionId) (clock : Clock) {r : Request}
    (hr : r.operation = none) :
    (s.request id clock r).stream.controller = s.stream.controller := by
  cases r with
  | addViewer => rfl
  | call c =>
    rw [Server.request, Server.invoke_stream]
    rfl
  | startRecording => cases hr
  | stopRecording => cases hr

theorem requestAll_controller (id : SessionId) (clock : Clock) {rs : List Request} :
    ∀ {s : Server}, (∀ r ∈ rs, r.operation = none) →
      (s.requestAll id clock rs).stream.controller = s.stream.controller := by
  induction rs with
  | nil => exact fun _ => rfl
  | cons r rs ih =>
    intro s h
    have htail := ih (s := s.request id clock r) fun r' hr' => h r' (List.mem_cons_of_mem _ hr')
    exact htail.trans (request_controller id clock (h r List.mem_cons_self))

/-- A segment of a session that has not presented the key. -/
theorem sessionSegment_untouched (h : Authorised api s) {id : SessionId} {e : SessionEvent}
    {clock : Clock} {σ : Session} {rs : List Request}
    (hstep : (s.sessions id).step P api e = some (σ, rs))
    (hkey : ¬PresentedKey api
      (((s.note id e).setSession id σ).requestAll id clock rs).trace id) :
    Untouched s.stream.controller
      (((s.note id e).setSession id σ).requestAll id clock rs).stream.controller := by
  have hnoted : (s.note id e).trace <+:
      (((s.note id e).setSession id σ).requestAll id clock rs).trace :=
    Server.requestAll_trace ((s.note id e).setSession id σ) id clock rs
  rcases step_authority hstep with flags | ⟨text, isStreaming, role, rfl, hauth, -, -, -⟩
  · refine .of_eq (Eq.trans (requestAll_controller id clock fun r hr => ?_) ?_)
    · -- a privileged request would come from a session that has presented the key
      rw [← Option.not_isSome_iff_eq_none]
      intro ho
      have hcon := h.controller id (flags.privileged r hr ho)
      exact hkey (hcon.key.mono ((Server.note_trace s id e).trans hnoted).subset)
    · rw [Server.setSession_stream, Server.note_stream]
  · have hmem : .received id text ∈ (s.note id (.message text isStreaming)).trace :=
      List.mem_append_right _ (List.mem_singleton_self _)
    exact absurd ⟨text, role, hnoted.subset hmem, hauth⟩ hkey

/-- A segment of a method called by a session that has not presented the key. -/
theorem methodSegment_untouched (h : Authorised api s) {i : Nat} {camera : CameraEnv}
    {content : Option Bytes} (hs : s.methodSegment P api i camera content = some s')
    {t : Task} (ht : s.stream.tasks[i]? = some t)
    (hkey : ¬PresentedKey api s.trace t.caller.session) :
    Untouched s.stream.controller s'.stream.controller := by
  obtain ⟨t', g, hseg⟩ := Server.methodSegment_stream hs
  obtain ⟨ht', rfl, hstream⟩ := segment_eq hseg
  obtain rfl : t = t' := Option.some.inj (ht.symm.trans ht')
  have hcon : t.pc.controls ≠ true := fun hc =>
    hkey (h.tasks t (List.mem_of_getElem? ht) hc).key
  rw [hstream]
  refine ⟨?_, Pc.run_recorder P _ _ _⟩
  cases Pc.run_effect P s.stream.controller ⟨camera, content, s.alive⟩ t.pc with
  | started cameraIndex resolution fps call => exact absurd (call ▸ rfl) hcon
  | failed cameraIndex resolution fps call => exact absurd (call ▸ rfl) hcon
  | stopping call => exact absurd (call ▸ rfl) hcon
  | waiting call => exact absurd (call ▸ rfl) hcon
  | cleaned call => exact absurd (call ▸ rfl) hcon
  | quiet other same => exact same

/-- No segment of the message handler of a session that has not presented the key touches the
stream or the recording. -/
theorem handler_untouched (h : Authorised api s) {e : ServerEvent P} {id : SessionId}
    (hs : (server P api).step s e = some s') (hid : s.handlerOf e = some id)
    (hkey : ¬PresentedKey api s'.trace id) :
    Untouched s.stream.controller s'.stream.controller := by
  cases serverStep_of_step hs with
  | session j e clock σ rs _ hstep =>
    cases hid
    exact sessionSegment_untouched h hstep hkey
  | segment i camera content _ hseg =>
    obtain ⟨t, ht, hcaller⟩ := Option.bind_eq_some_iff.1 hid
    have hsession : t.caller.session = id := by
      cases hc : t.caller with
      | handler j =>
        rw [hc] at hcaller
        exact Option.some.inj hcaller
      | destructor j =>
        rw [hc] at hcaller
        cases hcaller
    refine methodSegment_untouched h hseg ht fun hpre => hkey ?_
    rw [hsession] at hpre
    exact hpre.mono (Server.methodSegment_trace hseg).subset
  | _ => cases hid

end Handlers

/-! ## Access control -/

/-- **Access control over whole runs.** Whatever the trace shows was allowed when it was done: the
stream and the recording are started and stopped on behalf of sessions that had presented the key
as a controller, and live frames are handed to sessions that had presented the key. A session that
has not presented it has neither permission, is no viewer and waits for no `add_viewer`, and its
message handler touches neither the stream nor the recording. -/
theorem access_control (P : Platform) (api : Api) (es : List (ServerEvent P)) (s : Server)
    (hrun : (server P api).run {} es = some s) :
    (∀ pre id operation post, s.trace = pre ++ .invoked id operation :: post →
      PresentedController api pre id) ∧
    (∀ pre id frame post, s.trace = pre ++ .handed id frame :: post →
      PresentedKey api pre id) ∧
    (∀ id, ¬PresentedKey api s.trace id →
      (s.sessions id).isAuthenticated = false ∧ (s.sessions id).isController = false ∧
        id ∉ s.stream.controller.viewers ∧ id ∉ s.stream.adding) ∧
    ∀ e s' id, (server P api).step s e = some s' → s.handlerOf e = some id →
      ¬PresentedKey api s'.trace id → Untouched s.stream.controller s'.stream.controller := by
  have h : Authorised api s :=
    Machine.run_invariant (I := Authorised api) (fun hi hs => hi.step hs) es .init hrun
  refine ⟨?_, ?_, ?_, ?_⟩
  · intro pre id operation post heq
    exact h.trace pre _ post heq
  · intro pre id frame post heq
    exact h.trace pre _ post heq
  · intro id hkey
    refine ⟨?_, ?_, fun hv => hkey (h.viewers id hv), fun ha => hkey (h.adding id ha)⟩
    · exact Bool.eq_false_iff.2 fun hauth => hkey (h.key id hauth)
    · exact Bool.eq_false_iff.2 fun hcon => hkey (h.controller id hcon).key
  · intro e s' id hs hid hkey
    exact handler_untouched h hs hid hkey

/-- A session is connected and accepted. -/
def joins (id : SessionId) : List (ServerEvent x86_64) :=
  [.connect, .session id (.accepted true) ⟨noon, 0, true⟩]

def tells (id : SessionId) (text : String) (isStreaming : Bool := false) : ServerEvent x86_64 :=
  .session id (.message (lit text) isStreaming) ⟨noon, 0, true⟩

def sampleFrame : Str x86_64 := ⟨lit "frame", by decide⟩

/-- A viewer, one who guesses the key, and a controller that starts a stream with one frame. -/
def audience : List (ServerEvent x86_64) :=
  joins 1 ++ [tells 1 "good", .runAddViewer] ++
    joins 2 ++ [tells 2 "bad", .session 2 (.authFailedWritten (.ok ())) ⟨noon, 0, true⟩,
      tells 2 "config", tells 2 "stop", tells 2 "garbage"] ++
    joins 3 ++ [tells 3 "controller", .runAddViewer, tells 3 "config", .segment 0 .working none,
      .loop 0 .empty, .loop 0 (.frame sampleFrame 0), .loop 0 .empty]

theorem access_control_audience : ∃ s, (server x86_64 sampleApi).run {} audience = some s ∧
    ((∀ pre id operation post, s.trace = pre ++ .invoked id operation :: post →
      PresentedController sampleApi pre id) ∧
    (∀ pre id frame post, s.trace = pre ++ .handed id frame :: post →
      PresentedKey sampleApi pre id) ∧
    (∀ id, ¬PresentedKey sampleApi s.trace id →
      (s.sessions id).isAuthenticated = false ∧ (s.sessions id).isController = false ∧
        id ∉ s.stream.controller.viewers ∧ id ∉ s.stream.adding) ∧
    ∀ e s' id, (server x86_64 sampleApi).step s e = some s' → s.handlerOf e = some id →
      ¬PresentedKey sampleApi s'.trace id →
        Untouched s.stream.controller s'.stream.controller) := by
  have hruns : ((server x86_64 sampleApi).run {} audience).isSome = true := by decide +kernel
  obtain ⟨s, hs⟩ := Option.isSome_iff_exists.1 hruns
  exact ⟨s, hs, access_control x86_64 sampleApi audience s hs⟩

end AsciiStreamer
