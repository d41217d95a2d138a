import AsciiStreamer.Server.Server
import AsciiStreamer.Session.Replies
import AsciiStreamer.Stream.Viewers

/-!
# Message handlers across their suspensions

A handler that awaits a method of the stream controller is suspended in two places: `do_run` of its
session waits for the reply, and the method is among the tasks of the controller. `Handled` says that
they belong to each other, one method to a session, and to the last message the session has
received. Hence a reply is traced to the segment that gives it and to the message it answers
(`replied_cases`).
-/

namespace AsciiStreamer

open Cxx

/-- The last message of a session in the trace. -/
def lastMessage (trace : List Obs) (id : SessionId) : Option Bytes :=
  trace.foldl (fun last o => match o with
    | .received j text => if j = id then some text else last
    | _ => last) none

/-- The call that a suspended method executes. -/
def Pc.call : Pc → Call
  | .dispatch call => call
  | .polling => .stopStreaming
  | .stoppingPlayback filename session => .startPlayback filename session

/-- The method was called by the message handler of the session. -/
def Task.handles (t : Task) (id : SessionId) : Prop := t.caller = .handler id

instance (t : Task) (id : SessionId) : Decidable (t.handles id) :=
  inferInstanceAs (Decidable (t.caller = .handler id))

/-- The session awaits the call, which is that of its last message. -/
structure Awaits (P : Platform) (api : Api) (s : Server) (id : SessionId) (call : Call)
    (reply : Bytes) : Prop where
  command : ∃ text c, lastMessage s.trace id = some text ∧
    decode P api (s.sessions id).isController text = .ok c ∧ c.awaited id = some (call, reply)

structure Handled (P : Platform) (api : Api) (s : Server) : Prop where
  sessionId : ∀ id, (s.sessions id).sessionId = id
  task : ∀ t ∈ s.stream.tasks, ∀ id, t.handles id →
    ∃ reply, (s.sessions id).reader = .calling t.pc.call reply
  once : ∀ id, s.stream.tasks.countP (Task.handles · id) ≤ 1
  message : ∀ id call reply, (s.sessions id).reader = .calling call reply →
    Awaits P api s id call reply

/-! ## The last message -/

section LastMessage

variable {P : Platform} {api : Api} {s s' : Server} {id : SessionId}

theorem lastMessage_received (trace : List Obs) (text : Bytes) :
    lastMessage (trace ++ [.received id text]) id = some text := by
  unfold lastMessage
  rw [List.foldl_append]
  exact if_pos rfl

theorem lastMessage_other {trace : List Obs} {o : Obs} (h : ∀ text, o ≠ .received id text) :
    lastMessage (trace ++ [o]) id = lastMessage trace id := by
  unfold lastMessage
  rw [List.foldl_append]
  cases o with
  | received j text =>
    have hj : j ≠ id := by
      rintro rfl
      exact h text rfl
    exact if_neg hj
  | invoked j operation => rfl
  | handed j frame => rfl

theorem sendAll_lastMessage (sends : List (SessionId × Message)) :
    ∀ s : Server, lastMessage (s.sendAll sends).trace id = lastMessage s.trace id := by
  induction sends with
  | nil => exact fun s => rfl
  | cons x xs ih =>
    intro s
    have hone : lastMessage (s.sendTo x.1 x.2).trace id = lastMessage s.trace id := by
      cases hm : x.2 with
      | live frame => exact lastMessage_other nofun
      | reply text => rfl
      | playback frame => rfl
    exact (ih _).trans hone

theorem invoke_lastMessage (s : Server) (caller : Caller) (call : Call) :
    lastMessage (s.invoke caller call).trace id = lastMessage s.trace id := by
  unfold Server.invoke
  cases call.operation with
  | none => rfl
  | some operation => exact lastMessage_other nofun

theorem requestAll_lastMessage (j : SessionId) (clock : Clock) (rs : List Request) :
    ∀ s : Server, lastMessage (s.requestAll j clock rs).trace id = lastMessage s.trace id := by
  induction rs with
  | nil => exact fun s => rfl
  | cons r rs ih =>
    intro s
    have hone : lastMessage (s.request j clock r).trace id = lastMessage s.trace id := by
      cases r with
      | addViewer => rfl
      | call c => exact invoke_lastMessage s _ c
      | startRecording => exact lastMessage_other nofun
      | stopRecording => exact lastMessage_other nofun
    exact (ih _).trans hone

theorem note_lastMessage (s : Server) (j : SessionId) {e : SessionEvent}
    (h : j ≠ id ∨ ∀ text isStreaming, e ≠ .message text isStreaming) :
    lastMessage (s.note j e).trace id = lastMessage s.trace id := by
  cases e with
  | message text isStreaming =>
    refine lastMessage_other ?_
    rintro text' heq
    rcases h with hj | hno
    · cases heq
      exact hj rfl
    · exact hno text isStreaming rfl
  | _ => rfl

theorem destroy_lastMessage (s : Server) (j : SessionId) :
    lastMessage (s.destroy j).trace id = lastMessage s.trace id := by
  unfold Server.destroy
  simp only
  split
  · rw [invoke_lastMessage]
    rfl
  · split
    · rw [invoke_lastMessage]
      rfl
    · rfl

end LastMessage

/-! ## The invariant -/

/-- The handlers of `s'` are handlers of `s`. -/
structure FewerCalls (ts ts' : List Task) : Prop where
  mem : ∀ t' ∈ ts', ∀ id, t'.handles id → ∃ t ∈ ts, t.handles id ∧ t.pc.call = t'.pc.call
  count : ∀ id, ts'.countP (Task.handles · id) ≤ ts.countP (Task.handles · id)

structure SameHandler (s s' : Session) : Prop where
  reader : s'.reader = s.reader
  isAuthenticated : s'.isAuthenticated = s.isAuthenticated
  isController : s'.isController = s.isController
  sessionId : s'.sessionId = s.sessionId

/-- The session goes on waiting for what it waited for. -/
structure StillAwaits (s s' : Server) (id : SessionId) : Prop where
  same : SameHandler (s.sessions id) (s'.sessions id)
  last : lastMessage s'.trace id = lastMessage s.trace id

/-- The session waits for nothing. -/
structure AwaitsNothing (s s' : Server) (id : SessionId) : Prop where
  free : (s'.sessions id).Free
  noTask : ∀ t ∈ s'.stream.tasks, ¬t.handles id
  sessionId : (s'.sessions id).sessionId = (s.sessions id).sessionId

section Calls

variable {ts : List Task} {t : Task} {i : Nat}

theorem FewerCalls.refl (ts : List Task) : FewerCalls ts ts :=
  ⟨fun t ht _ hid => ⟨t, ht, hid, rfl⟩, fun _ => Nat.le_refl _⟩

/-- The methods that destructors call have no handler. -/
theorem FewerCalls.destructor (ts : List Task) (j : SessionId) (pc : Pc) :
    FewerCalls ts (ts ++ [⟨.destructor j, pc⟩]) := by
  refine ⟨fun t ht id hid => ?_, fun id => ?_⟩
  · rcases List.mem_append.1 ht with ht | ht
    · exact ⟨t, ht, hid, rfl⟩
    · rw [List.mem_singleton] at ht
      subst ht
      cases hid
  · rw [List.countP_append]
    exact Nat.le_refl _

theorem FewerCalls.proceed (ht : ts[i]? = some t) {next : Option Task}
    (hnext : ∀ t', next = some t' → t'.caller = t.caller ∧ t'.pc.call = t.pc.call) :
    FewerCalls ts (proceed ts i next) := by
  obtain ⟨left, right, rfl, hproceed⟩ := proceed_split ht
  have hmem : t ∈ left ++ t :: right := List.mem_append_right _ List.mem_cons_self
  rw [hproceed next]
  cases next with
  | none =>
    have hsub : (left ++ (none : Option Task).toList ++ right).Sublist (left ++ t :: right) := by
      rw [Option.toList_none, List.append_nil]
      exact (List.sublist_cons_self t right).append_left left
    exact ⟨fun x hx id hid => ⟨x, hsub.subset hx, hid, rfl⟩, fun id => hsub.countP_le⟩
  | some t' =>
    obtain ⟨hcaller, hcall⟩ := hnext t' rfl
    refine ⟨fun x hx id hid => ?_, fun id => ?_⟩
    · simp only [Option.toList_some, List.mem_append, List.mem_singleton] at hx
      rcases hx with (hx | rfl) | hx
      · exact ⟨x, List.mem_append_left _ hx, hid, rfl⟩
      · exact ⟨t, hmem, hcaller.symm.trans hid, hcall.symm⟩
      · exact ⟨x, List.mem_append_right _ (List.mem_cons_of_mem _ hx), hid, rfl⟩
    · have hsame : t'.handles id ↔ t.handles id := by
        unfold Task.handles
        rw [hcaller]
      simp only [Option.toList_some, List.append_assoc, List.countP_append, List.countP_cons,
        List.countP_nil, hsame]
      omega

/-- The only method of a handler has returned. -/
theorem noTask_of_returned {id : SessionId} (ht : ts[i]? = some t) (hid : t.handles id)
    (honce : ts.countP (Task.handles · id) ≤ 1) : ∀ x ∈ proceed ts i none, ¬x.handles id := by
  obtain ⟨left, right, rfl, hproceed⟩ := proceed_split ht
  rw [hproceed none, Option.toList_none, List.append_nil]
  intro x hx hxid
  have hpos : 0 < (left ++ right).countP (Task.handles · id) :=
    List.countP_pos_iff.2 ⟨x, hx, decide_eq_true hxid⟩
  simp only [List.countP_append, List.countP_cons, hid, decide_true, ↓reduceIte] at honce hpos
  omega

end Calls

/-- A method that suspends goes on with its call. -/
theorem Suspends.call {c c' : StreamController} {pc pc' : Pc} (h : Suspends c pc c' pc') :
    pc'.call = pc.call := by
  cases h with
  | stopping => rfl
  | waiting => rfl
  | loading filename session => rfl

namespace Handled

section Updates

variable {P : Platform} {api : Api} {s s' : Server} {id : SessionId}

theorem init : Handled P api {} := ⟨fun _ => rfl, nofun, fun _ => Nat.zero_le _, nofun⟩

theorem noTask (h : Handled P api s) (hfree : (s.sessions id).Free) :
    ∀ t ∈ s.stream.tasks, ¬t.handles id := by
  intro t ht hid
  obtain ⟨reply, hreader⟩ := h.task t ht id hid
  exact hfree _ _ hreader

/-- A step that begins no call. -/
theorem of_fewer (h : Handled P api s) (hcalls : FewerCalls s.stream.tasks s'.stream.tasks)
    (hs : ∀ id, StillAwaits s s' id ∨ AwaitsNothing s s' id) : Handled P api s' := by
  refine ⟨fun id => ?_, fun t' ht' id hid => ?_, fun id => ?_, fun id call reply hreader => ?_⟩
  · rcases hs id with hsame | hnone
    · exact hsame.same.sessionId.trans (h.sessionId id)
    · exact hnone.sessionId.trans (h.sessionId id)
  · rcases hs id with hsame | hnone
    · obtain ⟨t, ht, hidt, hcall⟩ := hcalls.mem t' ht' id hid
      rw [hsame.same.reader, ← hcall]
      exact h.task t ht id hidt
    · exact absurd hid (hnone.noTask t' ht')
  · exact Nat.le_trans (hcalls.count id) (h.once id)
  · rcases hs id with hsame | hnone
    · rw [hsame.same.reader] at hreader
      obtain ⟨text, c, hlast, hc, hawaited⟩ := (h.message id call reply hreader).command
      refine ⟨text, c, ?_, ?_, hawaited⟩
      · rw [hsame.last, hlast]
      · rw [hsame.same.isController, hc]
    · exact absurd hreader (hnone.free call reply)

/-- The message handler of the session begins a call. -/
theorem of_awaits (h : Handled P api s) {text : Bytes} {c : Command} {call : Call} {reply : Bytes}
    (hfree : (s.sessions id).Free) (hc : decode P api (s.sessions id).isController text = .ok c)
    (hawaited : c.awaited (s.sessions id).sessionId = some (call, reply))
    (hsessions : s'.sessions = Function.update s.sessions id
      { s.sessions id with reader := .calling call reply })
    (htasks : s'.stream.tasks = s.stream.tasks ++ [⟨.handler id, .dispatch call⟩])
    (hlast : lastMessage s'.trace id = some text)
    (hother : ∀ j, j ≠ id → lastMessage s'.trace j = lastMessage s.trace j) : Handled P api s' := by
  have hself : s'.sessions id = { s.sessions id with reader := .calling call reply } := by
    rw [hsessions, Function.update_self]
  have hsame : ∀ j, j ≠ id → s'.sessions j = s.sessions j := by
    intro j hj
    rw [hsessions, Function.update_of_ne hj]
  have hno := h.noTask hfree
  refine ⟨fun j => ?_, fun t ht j hj => ?_, fun j => ?_, fun j call' reply' hreader => ?_⟩
  · by_cases hid : j = id
    · subst hid
      rw [hself]
      exact h.sessionId j
    · rw [hsame j hid]
      exact h.sessionId j
  · rw [htasks] at ht
    rcases List.mem_append.1 ht with hold | hnew
    · have hid : j ≠ id := by
        rintro rfl
        exact hno t hold hj
      rw [hsame j hid]
      exact h.task t hold j hj
    · rw [List.mem_singleton] at hnew
      subst hnew
      cases hj
      rw [hself]
      exact ⟨reply, rfl⟩
  · rw [htasks, List.countP_append, List.countP_singleton]
    by_cases hid : id = j
    · subst hid
      have hzero : s.stream.tasks.countP (Task.handles · id) = 0 :=
        List.countP_eq_zero.2 fun t ht => by simpa using hno t ht
      rw [hzero]
      split <;> omega
    · have hnot : ¬Task.handles ⟨.handler id, .dispatch call⟩ j := by
        intro heq
        cases heq
        exact hid rfl
      simp only [hnot, decide_false, Bool.false_eq_true, ↓reduceIte, Nat.add_zero]
      exact h.once j
  · by_cases hid : j = id
    · subst hid
      rw [hself] at hreader
      cases hreader
      refine ⟨text, c, hlast, ?_, ?_⟩
      · rw [hself]
        exact hc
      · rw [← h.sessionId j]
        exact hawaited
    · rw [hsame j hid] at hreader
      obtain ⟨text', c', hlast', hc', hawaited'⟩ := (h.message j call' reply' hreader).command
      refine ⟨text', c', ?_, ?_, hawaited'⟩
      · rw [hother j hid, hlast']
      · rw [hsame j hid, hc']

end Updates

end Handled

/-! ## Every step -/

section Steps

variable {P : Platform} {api : Api} {s s' : Server} {id : SessionId}

theorem SameHandler.refl (s : Session) : SameHandler s s := ⟨rfl, rfl, rfl, rfl⟩

theorem sendAll_handler (sends : List (SessionId × Message)) (s : Server) :
    SameHandler (s.sessions id) ((s.sendAll sends).sessions id) := by
  obtain ⟨ms, heq, -⟩ := Server.sendAll_posts sends id s
  rw [heq]
  exact ⟨rfl, rfl, rfl, rfl⟩

theorem StillAwaits.refl (s : Server) (id : SessionId) : StillAwaits s s id := ⟨.refl _, rfl⟩

theorem sent_stillAwaits (stream : StreamSystem) (sends : List (SessionId × Message)) :
    StillAwaits s ((s.setStream stream).sendAll sends) id :=
  ⟨sendAll_handler sends (s.setStream stream), sendAll_lastMessage sends (s.setStream stream)⟩

theorem requestAll_tasks (j : SessionId) (clock : Clock) {rs : List Request} :
    ∀ {s : Server}, (∀ call, .call call ∉ rs) →
      (s.requestAll j clock rs).stream.tasks = s.stream.tasks := by
  induction rs with
  | nil => exact fun _ => rfl
  | cons r rs ih =>
    intro s hno
    have hone : (s.request j clock r).stream.tasks = s.stream.tasks := by
      cases r with
      | call c => exact absurd List.mem_cons_self (hno c)
      | _ => rfl
    exact (ih fun call hmem => hno call (List.mem_cons_of_mem _ hmem)).trans hone

/-- Sending and the other parts of the stream leave the handlers alone. -/
theorem Handled.sendAll (h : Handled P api s) {stream : StreamSystem}
    (htasks : stream.tasks = s.stream.tasks) (sends : List (SessionId × Message)) :
    Handled P api ((s.setStream stream).sendAll sends) := by
  refine h.of_fewer ?_ fun id => Or.inl (sent_stillAwaits stream sends)
  rw [Server.sendAll_stream]
  exact htasks ▸ FewerCalls.refl _

theorem Handled.session (h : Handled P api s) {j : SessionId} {e : SessionEvent} {clock : Clock}
    {σ : Session} {rs : List Request} (hstep : (s.sessions j).step P api e = some (σ, rs))
    (hexternal : s.external e = true) :
    Handled P api (((s.note j e).setSession j σ).requestAll j clock rs) := by
  have hid := step_sessionId hstep
  have hnoted : ∀ id, j ≠ id → lastMessage
      (((s.note j e).setSession j σ).requestAll j clock rs).trace id = lastMessage s.trace id :=
    fun id hne => (requestAll_lastMessage j clock rs _).trans (note_lastMessage s j (Or.inl hne))
  have hother : ∀ id, j ≠ id → StillAwaits s
      (((s.note j e).setSession j σ).requestAll j clock rs) id := by
    intro id hne
    refine ⟨?_, hnoted id hne⟩
    rw [Server.requestAll_sessions, Server.setSession_other hne.symm, Server.note_sessions]
    exact .refl _
  have hself : (((s.note j e).setSession j σ).requestAll j clock rs).sessions j = σ := by
    rw [Server.requestAll_sessions, Server.setSession_self]
  cases readerStep_of_step hstep with
  | stays reader isAuthenticated isController other requests =>
    subst requests
    refine h.of_fewer ?_ fun id => ?_
    · simp only [Server.requestAll, List.foldl_nil, Server.setSession_stream, Server.note_stream]
      exact .refl _
    · by_cases hne : j = id
      · subst hne
        refine Or.inl ⟨?_, note_lastMessage s j (Or.inr other)⟩
        rw [hself]
        exact ⟨reader, isAuthenticated, isController, hid⟩
      · exact Or.inl (hother id hne)
  | free before after requests done =>
    have htasks : (((s.note j e).setSession j σ).requestAll j clock rs).stream.tasks =
        s.stream.tasks := by
      rw [requestAll_tasks j clock requests, Server.setSession_stream, Server.note_stream]
    refine h.of_fewer (htasks ▸ .refl _) fun id => ?_
    by_cases hne : j = id
    · subst hne
      refine Or.inr ⟨?_, ?_, ?_⟩
      · rw [hself]
        exact after
      · rw [htasks]
        exact h.noTask before
      · rw [hself]
        exact hid
    · exact Or.inl (hother id hne)
  | awaits text isStreaming c call reply event before decoded awaited self requests =>
    subst event requests self
    refine h.of_awaits before decoded awaited ?_ ?_ ?_ ?_
    · rw [Server.requestAll_sessions, Server.setSession, Server.note_sessions]
    · simp only [Server.requestAll, List.foldl_cons, List.foldl_nil, Server.request,
        Server.invoke_stream, Server.setSession_stream, Server.note_stream]
      rfl
    · exact (requestAll_lastMessage j clock _ _).trans (lastMessage_received s.trace text)
    · exact fun id hne => hnoted id hne.symm
  | returned result event =>
    subst event
    cases hexternal

/-- What a segment of a method leaves of its handler. -/
theorem methodSegment_cases {i : Nat} {camera : CameraEnv} {content : Option Bytes}
    (hs : s.methodSegment P api i camera content = some s') : ∃ stream t,
    s.stream.tasks[i]? = some t ∧
    s.stream.segment P i ⟨camera, content, s.alive⟩ =
      some (stream, t, t.pc.run P s.stream.controller ⟨camera, content, s.alive⟩) ∧
    stream.tasks = proceed s.stream.tasks i
      (t.after (t.pc.run P s.stream.controller ⟨camera, content, s.alive⟩).next) ∧
    stream.controller = (t.pc.run P s.stream.controller ⟨camera, content, s.alive⟩).self ∧
    s' = match (t.pc.run P s.stream.controller ⟨camera, content, s.alive⟩).next with
      | .inl _ => (s.setStream stream).sendAll
        (t.pc.run P s.stream.controller ⟨camera, content, s.alive⟩).sends
      | .inr result => ((s.setStream stream).sendAll
        (t.pc.run P s.stream.controller ⟨camera, content, s.alive⟩).sends).resume P api t.caller
          result := by
  obtain ⟨⟨stream, t, g⟩, hseg, rfl⟩ := Option.map_eq_some_iff.1 hs
  obtain ⟨ht, rfl, hstream⟩ := segment_eq hseg
  refine ⟨stream, t, ht, hseg, ?_, ?_, rfl⟩
  · rw [hstream]
  · rw [hstream]

/-- The return of an awaited method. -/
theorem resume_handler {call : Call} {reply : Bytes} (result : Except Exn Unit)
    (hreader : (s.sessions id).reader = .calling call reply) :
    s.resume P api (.handler id) result =
      s.setSession id ((s.sessions id).returned reply result) := by
  simp only [Server.resume, Session.step, hreader]

theorem resume_other {caller : Caller} {result : Except Exn Unit} (h : caller ≠ .handler id) :
    (s.resume P api caller result).sessions id = s.sessions id := by
  unfold Server.resume
  split
  · rfl
  · next j =>
    have hj : id ≠ j := by
      rintro rfl
      exact h rfl
    split
    · exact Server.setSession_other hj _
    · rfl

/-- What a segment of the method `t` is for a session. -/
inductive Hears (s s' : Server) (t : Task) (next : Pc ⊕ Except Exn Unit) (id : SessionId) : Prop
  /-- At most frames are sent to it. -/
  | nothing (still : StillAwaits s s' id) (suspended : t.handles id → ∃ pc, next = .inl pc)
  /-- The method it has awaited returns. -/
  | returned (handles : t.handles id) (result : Except Exn Unit) (reply : Bytes) (σ : Session)
      (next : next = .inr result) (reader : (s.sessions id).reader = .calling t.pc.call reply)
      (same : SameHandler (s.sessions id) σ) (self : s'.sessions id = σ.returned reply result)
      (last : lastMessage s'.trace id = lastMessage s.trace id)

theorem hears_of_methodSegment (h : Handled P api s) {i : Nat} {camera : CameraEnv}
    {content : Option Bytes} (hs : s.methodSegment P api i camera content = some s') {t : Task}
    (ht : s.stream.tasks[i]? = some t) (id : SessionId) :
    Hears s s' t (t.pc.run P s.stream.controller ⟨camera, content, s.alive⟩).next id := by
  obtain ⟨stream, t', ht', -, -, -, rfl⟩ := methodSegment_cases hs
  obtain rfl := Option.some.inj (ht.symm.trans ht')
  have hsent : StillAwaits s ((s.setStream stream).sendAll
    (t.pc.run P s.stream.controller ⟨camera, content, s.alive⟩).sends) id := sent_stillAwaits _ _
  cases hn : (t.pc.run P s.stream.controller ⟨camera, content, s.alive⟩).next with
  | inl pc => exact .nothing hsent fun _ => ⟨pc, rfl⟩
  | inr result =>
    have hlast : lastMessage ((((s.setStream stream).sendAll (t.pc.run P s.stream.controller
        ⟨camera, content, s.alive⟩).sends).resume P api t.caller result).trace) id =
          lastMessage s.trace id := by
      rw [Server.resume_trace]
      exact hsent.last
    by_cases hid : t.handles id
    · obtain ⟨reply, hreader⟩ := h.task t (List.mem_of_getElem? ht) id hid
      refine .returned hid result reply _ rfl hreader hsent.same ?_ hlast
      simp only
      rw [show t.caller = .handler id from hid,
        resume_handler result (hsent.same.reader.trans hreader), Server.setSession_self]
    · refine .nothing ⟨?_, hlast⟩ fun hself => absurd hself hid
      simp only
      rw [resume_other hid]
      exact hsent.same

/-- A session hears nothing, and keeps its flags, while a method runs. -/
theorem methodSegment_heard (h : Handled P api s) {i : Nat} {camera : CameraEnv}
    {content : Option Bytes} (hs : s.methodSegment P api i camera content = some s')
    (id : SessionId) : lastMessage s'.trace id = lastMessage s.trace id ∧
      (s'.sessions id).isAuthenticated = (s.sessions id).isAuthenticated ∧
      (s'.sessions id).isController = (s.sessions id).isController := by
  obtain ⟨stream, t, ht, -⟩ := methodSegment_cases hs
  cases hears_of_methodSegment h hs ht id with
  | nothing still suspended => exact ⟨still.last, still.same.isAuthenticated, still.same.isController⟩
  | returned handles result reply σ next reader same self last =>
    rw [self]
    cases result with
    | ok u => exact ⟨last, same.isAuthenticated, same.isController⟩
    | error e => exact ⟨last, same.isAuthenticated, same.isController⟩

theorem Handled.segment (h : Handled P api s) {i : Nat} {camera : CameraEnv}
    {content : Option Bytes} (hs : s.methodSegment P api i camera content = some s') :
    Handled P api s' := by
  obtain ⟨stream, t, ht, -, htasks, -, heq⟩ := methodSegment_cases hs
  have hstream : s'.stream.tasks = proceed s.stream.tasks i
      (t.after (t.pc.run P s.stream.controller ⟨camera, content, s.alive⟩).next) := by
    rw [heq, ← htasks]
    split
    · rw [Server.sendAll_stream]
      rfl
    · rw [Server.resume_stream, Server.sendAll_stream]
      rfl
  refine h.of_fewer ?_ fun id => ?_
  · rw [hstream]
    refine FewerCalls.proceed ht fun t' ht' => ?_
    cases hn : (t.pc.run P s.stream.controller ⟨camera, content, s.alive⟩).next with
    | inl pc =>
      rw [hn] at ht'
      cases ht'
      exact ⟨rfl, (Pc.run_suspends hn).call⟩
    | inr result =>
      rw [hn] at ht'
      cases ht'
  · cases hears_of_methodSegment h hs ht id with
    | nothing still suspended => exact Or.inl still
    | returned handles result reply σ next reader same self last =>
      refine Or.inr ⟨?_, ?_, ?_⟩
      · rw [self]
        exact free_of_not_handling (returned_not_handling reply result)
      · rw [hstream, next]
        exact noTask_of_returned ht handles (h.once id)
      · rw [self]
        cases result with
        | ok u => exact same.sessionId
        | error e => exact same.sessionId

theorem Handled.destroy (h : Handled P api s) (j : SessionId) : Handled P api (s.destroy j) := by
  refine h.of_fewer ?_ fun id => Or.inl ⟨?_, destroy_lastMessage s j⟩
  · rcases Server.destroy_stream s j with hstream | ⟨call, hstream⟩
    · rw [hstream]
      exact .refl _
    · rw [hstream]
      exact .destructor _ j _
  · obtain ⟨isOpen, heq⟩ := Server.destroy_isOpen s j id
    rw [heq]
    exact ⟨rfl, rfl, rfl, rfl⟩

theorem Handled.step {e : ServerEvent P} (h : Handled P api s)
    (hs : (server P api).step s e = some s') : Handled P api s' := by
  cases serverStep_of_step hs with
  | connect => exact h.of_fewer (.refl _) fun id => Or.inl ⟨.refl _, rfl⟩
  | session j e clock σ rs _ hstep => exact h.session hstep (external_of_step hs)
  | segment i camera content _ hseg => exact h.segment hseg
  | loop i capture stream sends hloop =>
    obtain ⟨pc, c, next, -, -, hstream⟩ := loop_eq hloop
    refine h.sendAll ?_ sends
    rw [hstream]
  | runAddViewer stream hadd =>
    obtain ⟨v, vs, -, hstream⟩ := runAddViewer_eq hadd
    refine h.sendAll ?_ []
    rw [hstream]
  | playbackExpire stream hexp =>
    obtain ⟨p, hstream⟩ := playbackExpire_eq hexp
    refine h.sendAll ?_ []
    rw [hstream]
  | playbackHandler k stream sends hk =>
    obtain ⟨o, hstream, -⟩ := playbackHandler_eq hk
    refine h.sendAll ?_ sends
    rw [hstream]
  | destroy j => exact h.destroy j

/-- Where a suspended method comes from: it was there before, with the same call, or a message or a
destructor has just called it. -/
inductive TaskOrigin (s : Server) (t' : Task) : Prop
  | before (t : Task) (task : t ∈ s.stream.tasks) (caller : t.caller = t'.caller)
      (call : t.pc.call = t'.pc.call)
  | message (id : SessionId) (call : Call) (task : t' = ⟨.handler id, .dispatch call⟩)
  | destructor (id : SessionId) (call : Call) (task : t' = ⟨.destructor id, .dispatch call⟩)
      (calls : call = .stopStreaming ∨ call = .removeViewerById id)

theorem TaskOrigin.same {t : Task} (ht : t ∈ s.stream.tasks) : TaskOrigin s t :=
  .before t ht rfl rfl

theorem mem_requestAll_tasks (j : SessionId) (clock : Clock) {t' : Task} (rs : List Request) :
    ∀ s : Server, t' ∈ (s.requestAll j clock rs).stream.tasks →
      t' ∈ s.stream.tasks ∨ ∃ call, t' = ⟨.handler j, .dispatch call⟩ := by
  induction rs with
  | nil => exact fun s ht' => Or.inl ht'
  | cons r rs ih =>
    intro s ht'
    rcases ih (s.request j clock r) ht' with ht | hnew
    · cases r with
      | call c =>
        simp only [Server.request, Server.invoke_stream] at ht
        rcases List.mem_append.1 ht with ht | ht
        · exact Or.inl ht
        · exact Or.inr ⟨c, List.mem_singleton.1 ht⟩
      | _ => exact Or.inl ht
    · exact Or.inr hnew

theorem methodSegment_task_origin {i : Nat} {camera : CameraEnv} {content : Option Bytes}
    (hs : s.methodSegment P api i camera content = some s') {t' : Task}
    (ht' : t' ∈ s'.stream.tasks) : TaskOrigin s t' := by
  obtain ⟨t, g, hseg⟩ := Server.methodSegment_stream hs
  obtain ⟨ht, rfl, hstream⟩ := segment_eq hseg
  rw [hstream] at ht'
  rcases mem_of_mem_proceed ht' with hmem | hnext
  · exact .same hmem
  · cases hn : (t.pc.run P s.stream.controller ⟨camera, content, s.alive⟩).next with
    | inl pc =>
      rw [hn] at hnext
      cases hnext
      exact .before t (List.mem_of_getElem? ht) rfl (Pc.run_suspends hn).call.symm
    | inr result =>
      rw [hn] at hnext
      cases hnext

theorem destroy_task_origin {id : SessionId} {t' : Task}
    (ht' : t' ∈ (s.destroy id).stream.tasks) : TaskOrigin s t' := by
  have called : ∀ call, (call = .stopStreaming ∨ call = .removeViewerById id) →
      t' ∈ s.stream.tasks ++ [⟨.destructor id, .dispatch call⟩] → TaskOrigin s t' := by
    intro call hcall hmem
    rcases List.mem_append.1 hmem with hmem | hmem
    · exact .same hmem
    · exact .destructor id call (List.mem_singleton.1 hmem) hcall
  unfold Server.destroy at ht'
  simp only at ht'
  split at ht'
  · rw [Server.invoke_stream] at ht'
    exact called _ (Or.inl rfl) ht'
  · split at ht'
    · rw [Server.invoke_stream] at ht'
      exact called _ (Or.inr rfl) ht'
    · exact .same ht'

/-- **Where the suspended methods come from.** -/
theorem task_origin {e : ServerEvent P} (hs : (server P api).step s e = some s') {t' : Task}
    (ht' : t' ∈ s'.stream.tasks) : TaskOrigin s t' := by
  cases serverStep_of_step hs with
  | connect => exact .same ht'
  | session j e clock σ rs =>
    rcases mem_requestAll_tasks j clock rs _ ht' with ht | ⟨call, htask⟩
    · rw [Server.setSession_stream, Server.note_stream] at ht
      exact .same ht
    · exact .message j call htask
  | segment i camera content _ hseg => exact methodSegment_task_origin hseg ht'
  | loop i capture stream sends hloop =>
    obtain ⟨pc, c, next, -, -, rfl⟩ := loop_eq hloop
    rw [Server.sendAll_stream] at ht'
    exact .same ht'
  | runAddViewer stream hadd =>
    obtain ⟨v, vs, -, rfl⟩ := runAddViewer_eq hadd
    exact .same ht'
  | playbackExpire stream hexp =>
    obtain ⟨p, rfl⟩ := playbackExpire_eq hexp
    exact .same ht'
  | playbackHandler k stream sends hk =>
    obtain ⟨o, rfl, -⟩ := playbackHandler_eq hk
    rw [Server.sendAll_stream] at ht'
    exact .same ht'
  | destroy j => exact destroy_task_origin ht'

/-- Destructors call nothing but `stop_streaming` and `remove_viewer_by_id`. -/
def DestructorCalls (s : Server) : Prop :=
  ∀ t ∈ s.stream.tasks, ∀ id, t.caller = .destructor id →
    t.pc.call = .stopStreaming ∨ t.pc.call = .removeViewerById id

theorem DestructorCalls.step {e : ServerEvent P} (h : DestructorCalls s)
    (hs : (server P api).step s e = some s') : DestructorCalls s' := by
  intro t' ht' id hcaller
  cases task_origin hs ht' with
  | before t task caller call =>
    rw [← call]
    exact h t task id (caller.trans hcaller)
  | message j call task =>
    rw [task] at hcaller
    cases hcaller
  | destructor j call task calls =>
    rw [task] at hcaller
    cases hcaller
    rw [task]
    exact calls

/-- Every other method belongs to a message handler. -/
theorem DestructorCalls.handled (h : DestructorCalls s) {t : Task} (ht : t ∈ s.stream.tasks)
    (hstop : t.pc.call ≠ .stopStreaming) (hremove : ∀ id, t.pc.call ≠ .removeViewerById id) :
    ∃ id, t.handles id := by
  cases hcaller : t.caller with
  | handler id => exact ⟨id, hcaller⟩
  | destructor id =>
    rcases h t ht id hcaller with hcall | hcall
    · exact absurd hcall hstop
    · exact absurd hcall (hremove id)

end Steps

/-! ## Replies -/

/-- In this step the session is sent the reply. -/
def Replied (s s' : Server) (id : SessionId) (text : Bytes) : Prop :=
  ∃ ms, (s'.sessions id).posted = (s.sessions id).posted ++ ms ∧ .reply text ∈ ms

/-- Which segment of the message handler of a session gives a reply. -/
inductive ReplyStep {P : Platform} (api : Api) (s : Server) (e : ServerEvent P) (s' : Server)
    (id : SessionId) (text : Bytes) : Prop
  /-- The handler has awaited nothing. -/
  | atOnce (message : Bytes) (isStreaming : Bool) (clock : Clock)
      (event : e = .session id (.message message isStreaming) clock)
      (reply : text ∈ (s.sessions id).messageReplies P api message isStreaming)
  /-- The direct write of `AUTH_FAILED` has failed. -/
  | unwritten (err : Exn) (clock : Clock)
      (event : e = .session id (.authFailedWritten (.error err)) clock) (reply : text = errorText err)
  /-- The awaited method has returned. -/
  | later (i : Nat) (camera : CameraEnv) (content : Option Bytes) (t : Task) (expected : Bytes)
      (result : Except Exn Unit) (event : e = .segment i camera content)
      (task : s.stream.tasks[i]? = some t) (handles : t.handles id)
      (next : (t.pc.run P s.stream.controller ⟨camera, content, s.alive⟩).next = .inr result)
      (reader : (s.sessions id).reader = .calling t.pc.call expected)
      (controller : s'.stream.controller =
        (t.pc.run P s.stream.controller ⟨camera, content, s.alive⟩).self)
      (reply : text = answer expected result)

section Replying

variable {P : Platform} {api : Api} {s s' : Server} {e : ServerEvent P} {id : SessionId}
  {text : Bytes}

/-- A step that posts nothing but frames gives no reply. -/
theorem not_replied {ms : List Message}
    (h : (s'.sessions id).posted = (s.sessions id).posted ++ ms) (hms : .reply text ∉ ms) :
    ¬Replied s s' id text := by
  rintro ⟨ms', h', hmem⟩
  rw [h] at h'
  exact hms (List.append_cancel_left h' ▸ hmem)

theorem sendAll_posted (id : SessionId) (sends : List (SessionId × Message)) (s : Server) :
    ∃ ms, ((s.sendAll sends).sessions id).posted = (s.sessions id).posted ++ ms ∧
      ∀ m ∈ ms, (id, m) ∈ sends := by
  obtain ⟨ms, heq, hfrom⟩ := Server.sendAll_posts sends id s
  exact ⟨ms, congrArg Session.posted heq, hfrom⟩

theorem run_sends_replies {env : Env} {c : StreamController} (pc : Pc) :
    ∀ x ∈ (pc.run P c env).sends, ∀ text, x.2 ≠ .reply text := by
  intro x hx text heq
  obtain ⟨frame, hframe⟩ := Pc.run_sends hx
  rw [hframe] at heq
  cases heq

/-- The reply to the return of an awaited method, and the frames before it. -/
theorem replied_of_returned (h : Handled P api s) {i : Nat} {camera : CameraEnv}
    {content : Option Bytes} (hs : s.methodSegment P api i camera content = some s') {t : Task}
    (ht : s.stream.tasks[i]? = some t) (hid : t.handles id) {result : Except Exn Unit}
    (hn : (t.pc.run P s.stream.controller ⟨camera, content, s.alive⟩).next = .inr result) :
    ∃ expected ms, (s.sessions id).reader = .calling t.pc.call expected ∧
      (s'.sessions id).posted =
        (s.sessions id).posted ++ (ms ++ [.reply (answer expected result)]) ∧
      (∀ m ∈ ms, (id, m) ∈ (t.pc.run P s.stream.controller ⟨camera, content, s.alive⟩).sends) ∧
      s'.stream.controller = (t.pc.run P s.stream.controller ⟨camera, content, s.alive⟩).self := by
  obtain ⟨stream, t', ht', -, -, hcontroller, rfl⟩ := methodSegment_cases hs
  obtain rfl := Option.some.inj (ht.symm.trans ht')
  obtain ⟨expected, hreader⟩ := h.task t (List.mem_of_getElem? ht) id hid
  obtain ⟨ms, hms, hfrom⟩ := sendAll_posted id
    (t.pc.run P s.stream.controller ⟨camera, content, s.alive⟩).sends (s.setStream stream)
  have hreader' := (sendAll_handler (t.pc.run P s.stream.controller
    ⟨camera, content, s.alive⟩).sends (s.setStream stream)).reader.trans hreader
  refine ⟨expected, ms, hreader, ?_, hfrom, ?_⟩
  · rw [hn]
    simp only
    rw [show t.caller = .handler id from hid, resume_handler result hreader', Server.setSession_self,
      returned_posted, hms, List.append_assoc]
    rfl
  · rw [hn]
    simp only [Server.resume_stream, Server.sendAll_stream]
    exact hcontroller

/-- A segment of a session posts to no other one, and only what its message handler says. -/
theorem session_posts {j : SessionId} {e : SessionEvent} {clock : Clock} {σ : Session}
    {rs : List Request} (hstep : (s.sessions j).step P api e = some (σ, rs)) {m : Message}
    {ms : List Message} (hposted : ((((s.note j e).setSession j σ).requestAll j clock
      rs).sessions id).posted = (s.sessions id).posted ++ ms) (hmem : m ∈ ms) :
    j = id ∧ m ∈ (s.sessions id).posts P api e := by
  rw [Server.requestAll_sessions] at hposted
  by_cases h : id = j
  · subst h
    rw [Server.setSession_self] at hposted
    rcases posted_step hstep with hposts | ⟨m, hm⟩
    · rw [hposts] at hposted
      exact ⟨rfl, List.append_cancel_left hposted ▸ hmem⟩
    · -- the handler of a posted message posts none
      have hlen := congrArg List.length hposted
      rw [hm, List.length_append, List.length_cons] at hlen
      omega
  · rw [Server.setSession_other h, Server.note_sessions] at hposted
    have hnil : ms = [] := List.append_right_eq_self.1 hposted.symm
    rw [hnil] at hmem
    cases hmem

/-- Frames that are sent give no reply. -/
theorem not_replied_of_frames {stream : StreamSystem} {sends : List (SessionId × Message)}
    (h : ∀ x ∈ sends, ∀ text, x.2 ≠ .reply text) :
    ¬Replied s ((s.setStream stream).sendAll sends) id text := by
  obtain ⟨ms, hms, hfrom⟩ := sendAll_posted id sends (s.setStream stream)
  exact not_replied hms fun hmem => h _ (hfrom _ hmem) text rfl

/-- The messages and the failed write of a session. -/
theorem replyStep_of_session {j : SessionId} {e : SessionEvent} {clock : Clock} {σ : Session}
    {rs : List Request} (hexternal : s.external e = true)
    (hstep : (s.sessions j).step P api e = some (σ, rs))
    (hr : Replied s (((s.note j e).setSession j σ).requestAll j clock rs) id text) :
    ReplyStep api s (.session j e clock : ServerEvent P)
      (((s.note j e).setSession j σ).requestAll j clock rs) id text := by
  obtain ⟨ms, hposted, hmem⟩ := hr
  obtain ⟨rfl, hmem⟩ := session_posts hstep hposted hmem
  cases e with
  | message message isStreaming =>
    obtain ⟨reply, hreply, heq⟩ := List.mem_map.1 hmem
    cases heq
    exact .atOnce message isStreaming clock rfl hreply
  | authFailedWritten result =>
    cases result with
    | ok u => cases hmem
    | error err =>
      cases List.mem_singleton.1 hmem
      exact .unwritten err clock rfl rfl
  | sendFrame m => cases hexternal
  | returned result => cases hexternal
  | _ => cases hmem

/-- A segment of a method posts to a session what it sends to it, and the reply if the session has
awaited its return. -/
theorem methodSegment_posts (h : Handled P api s) {i : Nat} {camera : CameraEnv}
    {content : Option Bytes} (hs : s.methodSegment P api i camera content = some s') {t : Task}
    (ht : s.stream.tasks[i]? = some t) {m : Message} {ms : List Message}
    (hposted : (s'.sessions id).posted = (s.sessions id).posted ++ ms) (hmem : m ∈ ms) :
    (id, m) ∈ (t.pc.run P s.stream.controller ⟨camera, content, s.alive⟩).sends ∨
      ∃ expected result, t.handles id ∧
        (t.pc.run P s.stream.controller ⟨camera, content, s.alive⟩).next = .inr result ∧
        (s.sessions id).reader = .calling t.pc.call expected ∧
        s'.stream.controller = (t.pc.run P s.stream.controller ⟨camera, content, s.alive⟩).self ∧
        m = .reply (answer expected result) := by
  obtain ⟨stream, t', ht', -, -, -, heq⟩ := methodSegment_cases hs
  cases ht.symm.trans ht'
  have sent : (s'.sessions id).posted = (((s.setStream stream).sendAll
      (t.pc.run P s.stream.controller ⟨camera, content, s.alive⟩).sends).sessions id).posted →
      (id, m) ∈ (t.pc.run P s.stream.controller ⟨camera, content, s.alive⟩).sends := by
    intro hsame
    obtain ⟨ms', hms, hfrom⟩ := sendAll_posted id
      (t.pc.run P s.stream.controller ⟨camera, content, s.alive⟩).sends (s.setStream stream)
    rw [hsame, hms] at hposted
    exact hfrom m (List.append_cancel_left hposted ▸ hmem)
  cases hn : (t.pc.run P s.stream.controller ⟨camera, content, s.alive⟩).next with
  | inl pc =>
    rw [hn] at heq
    exact Or.inl (sent (by rw [heq]))
  | inr result =>
    by_cases hid : t.handles id
    · obtain ⟨expected, ms', hreader, hposted', hfrom, hcontroller⟩ :=
        replied_of_returned h hs ht hid hn
      rw [hposted'] at hposted
      rw [← List.append_cancel_left hposted] at hmem
      rcases List.mem_append.1 hmem with hmem | hmem
      · exact Or.inl (hfrom m hmem)
      · exact Or.inr ⟨expected, result, hid, rfl, hreader, hcontroller, List.mem_singleton.1 hmem⟩
    · -- the reply goes to another session
      rw [hn] at heq
      refine Or.inl (sent ?_)
      rw [heq]
      simp only
      rw [resume_other hid]

/-- A method replies when it returns, and to the session that has awaited it. -/
theorem replyStep_of_segment (h : Handled P api s) {i : Nat} {camera : CameraEnv}
    {content : Option Bytes} (hs : s.methodSegment P api i camera content = some s')
    (hr : Replied s s' id text) :
    ReplyStep api s (.segment i camera content : ServerEvent P) s' id text := by
  obtain ⟨stream, t, ht, -⟩ := methodSegment_cases hs
  obtain ⟨ms, hposted, hmem⟩ := hr
  rcases methodSegment_posts h hs ht hposted hmem with
    hsent | ⟨expected, result, hid, hn, hreader, hcontroller, heq⟩
  · exact absurd rfl (run_sends_replies t.pc _ hsent text)
  · cases heq
    exact .later i camera content t expected result rfl ht hid hn hreader hcontroller rfl

/-- **Which segment gives a reply**: that of the session's message handler which handles the
message, or in which the awaited method returns. -/
theorem replied_cases (h : Handled P api s) (hs : (server P api).step s e = some s')
    (hr : Replied s s' id text) : ReplyStep api s e s' id text := by
  have same : (s'.sessions id).posted = (s.sessions id).posted → ReplyStep api s e s' id text := by
    intro hsame
    exact absurd hr (not_replied (hsame.trans (List.append_nil _).symm) nofun)
  cases serverStep_of_step hs with
  | connect => exact same rfl
  | session j e clock σ rs _ hstep => exact replyStep_of_session (external_of_step hs) hstep hr
  | segment i camera content _ hseg => exact replyStep_of_segment h hseg hr
  | loop i capture stream sends hloop =>
    refine absurd hr (not_replied_of_frames fun x hx text hreply => ?_)
    obtain ⟨pc, c, next, -, hc, -⟩ := loop_eq hloop
    obtain ⟨frame, hframe⟩ := captureLoop_sends hc hx
    rw [hframe] at hreply
    cases hreply
  | runAddViewer stream => exact same rfl
  | playbackExpire stream => exact same rfl
  | playbackHandler k stream sends hk =>
    obtain ⟨o, -, rfl⟩ := playbackHandler_eq hk
    refine absurd hr (not_replied_of_frames fun x hx text hreply => ?_)
    obtain ⟨frame, hframe⟩ := played_sends hx
    rw [hframe] at hreply
    cases hreply
  | destroy j =>
    obtain ⟨isOpen, heq⟩ := Server.destroy_isOpen s j id
    apply same
    rw [heq]

end Replying

end AsciiStreamer
