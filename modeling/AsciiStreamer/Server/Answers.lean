import AsciiStreamer.Server.Ending
import AsciiStreamer.Server.Failures

/-!
# Every command is answered

A message handler that awaits a method of the stream controller is resumed when the method returns,
and `stop_streaming` returns only when the capture loop has ended. On a scheduler that attends to
every method and to the loop, each method gets from one place to the next, a loop that has been asked
to stop comes to its test, and the stop finds the stream off: every command that is awaited is
answered in the end (`every_command_answered`), unless streams are started over a stop that waits.
-/

namespace AsciiStreamer

open Cxx Machine

/-- The method of the session's message handler is suspended at this place. -/
def Server.Suspended (s : Server) (id : SessionId) (pc : Pc) : Prop :=
  ⟨.handler id, pc⟩ ∈ s.stream.tasks

def Server.Employs (s : Server) (id : SessionId) : Prop := ∃ pc, s.Suspended id pc

/-- The next segment of the session's method. -/
def RunsMethod {P : Platform} (id : SessionId) (s : Server) (e : ServerEvent P) : Prop :=
  ∃ i camera content pc, e = .segment i camera content ∧ s.stream.tasks[i]? = some ⟨.handler id, pc⟩

/-- The event loop attends to every method of a message handler and to a live capture loop. -/
structure Scheduled {P : Platform} {api : Api} (x : (server P api).Execution) : Prop where
  methods : ∀ id, x.Fair (·.Employs id) (RunsMethod id)
  loops : x.Fair (fun s => s.stream.loops ≠ []) RunsLoop

/-- The step starts no stream over a stop that waits. -/
def SparesStops {P : Platform} (s : Server) (e : ServerEvent P) : Prop :=
  ∀ i camera content, e = .segment i camera content →
    NoNewStream s.stream (.segment i ⟨camera, content, s.alive⟩ : StreamEvent P)

/-! ## The invariant -/

structure Answering (P : Platform) (api : Api) (s : Server) : Prop where
  handled : Handled P api s
  oneLoop : OneLoop s.stream
  stops : StopHonoured s.stream
  employed : ∀ id call reply, (s.sessions id).reader = .calling call reply → s.Employs id

section Steps

variable {P : Platform} {api : Api} {s s' : Server} {e : ServerEvent P} {id : SessionId}

/-- A session has one method under way at most. -/
theorem Handled.only (h : Handled P api s) {pc pc' : Pc} (ht : s.Suspended id pc)
    (ht' : s.Suspended id pc') : pc = pc' := by
  obtain ⟨i, hi, hget⟩ := List.mem_iff_getElem.1 ht
  have hi' : s.stream.tasks[i]? = some ⟨.handler id, pc⟩ :=
    List.getElem?_eq_some_iff.2 ⟨hi, hget⟩
  by_contra hne
  have hstays : (⟨.handler id, pc'⟩ : Task) ∈ proceed s.stream.tasks i none := by
    refine mem_proceed ht' fun heq => hne ?_
    cases hi'.symm.trans heq
    rfl
  exact noTask_of_returned hi' rfl (h.once id) _ hstays rfl

/-- A method stays where it is until its next segment. -/
theorem Server.Suspended.stays {pc : Pc} (ht : s.Suspended id pc)
    (hs : (server P api).step s e = some s') (hno : ¬RunsMethod id s e) : s'.Suspended id pc := by
  refine task_stays ht hs ?_
  rintro ⟨i, camera, content, he, hi⟩
  exact hno ⟨i, camera, content, pc, he, hi⟩

/-- The places that a method goes on to. -/
def Pc.GoesOn (pc pc' : Pc) : Prop := ∃ c c', Suspends c pc c' pc'

/-- The next segment of a method: it returns, or gets to its next place. -/
theorem Server.Suspended.runs (h : Handled P api s) {pc : Pc} (ht : s.Suspended id pc)
    (hs : (server P api).step s e = some s') (hrun : RunsMethod id s e) :
    (¬s'.Employs id ∧ ¬(s'.sessions id).Handling) ∨ ∃ pc', pc.GoesOn pc' ∧ s'.Suspended id pc' := by
  obtain ⟨i, camera, content, pc', rfl, hi⟩ := hrun
  obtain rfl : pc = pc' := h.only ht (List.mem_of_getElem? hi)
  obtain ⟨t, g, hseg⟩ := Server.methodSegment_stream (segmentOf_of_step hs)
  obtain ⟨hi', rfl, hstream⟩ := segment_eq hseg
  cases hi.symm.trans hi'
  have htasks : s'.stream.tasks = proceed s.stream.tasks i (Task.after ⟨.handler id, pc⟩
      (pc.run P s.stream.controller ⟨camera, content, s.alive⟩).next) := by rw [hstream]
  cases hn : (pc.run P s.stream.controller ⟨camera, content, s.alive⟩).next with
  | inl pc' =>
    refine Or.inr ⟨pc', ⟨_, _, Pc.run_suspends hn⟩, ?_⟩
    unfold Server.Suspended
    rw [htasks, hn]
    exact mem_proceed_self hi
  | inr result =>
    refine Or.inl ⟨?_, ?_⟩
    · rintro ⟨pc', ht'⟩
      unfold Server.Suspended at ht'
      rw [htasks, hn] at ht'
      exact noTask_of_returned hi rfl (h.once id) _ ht' rfl
    · cases hears_of_methodSegment h (segmentOf_of_step hs) hi id with
      | nothing still suspended =>
        obtain ⟨pc', heq⟩ := suspended rfl
        cases hn.symm.trans heq
      | returned handles result reply σ next reader same self last =>
        rw [self]
        exact returned_not_handling reply result

/-- A step that is no segment of a method lets none wait that has not waited. -/
theorem suspended_of_other (hs : (server P api).step s e = some s')
    (hother : ∀ i camera content, e ≠ .segment i camera content) {t : Task}
    (ht : t ∈ s'.stream.tasks) (hpc : ∀ call, t.pc ≠ .dispatch call) : t ∈ s.stream.tasks := by
  have called : ∀ {caller call}, t ∈ s.stream.tasks ++ [⟨caller, .dispatch call⟩] →
      t ∈ s.stream.tasks := by
    intro caller call hmem
    rcases List.mem_append.1 hmem with hmem | hmem
    · exact hmem
    · rw [List.mem_singleton] at hmem
      subst hmem
      exact absurd rfl (hpc call)
  cases serverStep_of_step hs with
  | connect => exact ht
  | session j e clock σ rs =>
    rcases mem_requestAll_tasks j clock rs _ ht with hmem | ⟨call, rfl⟩
    · rw [Server.setSession_stream, Server.note_stream] at hmem
      exact hmem
    · exact absurd rfl (hpc call)
  | segment i camera content => exact absurd rfl (hother i camera content)
  | loop i capture stream sends hloop =>
    obtain ⟨pc, c, next, -, -, rfl⟩ := loop_eq hloop
    rwa [Server.sendAll_stream] at ht
  | runAddViewer stream hadd =>
    obtain ⟨v, vs, -, rfl⟩ := runAddViewer_eq hadd
    exact ht
  | playbackExpire stream hexp =>
    obtain ⟨p, rfl⟩ := playbackExpire_eq hexp
    exact ht
  | playbackHandler k stream sends hk =>
    obtain ⟨o, rfl, -⟩ := playbackHandler_eq hk
    rwa [Server.sendAll_stream] at ht
  | destroy j =>
    rcases Server.destroy_stream s j with hstream | ⟨call, hstream⟩
    · rwa [hstream] at ht
    · rw [hstream] at ht
      exact called ht

theorem StopHonoured.server_step (h : StopHonoured s.stream) (hspares : SparesStops s e)
    (hs : (server P api).step s e = some s') : StopHonoured s'.stream := by
  by_cases hsegment : ∃ i camera content, e = .segment i camera content
  · obtain ⟨i, camera, content, rfl⟩ := hsegment
    exact (stopHonoured_step h (segment_stream hs)).2 (hspares i camera content rfl)
  · have hother : ∀ i camera content, e ≠ .segment i camera content :=
      fun i camera content he => hsegment ⟨i, camera, content, he⟩
    rintro ⟨t, ht, hpc⟩
    have hpolling : ∀ call, t.pc ≠ .dispatch call := by
      intro call
      rw [hpc]
      exact nofun
    rcases (runsNoMethod_of_step hs hother).stream with hoff | hsame
    · exact Or.inl hoff
    · rw [hsame.isStreaming, hsame.stopRequested]
      exact h ⟨t, suspended_of_other hs hother ht hpolling, hpc⟩

/-- A handler that waits after a message has just called the method it waits for. -/
theorem employed_of_message {text : Bytes} {isStreaming : Bool} {clock : Clock}
    (hs : (server P api).step s (.session id (.message text isStreaming) clock) = some s')
    {call : Call} {reply : Bytes} (hcall : (s'.sessions id).reader = .calling call reply) :
    s'.Employs id := by
  cases serverStep_of_step hs with
  | session j e clock σ rs _ hstep =>
    rw [Server.requestAll_sessions, Server.setSession_self] at hcall
    cases readerStep_of_step hstep with
    | stays reader isAuthenticated isController other => exact absurd rfl (other text isStreaming)
    | free before after => exact absurd hcall (after call reply)
    | awaits text isStreaming c call reply event before decoded awaited self requests =>
      refine ⟨.dispatch call, ?_⟩
      unfold Server.Suspended
      rw [requests]
      simp only [Server.requestAll, List.foldl_cons, List.foldl_nil, Server.request,
        Server.invoke_stream]
      exact List.mem_append_right _ (List.mem_singleton_self _)
    | returned result event => cases event

theorem Answering.employed_step (h : Answering P api s) (hs : (server P api).step s e = some s')
    {call : Call} {reply : Bytes} (hcall : (s'.sessions id).reader = .calling call reply) :
    s'.Employs id := by
  by_cases hmessage : ∃ text isStreaming clock, e = .session id (.message text isStreaming) clock
  · obtain ⟨text, isStreaming, clock, rfl⟩ := hmessage
    exact employed_of_message hs hcall
  · have hno : NoMessage id e := fun text isStreaming clock he =>
      hmessage ⟨text, isStreaming, clock, he⟩
    have hstill := stillAwaits_step h.handled hs hno (Or.inr ⟨call, reply, hcall⟩)
    obtain ⟨pc, ht⟩ := h.employed id call reply (hstill.same.reader ▸ hcall)
    by_cases hrun : RunsMethod id s e
    · rcases ht.runs h.handled hs hrun with ⟨-, hdone⟩ | ⟨pc', -, ht'⟩
      · exact absurd (Or.inr ⟨call, reply, hcall⟩) hdone
      · exact ⟨pc', ht'⟩
    · exact ⟨pc, ht.stays hs hrun⟩

theorem Answering.init : Answering P api {} :=
  ⟨.init, ⟨rfl, nofun, nofun⟩, fun ⟨_, ht, _⟩ => absurd ht List.not_mem_nil, nofun⟩

theorem Answering.step (h : Answering P api s) (hspares : SparesStops s e)
    (hs : (server P api).step s e = some s') : Answering P api s' :=
  ⟨h.handled.step hs, h.oneLoop.server_step hs, h.stops.server_step hspares hs,
    fun _ _ _ hcall => h.employed_step hs hcall⟩

/-! ## While a stop waits for the loop -/

/-- The method waits in the loop of `stop_streaming`, and the stream is still on. -/
structure AwaitsLoop (id : SessionId) (s : Server) : Prop where
  suspended : s.Suspended id .polling
  streaming : s.stream.controller.isStreaming = true

/-- The stream is off, and the method has not seen it. -/
structure LoopEnded (id : SessionId) (s : Server) : Prop where
  suspended : s.Suspended id .polling
  off : s.stream.controller.isStreaming = false

theorem AwaitsLoop.stopping (hw : AwaitsLoop id s) (h : Answering P api s) : Stopping s := by
  refine ⟨hw.streaming, ?_⟩
  rcases h.stops ⟨_, hw.suspended, rfl⟩ with hoff | hreq
  · cases hw.streaming.symm.trans hoff
  · exact hreq

/-- The next segment of the method goes on waiting. -/
theorem AwaitsLoop.polls (hw : AwaitsLoop id s) (h : Handled P api s)
    (hs : (server P api).step s e = some s') (hrun : RunsMethod id s e) :
    s'.Suspended id .polling := by
  obtain ⟨i, camera, content, pc, rfl, hi⟩ := hrun
  obtain rfl : .polling = pc := h.only hw.suspended (List.mem_of_getElem? hi)
  obtain ⟨t, g, hseg⟩ := Server.methodSegment_stream (segmentOf_of_step hs)
  obtain ⟨hi', rfl, hstream⟩ := segment_eq hseg
  cases hi.symm.trans hi'
  unfold Server.Suspended
  rw [hstream]
  simp only [Pc.run, StreamController.poll, hw.streaming, ↓reduceIte, Task.after]
  exact mem_proceed_self hi

/-- A segment of the loop: it ends, or it has one less before it. -/
theorem AwaitsLoop.loop (hw : AwaitsLoop id s) (h : Answering P api s)
    (hs : (server P api).step s e = some s') (hrun : RunsLoop s e) :
    LoopEnded id s' ∨ AwaitsLoop id s' ∧ s'.remaining < s.remaining := by
  have ht : s'.Suspended id .polling := by
    refine hw.suspended.stays hs ?_
    rintro ⟨i, camera, content, pc, rfl, -⟩
    obtain ⟨j, capture, heq⟩ := hrun
    cases heq
  rcases (hw.stopping h).loop h.oneLoop hs hrun with hoff | ⟨hstop, hlt⟩
  · exact Or.inl ⟨ht, hoff⟩
  · exact Or.inr ⟨⟨ht, hstop.streaming⟩, hlt⟩

/-- Another step leaves the loop where it is. -/
theorem AwaitsLoop.other (hw : AwaitsLoop id s) (h : Answering P api s)
    (hs : (server P api).step s e = some s') (hno : ¬RunsLoop s e) :
    AwaitsLoop id s' ∧ s'.remaining = s.remaining := by
  obtain ⟨hstop, heq⟩ := (hw.stopping h).other h.oneLoop hs hno
  refine ⟨⟨?_, hstop.streaming⟩, heq⟩
  by_cases hrun : RunsMethod id s e
  · exact hw.polls h.handled hs hrun
  · exact hw.suspended.stays hs hrun

/-- A stop that finds the stream off returns. -/
theorem LoopEnded.runs (hw : LoopEnded id s) (h : Handled P api s)
    (hs : (server P api).step s e = some s') (hrun : RunsMethod id s e) : ¬s'.Employs id := by
  obtain ⟨i, camera, content, pc, rfl, hi⟩ := hrun
  obtain rfl : .polling = pc := h.only hw.suspended (List.mem_of_getElem? hi)
  obtain ⟨t, g, hseg⟩ := Server.methodSegment_stream (segmentOf_of_step hs)
  obtain ⟨hi', rfl, hstream⟩ := segment_eq hseg
  cases hi.symm.trans hi'
  rintro ⟨pc, ht⟩
  unfold Server.Suspended at ht
  rw [hstream] at ht
  simp only [Pc.run, StreamController.poll, hw.off, Bool.false_eq_true, ↓reduceIte,
    Task.after] at ht
  exact noTask_of_returned hi rfl (h.once id) _ ht rfl

/-- A stream that is off under a stop that waits stays off. -/
theorem LoopEnded.other (hw : LoopEnded id s) (hspares : SparesStops s e)
    (hs : (server P api).step s e = some s') (hno : ¬RunsMethod id s e) : LoopEnded id s' := by
  refine ⟨hw.suspended.stays hs hno, ?_⟩
  by_cases hsegment : ∃ i camera content, e = .segment i camera content
  · obtain ⟨i, camera, content, rfl⟩ := hsegment
    obtain ⟨t, g, hseg⟩ := Server.methodSegment_stream (segmentOf_of_step hs)
    obtain ⟨hi, rfl, hstream⟩ := segment_eq hseg
    rw [hstream]
    cases Pc.run_effect P s.stream.controller ⟨camera, content, s.alive⟩ t.pc with
    | started cameraIndex resolution fps call begins =>
      exact absurd ⟨_, hw.suspended, rfl⟩
        (hspares i camera content rfl i _ t cameraIndex resolution fps rfl hi call begins)
    | failed cameraIndex resolution fps call begins idle spawned cleaned isStreaming =>
      exact isStreaming
    | stopping call streaming => cases hw.off.symm.trans streaming
    | waiting call streaming => cases hw.off.symm.trans streaming
    | cleaned call idle self =>
      simp only [self]
      rfl
    | quiet other same => exact same.isStreaming.trans hw.off
  · rcases (runsNoMethod_of_step hs fun i camera content he =>
      hsegment ⟨i, camera, content, he⟩).stream with hoff | hsame
    · exact hoff
    · exact hsame.isStreaming.trans hw.off

end Steps

/-! ## The answer -/

section Answer

variable {P : Platform} {api : Api} {s s' : Server} {e : ServerEvent P} {id : SessionId}

/-- A handler stops waiting in the step in which its method returns, and there it answers. -/
theorem answered_of_step (h : Handled P api s) (hs : (server P api).step s e = some s') {call : Call}
    {reply : Bytes} (hcall : (s.sessions id).reader = .calling call reply)
    (hdone : (s'.sessions id).reader ≠ .calling call reply) :
    ¬(s'.sessions id).Handling ∧ ∃ result, Replied s s' id (answer reply result) := by
  have same : (s'.sessions id).reader = (s.sessions id).reader →
      ¬(s'.sessions id).Handling ∧ ∃ result, Replied s s' id (answer reply result) :=
    fun hsame => absurd (hsame.trans hcall) hdone
  cases serverStep_of_step hs with
  | connect => exact same rfl
  | session j e clock σ rs _ hstep =>
    apply same
    rw [Server.requestAll_sessions]
    by_cases hj : id = j
    · subst hj
      rw [Server.setSession_self]
      cases readerStep_of_step hstep with
      | stays reader => exact reader
      | free before => exact absurd hcall (before call reply)
      | awaits text isStreaming c call' reply' event before => exact absurd hcall (before call reply)
      | returned result event =>
        subst event
        cases external_of_step hs
    · rw [Server.setSession_other hj, Server.note_sessions]
  | segment i camera content _ hseg =>
    obtain ⟨stream, t, ht, -⟩ := methodSegment_cases hseg
    cases hears_of_methodSegment h hseg ht id with
    | nothing still suspended => exact same still.same.reader
    | returned handles result reply' σ next reader sameHandler self last =>
      refine ⟨self ▸ returned_not_handling reply' result, result, ?_⟩
      obtain ⟨expected, ms, hexpected, hposted, -, -⟩ := replied_of_returned h hseg ht handles next
      cases hcall.symm.trans hexpected
      exact ⟨_, hposted, List.mem_append_right _ (List.mem_singleton_self _)⟩
  | loop i capture stream sends => exact same (sent_stillAwaits stream sends).same.reader
  | runAddViewer stream => exact same rfl
  | playbackExpire stream => exact same rfl
  | playbackHandler k stream sends => exact same (sent_stillAwaits stream sends).same.reader
  | destroy j =>
    obtain ⟨isOpen, heq⟩ := Server.destroy_isOpen s j id
    exact same (by rw [heq])

end Answer

/-! ## Executions -/

section Executions

variable {P : Platform} {api : Api} {x : (server P api).Execution} {id : SessionId}

theorem answering_always (hinit : x.state 0 = {})
    (hspares : ∀ n, SparesStops (x.state n) (x.event n)) (n : Nat) :
    Answering P api (x.state n) := by
  induction n with
  | zero => exact hinit ▸ .init
  | succ n ih => exact ih.step (hspares n) (x.step n)

/-- Every method has its next segment. -/
theorem suspended_leadsTo (hfair : Scheduled x) (hall : ∀ n, Answering P api (x.state n)) (pc : Pc) :
    x.LeadsTo (·.Suspended id pc)
      fun s => ¬s.Employs id ∨ ∃ pc', pc.GoesOn pc' ∧ s.Suspended id pc' := by
  refine Execution.LeadsTo.of_fair (fun _ => 0)
    ((hfair.methods id).mono fun n ht => ⟨pc, ht⟩) fun n ht => ?_
  by_cases hrun : RunsMethod id (x.state n) (x.event n)
  · exact Or.inl ((ht.runs (hall n).handled (x.step n) hrun).imp_left And.left)
  · exact Or.inr ⟨ht.stays (x.step n) hrun, Nat.le_refl 0, fun h => absurd h hrun⟩

/-- A loop that a stop awaits ends. -/
theorem awaitsLoop_leadsTo (hfair : Scheduled x) (hall : ∀ n, Answering P api (x.state n)) :
    x.LeadsTo (AwaitsLoop id) (LoopEnded id) := by
  refine Execution.LeadsTo.of_fair Server.remaining (hfair.loops.mono fun n hw => ?_) fun n hw => ?_
  · obtain ⟨pc, hpc⟩ := (hw.stopping (hall n)).loops (hall n).oneLoop
    rw [hpc]
    exact List.cons_ne_nil _ _
  · by_cases hrun : RunsLoop (x.state n) (x.event n)
    · refine (hw.loop (hall n) (x.step n) hrun).imp_right fun ⟨hw', hlt⟩ => ?_
      exact ⟨hw', Nat.le_of_lt hlt, fun _ => hlt⟩
    · obtain ⟨hw', heq⟩ := hw.other (hall n) (x.step n) hrun
      exact Or.inr ⟨hw', Nat.le_of_eq heq, fun h => absurd h hrun⟩

/-- And a stop whose loop has ended returns. -/
theorem loopEnded_leadsTo (hfair : Scheduled x) (hall : ∀ n, Answering P api (x.state n))
    (hspares : ∀ n, SparesStops (x.state n) (x.event n)) :
    x.LeadsTo (LoopEnded id) (¬·.Employs id) := by
  refine Execution.LeadsTo.of_fair (fun _ => 0)
    ((hfair.methods id).mono fun n hw => ⟨_, hw.suspended⟩) fun n hw => ?_
  by_cases hrun : RunsMethod id (x.state n) (x.event n)
  · exact Or.inl (hw.runs (hall n).handled (x.step n) hrun)
  · exact Or.inr ⟨hw.other (hspares n) (x.step n) hrun, Nat.le_refl 0, fun h => absurd h hrun⟩

theorem polling_leadsTo (hfair : Scheduled x) (hall : ∀ n, Answering P api (x.state n))
    (hspares : ∀ n, SparesStops (x.state n) (x.event n)) :
    x.LeadsTo (·.Suspended id .polling) (¬·.Employs id) := by
  have hsplit : x.LeadsTo (·.Suspended id .polling) fun s => AwaitsLoop id s ∨ LoopEnded id s := by
    refine .of_imp fun n ht => ?_
    cases hs : (x.state n).stream.controller.isStreaming with
    | true => exact Or.inl ⟨ht, hs⟩
    | false => exact Or.inr ⟨ht, hs⟩
  have hends : x.LeadsTo (LoopEnded id) (¬·.Employs id) := loopEnded_leadsTo hfair hall hspares
  exact hsplit.trans (((awaitsLoop_leadsTo hfair hall).trans hends).or hends)

/-- **Every method returns.** -/
theorem employs_leadsTo (hfair : Scheduled x) (hall : ∀ n, Answering P api (x.state n))
    (hspares : ∀ n, SparesStops (x.state n) (x.event n)) :
    x.LeadsTo (·.Employs id) (¬·.Employs id) := by
  rintro n ⟨pc, ht⟩
  obtain ⟨m, hnm, hdone | ⟨pc', ⟨c, c', hgoes⟩, ht'⟩⟩ := suspended_leadsTo hfair hall pc n ht
  · exact ⟨m, hnm, hdone⟩
  · cases hgoes with
    | stopping | waiting =>
      obtain ⟨k, hmk, hk⟩ := polling_leadsTo hfair hall hspares m ht'
      exact ⟨k, Nat.le_trans hnm hmk, hk⟩
    | loading filename session =>
      obtain ⟨k, hmk, hdone | ⟨pc'', ⟨c, c', hnone⟩, -⟩⟩ := suspended_leadsTo hfair hall _ m ht'
      · exact ⟨k, Nat.le_trans hnm hmk, hdone⟩
      · cases hnone

/-- **Every command is answered.** Where the event loop attends to the methods and to the capture
loop, and no stream is started over a stop that waits, a message handler that awaits a method is
resumed, and in that step its session is sent the reply, or the error that the method has thrown. -/
theorem every_command_answered (P : Platform) (api : Api) (x : (server P api).Execution)
    (hinit : x.state 0 = {}) (hfair : Scheduled x)
    (hspares : ∀ n, SparesStops (x.state n) (x.event n)) (id : SessionId) (call : Call)
    (reply : Bytes) (n : Nat) (hcall : ((x.state n).sessions id).reader = .calling call reply) :
    ∃ m result, n ≤ m ∧ ((x.state m).sessions id).reader = .calling call reply ∧
      ¬((x.state (m + 1)).sessions id).Handling ∧
      Replied (x.state m) (x.state (m + 1)) id (answer reply result) := by
  have hall := answering_always hinit hspares
  obtain ⟨k, hnk, hk⟩ := employs_leadsTo hfair hall hspares n ((hall n).employed id call reply hcall)
  have hdone : ((x.state k).sessions id).reader ≠ .calling call reply :=
    fun hreader => hk ((hall k).employed id call reply hreader)
  obtain ⟨m, hnm, -, hm, hm'⟩ := Execution.exists_last
    (P := fun s : Server => (s.sessions id).reader = .calling call reply) hnk hcall hdone
  obtain ⟨hfree, result, hreplied⟩ := answered_of_step (hall m).handled (x.step m) hm hm'
  exact ⟨m, result, hnm, hm, hfree, hreplied⟩

/-! ### A stop that is answered -/

/-- A stream starts, and its controller asks it to stop. -/
def stopAsked : List (ServerEvent x86_64) :=
  joins 1 ++ [tells 1 "controller", .runAddViewer, tells 1 "config", .segment 0 .working none,
    .loop 0 .empty, tells 1 "stop" true]

/-- The stop waits, the loop takes its last frame, the stop returns, and the client is gone. -/
def stopDone : List (ServerEvent x86_64) :=
  [.segment 0 .working none, .loop 0 (.frame sampleFrame 0), .segment 0 .working none,
    .loop 0 .empty, .segment 0 .working none, .session 1 .disconnected ⟨noon, 0, true⟩]

/-- No method waits in the loop of `stop_streaming`, or the step is no `start_streaming`. -/
def startsNothing (s : Server) : ServerEvent x86_64 → Bool
  | .segment i _ _ => match s.stream.tasks[i]? with
    | some ⟨_, .dispatch (.startStreaming ..)⟩ => s.stream.tasks.all (·.pc != .polling)
    | _ => true
  | _ => true

theorem sparesStops_of_startsNothing (s : Server) (e : ServerEvent x86_64)
    (h : startsNothing s e = true) : SparesStops s e := by
  rintro i camera content rfl j env t cameraIndex resolution fps heq ht hpc - ⟨t', ht', hpolling⟩
  cases heq
  obtain ⟨caller, pc⟩ := t
  obtain rfl : pc = .dispatch (.startStreaming cameraIndex resolution fps) := hpc
  simp only [startsNothing, ht, List.all_eq_true] at h
  have hne := h t' ht'
  rw [hpolling] at hne
  cases hne

theorem every_command_answered_stop : ∃ x : (server x86_64 sampleApi).Execution,
    x.state 0 = {} ∧ ∃ n call, ((x.state n).sessions 1).reader = .calling call (lit "STREAM_STOPPED") ∧
      ∃ m result, n ≤ m ∧
        ((x.state m).sessions 1).reader = .calling call (lit "STREAM_STOPPED") ∧
        ¬((x.state (m + 1)).sessions 1).Handling ∧
        Replied (x.state m) (x.state (m + 1)) 1 (answer (lit "STREAM_STOPPED") result) := by
  have hfacts : ((((server x86_64 sampleApi).restrict fun s e => startsNothing s e).run {}
      stopAsked).bind fun t => (((server x86_64 sampleApi).restrict fun s e =>
        startsNothing s e).run t stopDone).map fun u => (t, u)).any (fun x =>
          (x.1.sessions 1).reader == .calling .stopStreaming (lit "STREAM_STOPPED") &&
          x.2.stream.tasks == [] && x.2.stream.loops == [] && x.2.quiescent && x.2.alive 1 &&
          !(x.2.sessions 1).isOpen) = true := by decide +kernel
  obtain ⟨⟨t, u⟩, htu, hfacts⟩ := (Option.any_eq_true _ _).1 hfacts
  obtain ⟨t', hasked, hdone⟩ := Option.bind_eq_some_iff.1 htu
  obtain ⟨u', hdone, heq⟩ := Option.map_eq_some_iff.1 hdone
  cases heq
  simp only [Bool.and_eq_true, beq_iff_eq, Bool.not_eq_true'] at hfacts
  obtain ⟨⟨⟨⟨⟨hcall, htasks⟩, hloops⟩, hquiet⟩, halive⟩, hclosed⟩ := hfacts
  obtain ⟨hasks, hasked⟩ := Machine.run_restrict.1 hasked
  obtain ⟨hdones, hdone⟩ := Machine.run_restrict.1 hdone
  -- the client is gone for good
  have hagain : (server x86_64 sampleApi).step u (.session 1 .disconnected ⟨noon, 0, true⟩) = some u :=
    disconnected_again _ hquiet halive hclosed
  obtain ⟨x, hx, hxC, hstart, -, hend⟩ :=
    Execution.exists_settled hasked hdone hasks hdones hagain rfl
  refine ⟨x, hx, stopAsked.length, .stopStreaming, hstart ▸ hcall, ?_⟩
  refine every_command_answered x86_64 sampleApi x hx ⟨fun id n hlasts => ?_, fun n hlasts => ?_⟩
    (fun n => sparesStops_of_startsNothing _ _ (hxC n)) 1 _ _ _ (hstart ▸ hcall)
  · obtain ⟨m, hnm, hm⟩ := hend n
    obtain ⟨pc, ht⟩ := hlasts m hnm
    rw [hm, Server.Suspended, htasks] at ht
    cases ht
  · obtain ⟨m, hnm, hm⟩ := hend n
    exact absurd (hm ▸ hloops) (hlasts m hnm)

end Executions

end AsciiStreamer
