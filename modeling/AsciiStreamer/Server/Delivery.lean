import AsciiStreamer.Lib.Liveness
import AsciiStreamer.Server.Sessions

/-!
# Every message leaves the queue

A message that is handed to `send_frame` waits in a posted handler, then in the queue. `Moves` is how
a session gets from one state to a later one on an open connection: what waits longest leaves first,
written or evicted, and new messages come in behind. On a scheduler that attends to the handlers and
the writer of a session, and with a client that reads, everything that waits leaves in the end, or the
connection is closed (`every_message_leaves`).
-/

namespace AsciiStreamer

open Cxx Machine

/-! ## What waits -/

namespace Session

/-- What is still to be written, the oldest first. -/
def waiting (s : Session) : List Message := s.writeQueue ++ s.posted

/-- How many messages have come into the queue. -/
def queued (s : Session) : Nat := s.history.gone + s.writeQueue.length

end Session

/-- Between the two states the handlers of the new messages have run, in order, and the messages that
left have been written or evicted, in order. -/
structure Moves (s s' : Session) (new : List Message) (left : List (Message × DropOldest.Fate)) :
    Prop where
  passes : DropOldest.Passes s.history s'.history new left
  posted : ∃ ms, s.posted ++ ms = new ++ s'.posted

/-- The session is written to as long as there is something in the queue. -/
structure WrittenTo (s : Session) : Prop where
  one : OneWriter s
  live : s.isOpen = true → s.writeQueue ≠ [] → s.isWriting = true
  fresh : s.reader = .accepting → s.isOpen = false ∧ s.writeQueue = []

/-- The segment is a write that fails. -/
def SessionEvent.FailsToWrite (e : SessionEvent) : Prop := ∃ i err, e = .writeDone i (some err)

/-- A segment of `do_write`. -/
def SessionEvent.Writes (e : SessionEvent) : Prop :=
  ∃ i, e = .startWriter i ∨ ∃ error, e = .writeDone i error

section Moves

variable {P : Platform} {api : Api} {s s' s'' : Session} {e : SessionEvent} {rs : List Request}
  {new new' : List Message} {left left' : List (Message × DropOldest.Fate)}

theorem Moves.refl (s : Session) : Moves s s [] [] := ⟨.refl _, [], List.append_nil _⟩

theorem Moves.trans (h : Moves s s' new left) (h' : Moves s' s'' new' left') :
    Moves s s'' (new ++ new') (left ++ left') := by
  obtain ⟨ms, hposted⟩ := h.posted
  obtain ⟨ms', hposted'⟩ := h'.posted
  refine ⟨h.passes.trans h'.passes, ms ++ ms', ?_⟩
  rw [← List.append_assoc, hposted, List.append_assoc, hposted', List.append_assoc]

/-- What waited comes first of all that has left or waits now. -/
theorem Moves.waiting (h : Moves s s' new left) :
    s.waiting <+: left.map Prod.fst ++ s'.waiting := by
  obtain ⟨ms, hposted⟩ := h.posted
  have hqueue : s.writeQueue ++ new = left.map Prod.fst ++ s'.writeQueue := h.passes.queue
  refine ⟨ms, ?_⟩
  unfold Session.waiting
  rw [List.append_assoc, hposted, ← List.append_assoc, hqueue, List.append_assoc]

theorem Moves.of_history (hhistory : s'.history = s.history) {ms : List Message}
    (hposted : s'.posted = s.posted ++ ms) : Moves s s' [] [] := by
  refine ⟨?_, ms, hposted.symm⟩
  rw [hhistory]
  exact .refl _

theorem Moves.of_silent (hhistory : s'.history = s.history) (hposted : s'.posted = s.posted) :
    Moves s s' [] [] := by
  have hnothing : s'.posted = s.posted ++ [] := by rw [hposted, List.append_nil]
  exact .of_history hhistory hnothing

theorem queueFrame_history (m : Message) (ms : List Message) (ho : s.isOpen = true) :
    ({ s with posted := ms, sent := s.sent ++ [m] }.queueFrame m).history =
      s.history.send maxQueueSize m := by
  by_cases hfull : maxQueueSize ≤ s.writeQueue.length <;> by_cases hw : s.isWriting = true <;>
    simp only [Session.queueFrame, Session.history, DropOldest.send, ho, hfull, hw,
      Bool.not_true, Bool.not_false, Bool.false_eq_true, ↓reduceIte]

theorem returned_history (reply : Bytes) (result : Except Exn Unit) :
    (s.returned reply result).history = s.history := by
  rw [returned_eq_answers]
  rfl

/-- The loop of `do_write` takes the first message of the queue on an open connection. -/
theorem doWrite_moves (i : Nat) : ∃ left, Moves s (s.proceedWriter i s.doWrite) [] left ∧
    (s.isOpen = true → s.writeQueue ≠ [] → left ≠ []) := by
  have hposted := (sameReading_doWrite (s := s) i).posted
  unfold Session.doWrite at hposted ⊢
  split
  · next m q hq ho =>
    refine ⟨[(m, .taken)], ⟨⟨?_, rfl, (List.append_nil _).symm⟩, [], List.append_nil _⟩, nofun⟩
    exact (List.append_nil _).trans hq
  · next hno =>
    refine ⟨[], .of_silent rfl rfl, fun ho hne => ?_⟩
    obtain ⟨m, q, hq⟩ := List.exists_cons_of_ne_nil hne
    exact absurd ho (hno m q hq)

/-- **What a segment does to the messages that wait.** -/
theorem moves_step (h : s.step P api e = some (s', rs)) (ho : e = .runPosted → s.isOpen = true) :
    ∃ new left, Moves s s' new left ∧ (e = .runPosted → new ≠ []) ∧
      (e.Writes → ¬e.FailsToWrite → s.isOpen = true → s.writeQueue ≠ [] → left ≠ []) := by
  -- a segment that is no writer's and runs no handler
  have other : Moves s s' [] [] → e ≠ .runPosted → ¬e.Writes → ∃ new left, Moves s s' new left ∧
      (e = .runPosted → new ≠ []) ∧
      (e.Writes → ¬e.FailsToWrite → s.isOpen = true → s.writeQueue ≠ [] → left ≠ []) :=
    fun hmoves hrun hwrites => ⟨[], [], hmoves, fun he => absurd he hrun, fun he => absurd he hwrites⟩
  have hother : (∀ i, e ≠ .startWriter i) → (∀ i error, e ≠ .writeDone i error) → ¬e.Writes := by
    rintro hstart hdone ⟨i, he | ⟨error, he⟩⟩
    · exact hstart i he
    · exact hdone i error he
  cases sessionStep_of_step h with
  | accepted ok reader => exact other (.of_silent rfl rfl) nofun (hother nofun nofun)
  | message text isStreaming reader =>
    exact other (.of_history (sameWriter_handleMessage text isStreaming).history
      (handleMessage_posted text isStreaming)) nofun (hother nofun nofun)
  | readFailed closed reader =>
    refine other (.of_silent (sameWriter_readFailed closed).history ?_) nofun (hother nofun nofun)
    cases closed with
    | true => rfl
    | false => exact (sameReading_close s).posted
  | authFailedWritten result reader =>
    obtain ⟨texts, heq⟩ := authFailedWritten_eq_answers (s := s) result
    have hposted : (s.answers texts).posted = s.posted ++ texts.map .reply := rfl
    refine other ?_ nofun (hother nofun nofun)
    rw [heq]
    exact .of_history rfl hposted
  | returned result call reply reader =>
    exact other (.of_history (returned_history reply result) (returned_posted reply result)) nofun
      (hother nofun nofun)
  | sendFrame m =>
    have hposted : (s.sendFrame m).posted = s.posted ++ [m] := rfl
    exact other (.of_history rfl hposted) nofun (hother nofun nofun)
  | runPosted m ms posted =>
    have hcap : 0 < maxQueueSize := by decide
    obtain ⟨left, hpasses⟩ := DropOldest.send_passes hcap s.history m
    rw [← queueFrame_history m ms (ho rfl)] at hpasses
    refine ⟨[m], left, ⟨hpasses, [], ?_⟩, nofun, fun hwrites => absurd hwrites (hother nofun nofun)⟩
    rw [(sameReading_queueFrame m).posted, posted]
    exact List.append_nil _
  | startWriter i live =>
    obtain ⟨left, hmoves, hleft⟩ := doWrite_moves (s := s) i
    exact ⟨[], left, hmoves, nofun, fun _ _ => hleft⟩
  | writeDone i error m live =>
    cases error with
    | none =>
      obtain ⟨left, hmoves, hleft⟩ := doWrite_moves (s := s) i
      exact ⟨[], left, hmoves, nofun, fun _ _ => hleft⟩
    | some err =>
      have hhistory : (s.writeDone i (some err)).history = s.history := by
        cases err with
        | aborted => rfl
        | other => exact (sameWriter_close s).history
      exact ⟨[], [], .of_silent hhistory (sameReading_writeDone i (some err)).posted, nofun,
        fun _ hno => absurd ⟨i, err, rfl⟩ hno⟩
  | disconnected => exact other (.of_silent rfl rfl) nofun (hother nofun nofun)
  | closed closing => exact other (.of_silent rfl rfl) nofun (hother nofun nofun)

/-! ## The session is attended to -/

/-- A connection opens only when it is accepted. -/
theorem isOpen_step (h : s.step P api e = some (s', rs)) (ho' : s'.isOpen = true) :
    s.isOpen = true ∨ s.reader = .accepting ∧ s'.reader ≠ .accepting := by
  cases sessionStep_of_step h with
  | accepted ok reader => exact Or.inr ⟨reader, readNext_not_accepting _⟩
  | message text isStreaming reader =>
    left
    rwa [(handleMessage_running P api s text isStreaming).1] at ho'
  | readFailed closed reader =>
    left
    cases closed with
    | true => exact ho'
    | false => exact (sameReading_close s).isOpen ▸ ho'
  | authFailedWritten result reader =>
    obtain ⟨texts, heq⟩ := authFailedWritten_eq_answers (s := s) result
    rw [heq] at ho'
    exact Or.inl ho'
  | returned result call reply reader =>
    rw [returned_eq_answers] at ho'
    exact Or.inl ho'
  | sendFrame m => exact Or.inl ho'
  | runPosted m ms posted =>
    rw [(sameReading_queueFrame m).isOpen] at ho'
    exact Or.inl ho'
  | startWriter i live => exact Or.inl ((sameReading_doWrite (s := s) i).isOpen ▸ ho')
  | writeDone i error m live => exact Or.inl ((sameReading_writeDone (s := s) i error).isOpen ▸ ho')
  | disconnected => cases ho'
  | closed closing => cases ho'

/-- Nothing comes into the queue of a closed connection, and nothing leaves it. -/
theorem shut_step (h : s.step P api e = some (s', rs)) (hshut : s.isOpen = false) :
    s'.writeQueue = s.writeQueue := by
  have hdo : s.doWrite = ({ s with isWriting := false }, none) := by
    cases hq : s.writeQueue <;> simp only [Session.doWrite, hshut, hq]
  cases sessionStep_of_step h with
  | message text isStreaming reader =>
    exact congrArg DropOldest.queue (sameWriter_handleMessage text isStreaming).history
  | readFailed closed reader =>
    exact congrArg DropOldest.queue (sameWriter_readFailed closed).history
  | authFailedWritten result reader => cases result <;> rfl
  | returned result call reply reader => cases result <;> rfl
  | runPosted m ms posted => simp only [Session.queueFrame, hshut, Bool.not_false, ↓reduceIte]
  | startWriter i live => simp only [hdo, Session.proceedWriter]
  | writeDone i error m live =>
    cases error with
    | none => simp only [Session.writeDone, hdo, Session.proceedWriter]
    | some err =>
      cases err with
      | aborted => rfl
      | other => exact congrArg DropOldest.queue (sameWriter_close s).history
  | _ => rfl

theorem WrittenTo.init (id : SessionId) : WrittenTo { sessionId := id } := ⟨rfl, nofun, fun _ => ⟨rfl, rfl⟩⟩

theorem WrittenTo.step (h : WrittenTo s) (hs : s.step P api e = some (s', rs))
    (hwrites : ¬e.FailsToWrite) : WrittenTo s' := by
  have hs' : (session P api).step s e = some s' := Option.map_eq_some_iff.2 ⟨_, hs, rfl⟩
  refine ⟨h.one.step hs', fun ho' hne => ?_, fun hr' => ?_⟩
  · cases ho : s.isOpen with
    | false =>
      rcases isOpen_step hs ho' with ho'' | ⟨hr, -⟩
      · cases ho.symm.trans ho''
      · exact absurd ((shut_step hs ho).trans (h.fresh hr).2) hne
    | true =>
      cases writerStep_of_step (sessionStep_of_step hs) with
      | same other same =>
        rw [same.isWriting]
        refine h.live ho fun hnil => hne ?_
        exact (congrArg DropOldest.queue same.history).trans hnil
      | dropped shut => cases ho.symm.trans shut
      | queued m history isWriting => exact isWriting
      | wrote i w m live history isWriting => exact isWriting.trans (h.one.only live).1
      | finished i w live reason history =>
        rcases reason with hnil | hshut | ⟨err, herr⟩
        · exact absurd ((congrArg DropOldest.queue history).trans hnil) hne
        · cases ho.symm.trans hshut
        · exact absurd ⟨i, err, herr⟩ hwrites
  · obtain ⟨hshut, hnil⟩ := h.fresh ((step_life hs).accepting hr')
    refine ⟨Bool.eq_false_of_not_eq_true fun ho' => ?_, (shut_step hs hshut).trans hnil⟩
    rcases isOpen_step hs ho' with ho | ⟨-, hr⟩
    · cases hshut.symm.trans ho
    · exact hr hr'

end Moves

/-! ## The server -/

/-- The next posted handler of the session runs. -/
def RunsPosted {P : Platform} (id : SessionId) (_ : Server) (e : ServerEvent P) : Prop :=
  ∃ clock, e = .session id .runPosted clock

/-- A segment of `do_write` of the session. -/
def RunsWriter {P : Platform} (id : SessionId) (_ : Server) (e : ServerEvent P) : Prop :=
  ∃ d clock, e = .session id d clock ∧ d.Writes

/-- The event loop attends to the posted handlers of the session and to its `do_write`, and each
write completes. -/
structure Draining {P : Platform} {api : Api} (x : (server P api).Execution) (id : SessionId) :
    Prop where
  handlers : x.Fair (fun s => (s.sessions id).posted ≠ []) (RunsPosted id)
  writers : x.Fair (fun s => (s.sessions id).writers ≠ []) (RunsWriter id)
  writes : ∀ n d clock, x.event n = .session id d clock → ¬d.FailsToWrite

section Steps

variable {P : Platform} {api : Api} {s s' : Server} {e : ServerEvent P} {id : SessionId}
  {σ σ' : Session}

/-- What the rest of the server does to a session. -/
theorem passive_moves (ds : List SessionEvent) (hds : ∀ d ∈ ds, d.Passive) (h : WrittenTo σ)
    (hrun : (session P api).run σ ds = some σ') :
    WrittenTo σ' ∧ ∃ new left, Moves σ σ' new left := by
  induction ds generalizing σ with
  | nil =>
    rw [Machine.run_nil, Option.some.injEq] at hrun
    subst hrun
    exact ⟨h, [], [], .refl _⟩
  | cons d ds ih =>
    obtain ⟨σ₁, hmap, hrun⟩ := Machine.run_cons_some.1 hrun
    obtain ⟨⟨σ₂, rs⟩, hstep, heq⟩ := Option.map_eq_some_iff.1 hmap
    obtain rfl : σ₂ = σ₁ := heq
    have hd := hds d List.mem_cons_self
    have hrest : ∀ d' ∈ ds, d'.Passive := fun d' hd' => hds d' (List.mem_cons_of_mem _ hd')
    have hhandler : d ≠ .runPosted := by
      rintro rfl
      exact hd
    have hwrites : ¬d.FailsToWrite := by
      rintro ⟨i, err, rfl⟩
      exact hd
    obtain ⟨new, left, hmoves, -, -⟩ := moves_step hstep fun he => absurd he hhandler
    obtain ⟨hwritten, new', left', hmoves'⟩ := ih hrest (h.step hstep hwrites) hrun
    exact ⟨hwritten, _, _, hmoves.trans hmoves'⟩

theorem WrittenTo.server_step (h : WrittenTo (s.sessions id))
    (hwrites : ∀ d clock, e = .session id d clock → ¬d.FailsToWrite)
    (hs : (server P api).step s e = some s') : WrittenTo (s'.sessions id) := by
  cases sessionView_of_step hs id with
  | own d clock rs event external step => exact h.step step (hwrites d clock event)
  | passive ds other passive live run => exact (passive_moves ds passive h run).1
  | destroyed due event self =>
    rw [self]
    exact ⟨h.one, nofun, fun hr => ⟨rfl, (h.fresh hr).2⟩⟩

/-- **What a step of the server does to the messages that wait in an open session.** -/
theorem server_moves (h : WrittenTo (s.sessions id)) (ho : (s.sessions id).isOpen = true)
    (hwrites : ∀ d clock, e = .session id d clock → ¬d.FailsToWrite)
    (hs : (server P api).step s e = some s') :
    ∃ new left, Moves (s.sessions id) (s'.sessions id) new left ∧ (RunsPosted id s e → new ≠ []) ∧
      (RunsWriter id s e → (s.sessions id).writeQueue ≠ [] → left ≠ []) := by
  have other : (∀ d clock, e ≠ .session id d clock) → ∀ {new left},
      Moves (s.sessions id) (s'.sessions id) new left → ∃ new left,
        Moves (s.sessions id) (s'.sessions id) new left ∧ (RunsPosted id s e → new ≠ []) ∧
        (RunsWriter id s e → (s.sessions id).writeQueue ≠ [] → left ≠ []) := by
    intro hno new left hmoves
    refine ⟨new, left, hmoves, ?_, ?_⟩
    · rintro ⟨clock, he⟩
      exact absurd he (hno _ clock)
    · rintro ⟨d, clock, he, -⟩
      exact absurd he (hno d clock)
  cases sessionView_of_step hs id with
  | own d clock rs event external step =>
    obtain ⟨new, left, hmoves, hnew, hleft⟩ := moves_step step fun _ => ho
    refine ⟨new, left, hmoves, ?_, ?_⟩
    · rintro ⟨clock', he⟩
      cases event.symm.trans he
      exact hnew rfl
    · rintro ⟨d', clock', he, hd'⟩
      cases event.symm.trans he
      exact hleft hd' (hwrites d clock event) ho
  | passive ds hother passive live run =>
    obtain ⟨-, new, left, hmoves⟩ := passive_moves ds passive h run
    exact other hother hmoves
  | destroyed due event self =>
    refine other (fun d clock he => ?_) (.of_silent ?_ ?_)
    · cases event.symm.trans he
    · rw [self]
      rfl
    · rw [self]

end Steps

/-! ## Executions -/

/-- The connection is open, and this is what has become of what waited in `σ`. -/
structure Underway (id : SessionId) (σ : Session) (s : Server) : Prop where
  isOpen : (s.sessions id).isOpen = true
  writtenTo : WrittenTo (s.sessions id)
  moves : ∃ new left, Moves σ (s.sessions id) new left

/-- Not all of the handlers that waited in `σ` have run. -/
structure HandlersWait (id : SessionId) (σ : Session) (s : Server) : Prop extends Underway id σ s where
  few : (s.sessions id).queued < σ.queued + σ.posted.length

/-- They have, but not all the messages have left the queue. -/
structure QueueWaits (id : SessionId) (σ : Session) (s : Server) : Prop extends Underway id σ s where
  all : σ.queued + σ.posted.length ≤ (s.sessions id).queued
  few : (s.sessions id).history.gone < σ.queued + σ.posted.length

theorem QueueWaits.nonempty {id : SessionId} {σ : Session} {s : Server} (h : QueueWaits id σ s) :
    (s.sessions id).writeQueue ≠ [] := by
  have hall := h.all
  have hfew := h.few
  have hqueued : (s.sessions id).queued =
      (s.sessions id).history.gone + (s.sessions id).writeQueue.length := rfl
  intro hnil
  rw [hqueued, hnil, List.length_nil] at hall
  omega

/-- All that waited in `σ` has left, written or evicted, in order. -/
def AllLeft (σ σ' : Session) : Prop := ∃ left : List (Message × DropOldest.Fate),
  left.map Prod.fst = σ.waiting ∧ σ.written ++ DropOldest.ofFate .taken left <+: σ'.written ∧
    σ.evicted ++ DropOldest.ofFate .evicted left <+: σ'.evicted

section Executions

variable {P : Platform} {api : Api} {x : (server P api).Execution} {id : SessionId} {σ σ' : Session}
  {new : List Message} {left : List (Message × DropOldest.Fate)}

theorem Moves.queued (h : Moves σ σ' new left) : σ'.queued = σ.queued + new.length :=
  h.passes.queued

/-- What has left since is what waited, once so many have left. -/
theorem allLeft_of_moves (h : Moves σ σ' new left)
    (hgone : σ.queued + σ.posted.length ≤ σ'.history.gone) : AllLeft σ σ' := by
  have hlen : σ.waiting.length ≤ left.length := by
    have hcount := h.passes.gone
    unfold Session.queued at hgone
    unfold Session.waiting
    rw [List.length_append]
    omega
  have hfirst : (left.take σ.waiting.length).map Prod.fst = σ.waiting := by
    have hpre := List.prefix_iff_eq_take.1 h.waiting
    rw [List.take_append_of_le_length (by rw [List.length_map]; exact hlen)] at hpre
    rw [List.map_take, ← hpre]
  have htake : ∀ f, DropOldest.ofFate f (left.take σ.waiting.length) <+: DropOldest.ofFate f left := by
    intro f
    refine ⟨DropOldest.ofFate f (left.drop σ.waiting.length), ?_⟩
    rw [← DropOldest.ofFate_append, List.take_append_drop]
  have htaken : σ'.written = σ.written ++ DropOldest.ofFate .taken left := h.passes.taken
  have hevicted : σ'.evicted = σ.evicted ++ DropOldest.ofFate .evicted left := h.passes.evicted
  refine ⟨left.take σ.waiting.length, hfirst, ?_, ?_⟩
  · rw [htaken]
    exact (List.prefix_append_right_inj _).2 (htake .taken)
  · rw [hevicted]
    exact (List.prefix_append_right_inj _).2 (htake .evicted)

theorem writtenTo_always (hinit : x.state 0 = {}) (hdrain : Draining x id) (n : Nat) :
    WrittenTo ((x.state n).sessions id) := by
  induction n with
  | zero => exact hinit ▸ .init id
  | succ n ih => exact ih.server_step (hdrain.writes n) (x.step n)

/-- While the connection is open, the session gets on. -/
theorem underway_step (hdrain : Draining x id) {n : Nat} (h : Underway id σ (x.state n)) :
    ((x.state (n + 1)).sessions id).isOpen = false ∨ Underway id σ (x.state (n + 1)) := by
  obtain ⟨ho, hwritten, new, left, hmoves⟩ := h
  obtain ⟨new', left', hmoves', -, -⟩ := server_moves hwritten ho (hdrain.writes n) (x.step n)
  cases ho' : ((x.state (n + 1)).sessions id).isOpen with
  | false => exact Or.inl rfl
  | true =>
    exact Or.inr ⟨ho', hwritten.server_step (hdrain.writes n) (x.step n), _, _, hmoves.trans hmoves'⟩

/-- The handlers run. -/
theorem handlersWait_leadsTo (hdrain : Draining x id) (σ : Session) : x.LeadsTo (HandlersWait id σ)
    fun s => (s.sessions id).isOpen = false ∨
      Underway id σ s ∧ σ.queued + σ.posted.length ≤ (s.sessions id).queued := by
  refine Execution.LeadsTo.of_fair
    (fun s => σ.queued + σ.posted.length - (s.sessions id).queued)
    (hdrain.handlers.mono fun n h => ?_) fun n h => ?_
  · -- a handler is still posted, since fewer have run
    obtain ⟨new, left, hmoves⟩ := h.moves
    obtain ⟨ms, hposted⟩ := hmoves.posted
    have hfew := h.few
    rw [hmoves.queued] at hfew
    intro hnil
    have hlen := congrArg List.length hposted
    rw [hnil, List.length_append, List.length_append, List.length_nil] at hlen
    omega
  · rcases underway_step hdrain h.toUnderway with hshut | hunder
    · exact Or.inl (Or.inl hshut)
    · obtain ⟨new, left, hmoves, hnew, -⟩ :=
        server_moves h.writtenTo h.isOpen (hdrain.writes n) (x.step n)
      have hcount := hmoves.queued
      have hfew := h.few
      by_cases hall : σ.queued + σ.posted.length ≤ ((x.state (n + 1)).sessions id).queued
      · exact Or.inl (Or.inr ⟨hunder, hall⟩)
      · refine Or.inr ⟨⟨hunder, by omega⟩, by omega, fun hrun => ?_⟩
        have hpos := List.length_pos_iff.2 (hnew hrun)
        omega

/-- And the queue is written. -/
theorem queueWaits_leadsTo (hdrain : Draining x id) (σ : Session) : x.LeadsTo (QueueWaits id σ)
    fun s => (s.sessions id).isOpen = false ∨ AllLeft σ (s.sessions id) := by
  refine Execution.LeadsTo.of_fair
    (fun s => σ.queued + σ.posted.length - (s.sessions id).history.gone)
    (hdrain.writers.mono fun n h => ?_) fun n h => ?_
  · intro hnil
    have hone := h.writtenTo.one
    rw [OneWriter, h.writtenTo.live h.isOpen h.nonempty, hnil] at hone
    cases hone
  · rcases underway_step hdrain h.toUnderway with hshut | hunder
    · exact Or.inl (Or.inl hshut)
    · obtain ⟨new, left, hmoves, -, hleft⟩ :=
        server_moves h.writtenTo h.isOpen (hdrain.writes n) (x.step n)
      have hcount := hmoves.queued
      have hgone := hmoves.passes.gone
      have hall := h.all
      have hfew := h.few
      by_cases hdone : σ.queued + σ.posted.length ≤ ((x.state (n + 1)).sessions id).history.gone
      · obtain ⟨new', left', hmoves'⟩ := hunder.moves
        exact Or.inl (Or.inr (allLeft_of_moves hmoves' hdone))
      · refine Or.inr ⟨⟨hunder, by omega, by omega⟩, by omega, fun hrun => ?_⟩
        have hpos := List.length_pos_iff.2 (hleft hrun h.nonempty)
        omega

/-- **Every message leaves.** Where the event loop attends to the posted handlers and the writer of a
session, and each write completes, everything that waits to be written to it at some time has been
written later, or dropped from a full queue, in order, unless the connection is closed. -/
theorem every_message_leaves (P : Platform) (api : Api) (x : (server P api).Execution)
    (hinit : x.state 0 = {}) (id : SessionId) (hdrain : Draining x id) (n : Nat)
    (hopen : ((x.state n).sessions id).isOpen = true) :
    ∃ m, n ≤ m ∧ (((x.state m).sessions id).isOpen = false ∨
      AllLeft ((x.state n).sessions id) ((x.state m).sessions id)) := by
  let σ := (x.state n).sessions id
  have hunder : Underway id σ (x.state n) :=
    ⟨hopen, writtenTo_always hinit hdrain n, [], [], .refl _⟩
  have hposted : x.LeadsTo (Underway id σ) fun s => (s.sessions id).isOpen = false ∨
      Underway id σ s ∧ σ.queued + σ.posted.length ≤ (s.sessions id).queued := by
    refine (Execution.LeadsTo.of_imp fun m h => ?_).trans
      ((handlersWait_leadsTo hdrain σ).or (.refl _))
    rcases Nat.lt_or_ge ((x.state m).sessions id).queued (σ.queued + σ.posted.length) with hlt | hge
    · exact Or.inl ⟨h, hlt⟩
    · exact Or.inr (Or.inr ⟨h, hge⟩)
  have hqueued : x.LeadsTo (fun s => (s.sessions id).isOpen = false ∨
      Underway id σ s ∧ σ.queued + σ.posted.length ≤ (s.sessions id).queued)
      fun s => (s.sessions id).isOpen = false ∨ AllLeft σ (s.sessions id) := by
    refine .or (.of_imp fun m h => Or.inl h) ?_
    refine (Execution.LeadsTo.of_imp fun m h => ?_).trans
      ((queueWaits_leadsTo hdrain σ).or (.refl _))
    obtain ⟨h, hall⟩ := h
    rcases Nat.lt_or_ge ((x.state m).sessions id).history.gone (σ.queued + σ.posted.length)
      with hlt | hge
    · exact Or.inl ⟨h, hall, hlt⟩
    · obtain ⟨new, left, hmoves⟩ := h.moves
      exact Or.inr (Or.inr (allLeft_of_moves hmoves hge))
  exact (hposted.trans hqueued) n hunder

/-! ### Replies that are written -/

/-- A viewer is let in while another client connects, and is sent two replies. -/
def letIn : List (ServerEvent x86_64) := joins 1 ++ [.connect, tells 1 "good"]

def writesReplies : List (ServerEvent x86_64) :=
  [.session 1 .runPosted ⟨noon, 0, true⟩, .session 1 .runPosted ⟨noon, 0, true⟩,
    .session 1 (.startWriter 0) ⟨noon, 0, true⟩, .session 1 (.writeDone 0 none) ⟨noon, 0, true⟩,
    .session 1 (.writeDone 0 none) ⟨noon, 0, true⟩]

def writesSucceed (_ : Server) : ServerEvent x86_64 → Bool
  | .session _ (.writeDone _ (some _)) _ => false
  | _ => true

theorem every_message_leaves_letIn : ∃ x : (server x86_64 sampleApi).Execution,
    x.state 0 = {} ∧ ∃ n, ((x.state n).sessions 1).isOpen = true ∧
      ((x.state n).sessions 1).posted =
        [.reply (lit "AUTH_VIEWER_SUCCESS"), .reply (lit "STREAM_INACTIVE")] ∧
      ∃ m, n ≤ m ∧ (((x.state m).sessions 1).isOpen = false ∨
        AllLeft ((x.state n).sessions 1) ((x.state m).sessions 1)) := by
  have hfacts : ((((server x86_64 sampleApi).restrict fun s e => writesSucceed s e).run {}
      letIn).bind fun t => (((server x86_64 sampleApi).restrict fun s e =>
        writesSucceed s e).run t writesReplies).map fun u => (t, u)).any (fun x =>
          (x.1.sessions 1).isOpen && (x.1.sessions 1).posted ==
            [.reply (lit "AUTH_VIEWER_SUCCESS"), .reply (lit "STREAM_INACTIVE")] &&
          (x.2.sessions 1).posted == [] && (x.2.sessions 1).writers == [] && x.2.quiescent &&
          x.2.alive 2 && !(x.2.sessions 2).isOpen) = true := by decide +kernel
  obtain ⟨⟨t, u⟩, htu, hfacts⟩ := (Option.any_eq_true _ _).1 hfacts
  obtain ⟨t', hletIn, hwrites⟩ := Option.bind_eq_some_iff.1 htu
  obtain ⟨u', hwrites, heq⟩ := Option.map_eq_some_iff.1 hwrites
  cases heq
  simp only [Bool.and_eq_true, beq_iff_eq, Bool.not_eq_true'] at hfacts
  obtain ⟨⟨⟨⟨⟨⟨hopen, hreplies⟩, hposted⟩, hwriters⟩, hquiet⟩, halive⟩, hclosed⟩ := hfacts
  obtain ⟨hletInC, hletIn⟩ := Machine.run_restrict.1 hletIn
  obtain ⟨hwritesC, hwrites⟩ := Machine.run_restrict.1 hwrites
  -- from then on nothing happens but to the other client
  have hagain : (server x86_64 sampleApi).step u (.session 2 .disconnected ⟨noon, 0, true⟩) = some u :=
    disconnected_again _ hquiet halive hclosed
  obtain ⟨x, hx, hxC, hstart, -, hend⟩ :=
    Execution.exists_settled hletIn hwrites hletInC hwritesC hagain rfl
  refine ⟨x, hx, letIn.length, hstart ▸ hopen, hstart ▸ hreplies, ?_⟩
  refine every_message_leaves x86_64 sampleApi x hx 1 ⟨fun n hlasts => ?_, fun n hlasts => ?_, ?_⟩ _
    (hstart ▸ hopen)
  · obtain ⟨m, hnm, hm⟩ := hend n
    exact absurd (hm ▸ hposted) (hlasts m hnm)
  · obtain ⟨m, hnm, hm⟩ := hend n
    exact absurd (hm ▸ hwriters) (hlasts m hnm)
  · rintro n d clock he ⟨i, err, rfl⟩
    have hsucceeds := hxC n
    rw [he] at hsucceeds
    cases hsucceeds

end Executions

end AsciiStreamer
