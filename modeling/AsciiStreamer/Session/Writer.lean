import AsciiStreamer.Lib.DropOldest
import AsciiStreamer.Session.Messages

/-!
# The writer of a session

`WriterStep` says what one segment does to the queue and the `do_write` coroutines. On a connection
that stays open the queue is a queue of ten that drops its oldest message, and one `do_write` is
live as long as there is something to write (`writer_refines_drop_oldest`).
-/

namespace AsciiStreamer

open Cxx

/-! ## What a segment does to the queue -/

/-- The queue of a session with its history. -/
def Session.history (s : Session) : DropOldest Message :=
  ⟨s.writeQueue, s.sent, s.written, s.evicted⟩

structure SameWriter (s s' : Session) : Prop where
  history : s'.history = s.history
  isWriting : s'.isWriting = s.isWriting
  writers : s'.writers = s.writers

inductive WriterStep (s : Session) (e : SessionEvent) (s' : Session) : Prop
  | same (other : e ≠ .runPosted) (same : SameWriter s s')
  /-- A handler that runs on a closed connection drops its message. -/
  | dropped (shut : s.isOpen = false) (isWriting : s'.isWriting = s.isWriting)
      (writers : s'.writers = s.writers)
  | queued (m : Message) (history : s'.history = s.history.send maxQueueSize m)
      (isWriting : s'.isWriting = true)
      (writers : s'.writers = if s.isWriting then s.writers else s.writers ++ [.spawned])
  | wrote (i : Nat) (w : Writer) (m : Message) (live : s.writers[i]? = some w)
      (history : s.history.take = some s'.history) (isWriting : s'.isWriting = s.isWriting)
      (writers : s'.writers = proceed s.writers i (some (.writing m)))
      (last : s'.written = s.written ++ [m])
  | finished (i : Nat) (w : Writer) (live : s.writers[i]? = some w)
      (reason : s.writeQueue = [] ∨ s.isOpen = false ∨ ∃ err, e = .writeDone i (some err))
      (history : s'.history = s.history) (isWriting : s'.isWriting = false)
      (writers : s'.writers = proceed s.writers i none)

section WriterSteps

variable {P : Platform} {api : Api} {s s' : Session} {e : SessionEvent} {rs : List Request}

theorem SameWriter.refl (s : Session) : SameWriter s s := ⟨rfl, rfl, rfl⟩

theorem sameWriter_close (s : Session) : SameWriter s s.close := by
  unfold Session.close
  split
  · exact ⟨rfl, rfl, rfl⟩
  · exact .refl s

theorem sameWriter_answers (s : Session) (texts : List Bytes) : SameWriter s (s.answers texts) :=
  ⟨rfl, rfl, rfl⟩

theorem sameWriter_handleMessage (text : Bytes) (isStreaming : Bool) :
    SameWriter s (s.handleMessage P api text isStreaming).1 := by
  cases messageStep_handleMessage P api s text isStreaming with
  | failed err decoded self =>
    rw [self]
    exact sameWriter_answers s _
  | rejected apiKey role decoded wrong self => rw [self]; exact ⟨rfl, rfl, rfl⟩
  | granted role decoded self => rw [self]; exact ⟨rfl, rfl, rfl⟩
  | awaits c call reply decoded awaited self => rw [self]; exact ⟨rfl, rfl, rfl⟩
  | replied c decoded other awaited self =>
    rw [self]
    exact sameWriter_answers s _

theorem sameWriter_readFailed (closed : Bool) : SameWriter s (s.readFailed closed) := by
  cases closed with
  | true => exact ⟨rfl, rfl, rfl⟩
  | false =>
    have hc := sameWriter_close s
    exact ⟨hc.history, hc.isWriting, hc.writers⟩

/-- The loop of `do_write` writes the next message, or there is none, or the connection is gone. -/
theorem doWrite_step {i : Nat} {w : Writer} (hw : s.writers[i]? = some w) :
    WriterStep s e (s.proceedWriter i s.doWrite) := by
  unfold Session.doWrite
  split
  · next m q hq ho =>
    refine .wrote i w m hw ?_ rfl rfl rfl
    simp only [Session.history, DropOldest.take, hq, Session.proceedWriter]
  · next hno =>
    refine .finished i w hw ?_ rfl rfl rfl
    cases hq : s.writeQueue with
    | nil => exact Or.inl rfl
    | cons m q =>
      cases ho : s.isOpen with
      | false => exact Or.inr (Or.inl rfl)
      | true => exact absurd ho (hno m q hq)

theorem queueFrame_step (m : Message) (ms : List Message) :
    WriterStep s .runPosted ({ s with posted := ms, sent := s.sent ++ [m] }.queueFrame m) := by
  by_cases ho : s.isOpen = true
  · by_cases hfull : maxQueueSize ≤ s.writeQueue.length <;> by_cases hw : s.isWriting = true <;>
      refine .queued m ?_ ?_ ?_ <;>
      simp only [Session.queueFrame, Session.history, DropOldest.send, ho, hfull, hw,
        Bool.not_true, Bool.not_false, Bool.false_eq_true, ↓reduceIte]
  · rw [Bool.not_eq_true] at ho
    refine .dropped ho ?_ ?_ <;>
      simp only [Session.queueFrame, ho, Bool.not_false, ↓reduceIte]

/-- **What a segment does to the queue and its writer.** -/
theorem writerStep_of_step (h : SessionStep P api s e s' rs) : WriterStep s e s' := by
  cases h with
  | accepted ok reader => exact .same nofun ⟨rfl, rfl, rfl⟩
  | message text isStreaming reader =>
    exact .same nofun (sameWriter_handleMessage text isStreaming)
  | readFailed closed reader => exact .same nofun (sameWriter_readFailed closed)
  | authFailedWritten result reader =>
    obtain ⟨texts, heq⟩ := authFailedWritten_eq_answers (s := s) result
    rw [heq]
    exact .same nofun (sameWriter_answers s texts)
  | returned result call reply reader =>
    rw [returned_eq_answers]
    exact .same nofun (sameWriter_answers s _)
  | sendFrame m => exact .same nofun ⟨rfl, rfl, rfl⟩
  | runPosted m ms posted => exact queueFrame_step m ms
  | startWriter i live => exact doWrite_step live
  | writeDone i error m live =>
    cases error with
    | none => exact doWrite_step live
    | some err =>
      cases err with
      | aborted => exact .finished i _ live (Or.inr (Or.inr ⟨_, rfl⟩)) rfl rfl rfl
      | other =>
        have hc := sameWriter_close s
        exact .finished i _ live (Or.inr (Or.inr ⟨_, rfl⟩)) hc.history rfl rfl
  | disconnected => exact .same nofun ⟨rfl, rfl, rfl⟩
  | closed closing => exact .same nofun ⟨rfl, rfl, rfl⟩

theorem session_step (h : (session P api).step s e = some s') : WriterStep s e s' := by
  obtain ⟨rs, hs⟩ := sessionStep_of_session h
  exact writerStep_of_step hs

end WriterSteps

/-! ## One writer -/

/-- `is_writing_` counts the live `do_write` coroutines. -/
def OneWriter (s : Session) : Prop := s.writers.length = if s.isWriting then 1 else 0

section OneWriterProofs

variable {P : Platform} {api : Api} {s s' : Session} {e : SessionEvent}

/-- A live writer is the only one. -/
theorem OneWriter.only (h : OneWriter s) {i : Nat} {w : Writer} (hw : s.writers[i]? = some w) :
    s.isWriting = true ∧ i = 0 ∧ s.writers = [w] := by
  unfold OneWriter at h
  have hi : i < s.writers.length := (List.getElem?_eq_some_iff.1 hw).1
  cases hwr : s.isWriting with
  | false =>
    simp only [hwr, Bool.false_eq_true, ↓reduceIte] at h
    omega
  | true =>
    simp only [hwr, ↓reduceIte] at h
    obtain ⟨x, hx⟩ := List.length_eq_one_iff.1 h
    have hi0 : i = 0 := by omega
    rw [hx, hi0, List.getElem?_cons_zero, Option.some.injEq] at hw
    exact ⟨rfl, hi0, by rw [hx, hw]⟩

theorem OneWriter.step (h : OneWriter s) (hs : (session P api).step s e = some s') :
    OneWriter s' := by
  cases session_step hs with
  | same other same => rwa [OneWriter, same.writers, same.isWriting]
  | dropped shut hwr hws => rwa [OneWriter, hws, hwr]
  | queued m hist hwr hws =>
    rw [OneWriter, hws, hwr]
    cases hw : s.isWriting with
    | false =>
      have hlen : s.writers.length = 0 := by rw [h, hw]; rfl
      simp only [Bool.false_eq_true, ↓reduceIte, List.length_append, hlen, List.length_singleton]
    | true =>
      have hlen : s.writers.length = 1 := by rw [h, hw]; rfl
      simp only [↓reduceIte, hlen]
  | wrote i w m live hist hwr hws last =>
    rw [OneWriter, hws, hwr, length_proceed_some]
    exact h
  | finished i w live reason hist hwr hws =>
    obtain ⟨-, hi, hone⟩ := h.only live
    rw [OneWriter, hws, hwr, hone, hi]
    rfl

end OneWriterProofs

/-! ## The queue of an open connection -/

/-- The connection is open and the event is no failed write. -/
def Steady (s : Session) (e : SessionEvent) : Prop :=
  s.isOpen = true ∧ ∀ i err, e ≠ .writeDone i (some err)

instance : ∀ s e, Decidable (Steady s e)
  | _, .writeDone i (some err) => isFalse fun h => h.2 i err rfl
  | s, .writeDone _ none => decidable_of_iff (s.isOpen = true) ⟨fun h => ⟨h, nofun⟩, And.left⟩
  | s, .accepted _ | s, .message _ _ | s, .readFailed _ | s, .authFailedWritten _ | s, .returned _
  | s, .sendFrame _ | s, .runPosted | s, .startWriter _ | s, .disconnected | s, .closed =>
    decidable_of_iff (s.isOpen = true) ⟨fun h => ⟨h, nofun⟩, And.left⟩

/-- A session whose connection has just been accepted. -/
def Session.opened (id : SessionId) : Session :=
  { sessionId := id, isOpen := true, reader := .reading }

/-- What is in the queue will be written, and the message in flight is the last one taken. -/
structure Served (s : Session) : Prop where
  one : OneWriter s
  live : s.writeQueue ≠ [] → s.isWriting = true
  flight : ∀ m, .writing m ∈ s.writers → s.written.getLast? = some m

section Refinement

variable {P : Platform} {api : Api} {s s' : Session} {e : SessionEvent}

theorem Served.step (h : Served s) (hsteady : Steady s e)
    (hs : (session P api).step s e = some s') : Served s' := by
  have hone := h.one.step hs
  cases session_step hs with
  | same other same =>
    have hq : s'.writeQueue = s.writeQueue := congrArg DropOldest.queue same.history
    have hw : s'.written = s.written := congrArg DropOldest.taken same.history
    refine ⟨hone, ?_, ?_⟩
    · rw [hq, same.isWriting]
      exact h.live
    · rw [same.writers, hw]
      exact h.flight
  | dropped shut hwr hws =>
    rw [hsteady.1] at shut
    cases shut
  | queued m hist hwr hws =>
    have hw : s'.written = s.written := by
      have heq := congrArg DropOldest.taken hist
      unfold DropOldest.send at heq
      split at heq <;> exact heq
    refine ⟨hone, fun _ => hwr, fun m' hm' => ?_⟩
    rw [hw]
    refine h.flight m' ?_
    rw [hws] at hm'
    split at hm'
    · exact hm'
    · rcases List.mem_append.1 hm' with hm' | hm'
      · exact hm'
      · simp at hm'
  | wrote i w m live hist hwr hws last =>
    obtain ⟨hon, hi, honly⟩ := h.one.only live
    refine ⟨hone, fun _ => hwr ▸ hon, fun m' hm' => ?_⟩
    rw [hws, honly, hi] at hm'
    have hmm : m' = m := by simpa [proceed] using hm'
    rw [last, hmm, List.getLast?_append]
    rfl
  | finished i w live reason hist hwr hws =>
    obtain ⟨-, hi, honly⟩ := h.one.only live
    have hq : s'.writeQueue = s.writeQueue := congrArg DropOldest.queue hist
    have hnil : s.writeQueue = [] := by
      rcases reason with hnil | hshut | ⟨err, herr⟩
      · exact hnil
      · rw [hsteady.1] at hshut
        cases hshut
      · exact absurd herr (hsteady.2 i err)
    refine ⟨hone, fun hne => absurd (hq.trans hnil) hne, fun m' hm' => ?_⟩
    rw [hws, honly, hi] at hm'
    cases hm'

/-- Each segment on an open connection is at most one operation of the abstract queue. -/
theorem history_step (hsteady : Steady s e) (hs : (session P api).step s e = some s') :
    ∃ ds, (DropOldest.machine Message maxQueueSize).run s.history ds = some s'.history := by
  cases session_step hs with
  | same other same => exact ⟨[], by rw [same.history]; rfl⟩
  | dropped shut hwr hws =>
    rw [hsteady.1] at shut
    cases shut
  | queued m hist hwr hws => exact ⟨[.send m], by rw [hist]; rfl⟩
  | wrote i w m live hist hwr hws last =>
    refine ⟨[.take], Machine.run_cons_some.2 ⟨_, hist, rfl⟩⟩
  | finished i w live reason hist hwr hws => exact ⟨[], by rw [hist]; rfl⟩

/-- **The writer refines a bounded drop-oldest queue**: over every run on an open connection the
queue has at most ten messages; what was sent is what has left the queue, each message written or
evicted, followed by the queue; an evicted message had ten newer ones behind it; and there is one
writer exactly while `is_writing_` is set, which it is while the queue is not empty. -/
theorem writer_refines_drop_oldest (P : Platform) (api : Api) (id : SessionId)
    (es : List SessionEvent) (s : Session) (hrun : (session P api).run (.opened id) es = some s)
    (hsteady : (session P api).AllSteps Steady (.opened id) es) :
    s.writeQueue.length ≤ 10 ∧
      (∃ gone : List (Message × DropOldest.Fate),
        s.sent = gone.map Prod.fst ++ s.writeQueue ∧
        s.written = DropOldest.ofFate .taken gone ∧ s.evicted = DropOldest.ofFate .evicted gone ∧
        ∀ i m, gone[i]? = some (m, .evicted) → i + 10 < s.sent.length) ∧
      (∀ m, .writing m ∈ s.writers → s.written.getLast? = some m) ∧
      (s.isWriting = true ↔ s.writers.length = 1) ∧ s.writers.length ≤ 1 ∧
      (s.writeQueue ≠ [] → s.writers ≠ []) := by
  have hrun' := Machine.run_restrict.2 ⟨hsteady, hrun⟩
  have hserved : Served s := by
    have hinit : Served (Session.opened id) := ⟨rfl, nofun, nofun⟩
    refine Machine.run_invariant ?_ es hinit hrun'
    intro s e s' hi hs
    obtain ⟨hst, hs⟩ := Machine.restrict_step.1 hs
    exact hi.step hst hs
  obtain ⟨ds, hds⟩ := Machine.run_simulation (I := fun _ => True) (fun _ _ => trivial)
    (fun _ hs => history_step (Machine.restrict_step.1 hs).1 (Machine.restrict_step.1 hs).2)
    es trivial hrun'
  obtain ⟨hlen, hhist⟩ := DropOldest.run_history (by decide) ds hds
  have hone := hserved.one
  unfold OneWriter at hone
  refine ⟨hlen, hhist, hserved.flight, ?_, ?_, ?_⟩
  · rw [hone]
    cases s.isWriting <;> decide
  · rw [hone]
    cases s.isWriting <;> decide
  · intro hne hnil
    rw [hserved.live hne, hnil] at hone
    cases hone

/-- A key, and a parser that knows three messages. -/
def sampleApi : Api where
  apiKey := lit "key"
  parse text :=
    if text = lit "good" then .ok (.object [(lit "type", .string (lit "auth")),
      (lit "api_key", .string (lit "key"))])
    else if text = lit "bad" then .ok (.object [(lit "type", .string (lit "auth")),
      (lit "api_key", .string (lit "guess"))])
    else if text = lit "controller" then .ok (.object [(lit "type", .string (lit "auth")),
      (lit "api_key", .string (lit "key")), (lit "role", .string (lit "controller"))])
    else if text = lit "config" then .ok (.object [(lit "type", .string (lit "config"))])
    else if text = lit "stop" then .ok (.object [(lit "type", .string (lit "stop"))])
    else .error (.jsonError (lit "parse error"))

/-- Twelve messages reach a writer that is still busy with the first one. -/
def busyWriter : List SessionEvent :=
  [.sendFrame (.live (lit "0")), .runPosted, .startWriter 0] ++
    (List.range 11).flatMap (fun n => [.sendFrame (.live (natToDec n)), .runPosted]) ++
    [.writeDone 0 none]

theorem writer_refines_drop_oldest_busyWriter :
    ∃ s, (session x86_64 sampleApi).run (.opened 1) busyWriter = some s ∧
      s.writeQueue.length ≤ 10 ∧
      (∃ gone : List (Message × DropOldest.Fate),
        s.sent = gone.map Prod.fst ++ s.writeQueue ∧
        s.written = DropOldest.ofFate .taken gone ∧ s.evicted = DropOldest.ofFate .evicted gone ∧
        ∀ i m, gone[i]? = some (m, .evicted) → i + 10 < s.sent.length) ∧
      (∀ m, .writing m ∈ s.writers → s.written.getLast? = some m) ∧
      (s.isWriting = true ↔ s.writers.length = 1) ∧ s.writers.length ≤ 1 ∧
      (s.writeQueue ≠ [] → s.writers ≠ []) := by
  have hruns : (((session x86_64 sampleApi).restrict Steady).run (.opened 1) busyWriter).isSome =
      true := by decide +kernel
  obtain ⟨s, hs⟩ := Option.isSome_iff_exists.1 hruns
  obtain ⟨hsteady, hrun⟩ := Machine.run_restrict.1 hs
  exact ⟨s, hrun, writer_refines_drop_oldest x86_64 sampleApi 1 busyWriter s hrun hsteady⟩

end Refinement

end AsciiStreamer
