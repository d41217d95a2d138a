import AsciiStreamer.Session.Writer

/-!
# Back-pressure

A full queue drops its oldest message, whatever it is. `victim` is what a segment drops; hence a
reply is lost in exactly the runs in which it is the oldest of ten messages when the next one comes,
and then ten messages have been sent after it (`reply_evicted_iff`).
-/

namespace AsciiStreamer

open Cxx

def Message.isReply : Message → Bool
  | .reply _ => true
  | _ => false

/-- No reply has been dropped. -/
def RepliesKept (s : Session) : Prop := ∀ text, .reply text ∉ s.evicted

/-- No handler of `send_frame` runs on a full queue whose oldest message is a reply. -/
def SparesReplies (s : Session) : SessionEvent → Prop
  | .runPosted => s.isOpen = true → maxQueueSize ≤ s.writeQueue.length →
    ∀ text, s.writeQueue.head? ≠ some (.reply text)
  | _ => True

/-- What a segment drops from the queue. -/
def Session.victim (s : Session) : SessionEvent → Option Message
  | .runPosted => if s.isOpen ∧ maxQueueSize ≤ s.writeQueue.length then s.writeQueue.head? else none
  | _ => none

section BackPressure

variable {P : Platform} {api : Api} {s s' : Session} {e : SessionEvent}

/-! ## What a segment drops -/

theorem queueFrame_evicted (m : Message) :
    (s.queueFrame m).evicted = s.evicted ++ (s.victim .runPosted).toList := by
  unfold Session.queueFrame Session.victim
  by_cases ho : s.isOpen = true
  · by_cases hfull : maxQueueSize ≤ s.writeQueue.length
    · have hhead : s.writeQueue.take 1 = s.writeQueue.head?.toList := by
        cases s.writeQueue <;> rfl
      simp only [ho, hfull, hhead, and_self, Bool.not_true, Bool.false_eq_true, ↓reduceIte]
      split <;> rfl
    · simp only [ho, hfull, and_false, Bool.not_true, Bool.false_eq_true, ↓reduceIte]
      split <;> exact (List.append_nil _).symm
  · simp only [ho, Bool.not_false, Bool.false_eq_true, false_and, ↓reduceIte, Option.toList_none,
      List.append_nil]

theorem doWrite_evicted (i : Nat) : (s.proceedWriter i s.doWrite).evicted = s.evicted := by
  unfold Session.doWrite
  split <;> rfl

theorem close_evicted (s : Session) : s.close.evicted = s.evicted :=
  congrArg DropOldest.evicted (sameWriter_close s).history

theorem evicted_step (hs : (session P api).step s e = some s') :
    s'.evicted = s.evicted ++ (s.victim e).toList := by
  -- but for the handlers of `send_frame`, no segment drops anything
  have keeps : s'.evicted = s.evicted → s.victim e = none →
      s'.evicted = s.evicted ++ (s.victim e).toList := by
    intro hsame hnone
    rw [hsame, hnone]
    exact (List.append_nil _).symm
  obtain ⟨rs, hs⟩ := sessionStep_of_session hs
  cases hs with
  | runPosted m ms posted => exact queueFrame_evicted m
  | message text isStreaming reader =>
    exact keeps (congrArg DropOldest.evicted (sameWriter_handleMessage text isStreaming).history) rfl
  | readFailed closed reader =>
    exact keeps (congrArg DropOldest.evicted (sameWriter_readFailed closed).history) rfl
  | authFailedWritten result reader => cases result <;> exact keeps rfl rfl
  | returned result call reply reader => cases result <;> exact keeps rfl rfl
  | startWriter i live => exact keeps (doWrite_evicted i) rfl
  | writeDone i error m live =>
    refine keeps ?_ rfl
    cases error with
    | none => exact doWrite_evicted i
    | some err =>
      cases err with
      | aborted => rfl
      | other => exact close_evicted s
  | accepted ok reader => exact keeps rfl rfl
  | sendFrame m => exact keeps rfl rfl
  | disconnected => exact keeps rfl rfl
  | closed closing => exact keeps rfl rfl

theorem sparesReplies_iff : SparesReplies s e ↔ ∀ text, s.victim e ≠ some (.reply text) := by
  cases e with
  | runPosted =>
    unfold SparesReplies Session.victim
    constructor
    · intro h text hv
      obtain ⟨⟨ho, hfull⟩, hhead⟩ := Option.ite_none_right_eq_some.1 hv
      exact h ho hfull text hhead
    · intro h ho hfull text hhead
      apply h text
      rw [if_pos ⟨ho, hfull⟩, hhead]
  | _ => exact iff_of_true trivial nofun

/-- **One step** loses a reply exactly if a reply is what it drops. -/
theorem repliesKept_step (h : RepliesKept s) (hs : (session P api).step s e = some s') :
    RepliesKept s' ↔ SparesReplies s e := by
  rw [sparesReplies_iff]
  constructor
  · intro hkept text hv
    apply hkept text
    rw [evicted_step hs, hv]
    exact List.mem_append_right _ List.mem_cons_self
  · intro hspares text hmem
    rw [evicted_step hs] at hmem
    rcases List.mem_append.1 hmem with hmem | hmem
    · exact h text hmem
    · exact hspares text (Option.mem_toList.1 hmem)

/-! ## Over runs -/

theorem history_of_steady {id : SessionId} {es : List SessionEvent}
    (hrun : (session P api).run (.opened id) es = some s)
    (hsteady : (session P api).AllSteps Steady (.opened id) es) :
    DropOldest.History maxQueueSize s.history := by
  have hrun' := Machine.run_restrict.2 ⟨hsteady, hrun⟩
  obtain ⟨ds, hds⟩ := Machine.run_simulation (I := fun _ => True) (fun _ _ => trivial)
    (fun _ hs => history_step (Machine.restrict_step.1 hs).1 (Machine.restrict_step.1 hs).2)
    es trivial hrun'
  exact (DropOldest.run_history (by decide) ds hds).2

/-- **What back-pressure drops.** On an open connection a reply is dropped in exactly the runs in
which a handler of `send_frame` runs while ten messages wait and the oldest of them is a reply; ten
newer messages have then been sent behind it; and as long as none is dropped, the replies are
written in the order in which they were sent. -/
theorem reply_evicted_iff (P : Platform) (api : Api) (id : SessionId) (es : List SessionEvent)
    (s : Session) (hrun : (session P api).run (.opened id) es = some s)
    (hsteady : (session P api).AllSteps Steady (.opened id) es) :
    ((session P api).AllStates RepliesKept (.opened id) es ↔
      (session P api).AllSteps SparesReplies (.opened id) es) ∧
    (∀ text, .reply text ∈ s.evicted →
      ∃ older newer, s.sent = older ++ .reply text :: newer ∧ 10 ≤ newer.length) ∧
    (RepliesKept s →
      s.sent.filter Message.isReply = (s.written ++ s.writeQueue).filter Message.isReply) := by
  have hhist := history_of_steady hrun hsteady
  refine ⟨?_, ?_, ?_⟩
  · exact Machine.allStates_iff_allSteps (J := fun _ => True) (fun _ _ => trivial)
      (fun _ hkept hs => repliesKept_step hkept hs) trivial nofun hrun
  · intro text hmem
    exact hhist.newer hmem
  · intro hkept
    apply hhist.filter_sent
    intro m hm
    cases m with
    | reply text => exact absurd hm (hkept text)
    | live frame => rfl
    | playback frame => rfl

/-- A controller starts a stream over a slow link: ten frames arrive while its first reply is still
being written. -/
def slowLink : List SessionEvent :=
  [.message (lit "controller") false, .runPosted, .startWriter 0, .message (lit "config") false,
    .returned (.ok ()), .runPosted] ++
    (List.range 10).flatMap fun n => [.sendFrame (.live (natToDec n)), .runPosted]

theorem slowLink_run : ∃ s, (session x86_64 sampleApi).run (.opened 1) slowLink = some s ∧
    (session x86_64 sampleApi).AllSteps Steady (.opened 1) slowLink ∧ s.isOpen = true ∧
    s.evicted = [.reply (lit "CONFIG_APPLIED")] := by
  have hruns : (((session x86_64 sampleApi).restrict Steady).run (.opened 1) slowLink).map
      (fun s => (s.isOpen, s.evicted)) = some (true, [.reply (lit "CONFIG_APPLIED")]) := by
    decide +kernel
  obtain ⟨s, hs, heq⟩ := Option.map_eq_some_iff.1 hruns
  obtain ⟨hsteady, hrun⟩ := Machine.run_restrict.1 hs
  rw [Prod.mk.injEq] at heq
  exact ⟨s, hrun, hsteady, heq.1, heq.2⟩

theorem reply_evicted_iff_slowLink :
    ∃ s, (session x86_64 sampleApi).run (.opened 1) slowLink = some s ∧
    s.evicted = [.reply (lit "CONFIG_APPLIED")] ∧
    ((session x86_64 sampleApi).AllStates RepliesKept (.opened 1) slowLink ↔
      (session x86_64 sampleApi).AllSteps SparesReplies (.opened 1) slowLink) ∧
    (∀ text, .reply text ∈ s.evicted →
      ∃ older newer, s.sent = older ++ .reply text :: newer ∧ 10 ≤ newer.length) ∧
    (RepliesKept s →
      s.sent.filter Message.isReply = (s.written ++ s.writeQueue).filter Message.isReply) := by
  obtain ⟨s, hrun, hsteady, -, hevicted⟩ := slowLink_run
  exact ⟨s, hrun, hevicted, reply_evicted_iff x86_64 sampleApi 1 slowLink s hrun hsteady⟩

/-- `CONFIG_APPLIED` is dropped on a connection that is open and on which every write succeeds. -/
theorem reply_lost : ∃ s, (session x86_64 sampleApi).run (.opened 1) slowLink = some s ∧
    (session x86_64 sampleApi).AllSteps Steady (.opened 1) slowLink ∧ s.isOpen = true ∧
    .reply (lit "CONFIG_APPLIED") ∈ s.evicted := by
  obtain ⟨s, hrun, hsteady, hopen, hevicted⟩ := slowLink_run
  exact ⟨s, hrun, hsteady, hopen, hevicted ▸ List.mem_cons_self⟩

end BackPressure

end AsciiStreamer
