import AsciiStreamer.Session.Writer

/-!
# Writes in flight

The WebSocket library allows one outstanding `async_write`. `do_write` has at most one, since there
is at most one `do_write` (`OneWriter`). The reply `AUTH_FAILED` does not go through the queue:
`handle_message` writes it directly, which is how two writes can be outstanding at once, and the
only way (`one_write_iff`).
-/

namespace AsciiStreamer

open Cxx

/-- The writes of `do_write` that are outstanding. -/
def Session.queuedWrites (s : Session) : Nat := s.writers.countP fun w => w ≠ .spawned

/-- The writes that are outstanding on the connection. -/
def Session.outstanding (s : Session) : Nat :=
  s.queuedWrites + if s.reader = .writingAuthFailed then 1 else 0

/-- The message is an `auth` with a wrong key. -/
def Rejected (P : Platform) (api : Api) (s : Session) (text : Bytes) : Prop :=
  ∃ apiKey role, decode P api s.isController text = .ok (.auth apiKey role) ∧ apiKey ≠ api.apiKey

/-- No wrong key is handled while `do_write` has a write outstanding, and no `do_write` begins one
while `AUTH_FAILED` is outstanding. -/
def NoClash (P : Platform) (api : Api) (s : Session) : SessionEvent → Prop
  | .message text _ => Rejected P api s text → ∀ w ∈ s.writers, w = .spawned
  | .startWriter _ => s.writeQueue ≠ [] → s.isOpen = true → s.reader ≠ .writingAuthFailed
  | _ => True

section InFlight

variable {P : Platform} {api : Api} {s s' : Session} {e : SessionEvent}

theorem outstanding_of_reader (h : s.reader ≠ .writingAuthFailed) :
    s.outstanding = s.queuedWrites := by
  simp only [Session.outstanding, h, ↓reduceIte, Nat.add_zero]

theorem OneWriter.queuedWrites_le (h : OneWriter s) : s.queuedWrites ≤ 1 := by
  have hlen : s.writers.length ≤ 1 := by
    rw [h]
    split <;> omega
  exact Nat.le_trans List.countP_le_length hlen

theorem queuedWrites_eq_zero : s.queuedWrites = 0 ↔ ∀ w ∈ s.writers, w = .spawned := by
  simp [Session.queuedWrites, List.countP_eq_zero]

theorem outstanding_le_of_reader (h : OneWriter s) (hr : s.reader ≠ .writingAuthFailed) :
    s.outstanding ≤ 1 := by
  rw [outstanding_of_reader hr]
  exact h.queuedWrites_le

theorem readNext_reader (s : Session) : s.readNext.reader ≠ .writingAuthFailed := by
  rcases readNext_cases s with h | h
  · rw [h]
    exact nofun
  · rw [h]
    exact nofun

/-- Only a wrong key leads to the direct write. -/
theorem handleMessage_reader {text : Bytes} {isStreaming : Bool} (h : ¬Rejected P api s text) :
    (s.handleMessage P api text isStreaming).1.reader ≠ .writingAuthFailed := by
  cases messageStep_handleMessage P api s text isStreaming with
  | failed err decoded self =>
    rw [self]
    exact readNext_reader _
  | rejected apiKey role decoded wrong => exact absurd ⟨apiKey, role, decoded, wrong⟩ h
  | granted role decoded self =>
    rw [self]
    exact readNext_reader _
  | awaits c call reply decoded awaited self =>
    rw [self]
    exact nofun
  | replied c decoded other awaited self =>
    rw [self]
    exact readNext_reader _

theorem handleMessage_rejected {text : Bytes} {isStreaming : Bool} (h : Rejected P api s text) :
    (s.handleMessage P api text isStreaming).1 = { s with reader := .writingAuthFailed } := by
  obtain ⟨apiKey, role, hd, hne⟩ := h
  simp only [Session.handleMessage, hd, Session.runCommand, hne, ne_eq, not_false_eq_true,
    ↓reduceIte]

theorem queueFrame_outstanding (m : Message) : (s.queueFrame m).outstanding = s.outstanding := by
  have hr : (s.queueFrame m).reader = s.reader := (sameReading_queueFrame m).reader
  have hw : (s.queueFrame m).queuedWrites = s.queuedWrites := by
    unfold Session.queueFrame Session.queuedWrites
    split
    · rfl
    · simp only
      split <;> split <;> simp
  rw [Session.outstanding, hr, hw]
  rfl

/-- The only `do_write` begins its next write. -/
theorem startWriter_some {w : Writer} (honly : s.writers = [w]) (hq : s.writeQueue ≠ [])
    (ho : s.isOpen = true) : (s.proceedWriter 0 s.doWrite).outstanding =
      1 + if s.reader = .writingAuthFailed then 1 else 0 := by
  obtain ⟨m, q, hmq⟩ := List.exists_cons_of_ne_nil hq
  have hdo : s.doWrite = ({ s with writeQueue := q, written := s.written ++ [m] },
      some (.writing m)) := by
    simp only [Session.doWrite, hmq, ho]
  simp only [hdo, Session.proceedWriter, honly]
  rfl

/-- The only `do_write` ends. -/
theorem startWriter_none {w : Writer} (honly : s.writers = [w])
    (h : s.writeQueue = [] ∨ s.isOpen = false) : (s.proceedWriter 0 s.doWrite).outstanding =
      if s.reader = .writingAuthFailed then 1 else 0 := by
  have hdo : s.doWrite = ({ s with isWriting := false }, none) := by
    rcases h with h | h
    · simp only [Session.doWrite, h]
    · cases hq : s.writeQueue <;> simp only [Session.doWrite, h, hq]
  have hzero : ({ s with isWriting := false, writers := [] } : Session).queuedWrites = 0 := rfl
  simp only [hdo, Session.proceedWriter, honly, proceed, List.eraseIdx_cons_zero,
    Session.outstanding, hzero, Nat.zero_add]

/-- The direct write beside the queue is the only thing that can go wrong in one step. -/
theorem outstanding_step (h : OneWriter s) (hp : s.outstanding ≤ 1)
    (hs : (session P api).step s e = some s') : s'.outstanding ≤ 1 ↔ NoClash P api s e := by
  have hone := h.step hs
  obtain ⟨rs, hstep⟩ := sessionStep_of_session hs
  cases hstep with
  | accepted ok reader =>
    exact iff_of_true (outstanding_le_of_reader hone (readNext_reader _)) trivial
  | message text isStreaming reader =>
    by_cases hrej : Rejected P api s text
    · rw [handleMessage_rejected hrej]
      have hout : ({ s with reader := .writingAuthFailed } : Session).outstanding =
          s.queuedWrites + 1 := rfl
      constructor
      · intro hle _
        exact queuedWrites_eq_zero.1 (by omega)
      · intro hno
        have hzero := queuedWrites_eq_zero.2 (hno hrej)
        omega
    · refine iff_of_true (outstanding_le_of_reader hone ?_) fun hrej' => absurd hrej' hrej
      exact handleMessage_reader hrej
  | readFailed closed reader =>
    exact iff_of_true (outstanding_le_of_reader hone nofun) trivial
  | authFailedWritten result reader =>
    refine iff_of_true (outstanding_le_of_reader hone ?_) trivial
    obtain ⟨texts, heq⟩ := authFailedWritten_eq_answers (s := s) result
    rw [heq]
    exact readNext_reader _
  | returned result call reply reader =>
    refine iff_of_true (outstanding_le_of_reader hone ?_) trivial
    rw [returned_eq_answers]
    exact readNext_reader _
  | sendFrame m => exact iff_of_true hp trivial
  | runPosted m ms posted =>
    refine iff_of_true ?_ trivial
    rw [queueFrame_outstanding]
    exact hp
  | startWriter i live =>
    obtain ⟨-, hi, honly⟩ := h.only live
    subst hi
    by_cases hw : s.writeQueue ≠ [] ∧ s.isOpen = true
    · obtain ⟨hne, ho⟩ := hw
      have hout := startWriter_some honly hne ho
      constructor
      · intro hle _ _ hr
        rw [hout, hr, if_pos rfl] at hle
        omega
      · intro hno
        rw [hout, if_neg (hno hne ho)]
    · rw [not_and_or, not_not, Bool.not_eq_true] at hw
      have hout := startWriter_none honly hw
      refine iff_of_true ?_ fun hne ho => ?_
      · rw [hout]
        split <;> omega
      · rcases hw with hw | hw
        · exact absurd hw hne
        · rw [ho] at hw
          cases hw
  | writeDone i error m live =>
    refine iff_of_true ?_ trivial
    obtain ⟨-, hi, honly⟩ := h.only live
    -- with this write outstanding the reader has none of its own
    have hr : s.reader ≠ .writingAuthFailed := by
      intro hr
      rw [Session.outstanding, Session.queuedWrites, honly, hr] at hp
      simp at hp
    refine outstanding_le_of_reader hone ?_
    rw [(sameReading_writeDone i error).reader]
    exact hr
  | disconnected => exact iff_of_true hp trivial
  | closed closing => exact iff_of_true hp trivial

/-- **When at most one write is in flight**: in exactly the runs in which the direct write of
`AUTH_FAILED` and the writes of `do_write` keep out of each other's way. -/
theorem one_write_iff (P : Platform) (api : Api) (id : SessionId) (es : List SessionEvent)
    (s : Session) (hrun : (session P api).run { sessionId := id } es = some s) :
    (session P api).AllStates (fun s => s.outstanding ≤ 1) { sessionId := id } es ↔
      (session P api).AllSteps (NoClash P api) { sessionId := id } es := by
  have hinit : OneWriter { sessionId := id } := rfl
  exact Machine.allStates_iff_allSteps (J := OneWriter) (fun hj hs => hj.step hs)
    (fun hj hp hs => outstanding_step hj hp hs) hinit (Nat.zero_le 1) hrun

/-- An authenticated viewer sends a wrong key while a message is being written to it. -/
def clash : List SessionEvent :=
  [.accepted true, .message (lit "good") false, .runPosted, .startWriter 0,
    .message (lit "bad") false]

theorem one_write_iff_clash :
    (session x86_64 sampleApi).AllStates (fun s => s.outstanding ≤ 1) { sessionId := 1 } clash ↔
      (session x86_64 sampleApi).AllSteps (NoClash x86_64 sampleApi) { sessionId := 1 } clash := by
  have hruns : ((session x86_64 sampleApi).run { sessionId := 1 } clash).isSome = true := by
    decide +kernel
  obtain ⟨s, hs⟩ := Option.isSome_iff_exists.1 hruns
  exact one_write_iff x86_64 sampleApi 1 clash s hs

/-- Then two writes are outstanding. -/
theorem two_writes : ((session x86_64 sampleApi).run { sessionId := 1 } clash).map
    Session.outstanding = some 2 := by
  decide +kernel

end InFlight

end AsciiStreamer
