import AsciiStreamer.Session.Authority
import AsciiStreamer.Session.Lifetime

/-!
# What a session replies

`handle_message` answers a command before its first suspension (`replies`) or awaits a method of the
stream controller and answers when that has returned (`awaited`). An exception is answered with a
text that begins with `ERROR: `.
-/

namespace AsciiStreamer

open Cxx

/-- The messages that a segment posts. -/
def Session.posts (P : Platform) (api : Api) (s : Session) : SessionEvent → List Message
  | .message text isStreaming => (s.messageReplies P api text isStreaming).map .reply
  | .authFailedWritten (.error e) => [.reply (errorText e)]
  | .returned result => match s.reader with
    | .calling _ reply => [.reply (answer reply result)]
    | _ => []
  | .sendFrame m => [m]
  | _ => []

/-- `do_run` awaits no method. -/
def Session.Free (s : Session) : Prop := ∀ call reply, s.reader ≠ .calling call reply

/-- The handler of the last message is suspended. -/
def Session.Handling (s : Session) : Prop :=
  s.reader = .writingAuthFailed ∨ ∃ call reply, s.reader = .calling call reply

section Replies

variable {P : Platform} {api : Api} {s s' : Session} {e : SessionEvent} {rs : List Request}

theorem error_ne (what : Bytes) {text : Bytes} (h : text.take 7 ≠ lit "ERROR: ") :
    lit "ERROR: " ++ what ≠ text := by
  rintro rfl
  have hlen : (lit "ERROR: ").length = 7 := rfl
  exact h (List.take_left' hlen)

theorem errorText_ne (err : Exn) {text : Bytes} (h : text.take 7 ≠ lit "ERROR: ") :
    errorText err ≠ text := error_ne err.what h

/-! ## Commands -/

theorem readNext_not_handling (s : Session) : ¬s.readNext.Handling := by
  unfold Session.Handling
  rcases readNext_cases s with h | h
  · rw [h]
    rintro (h | ⟨_, _, h⟩) <;> cases h
  · rw [h]
    rintro (h | ⟨_, _, h⟩) <;> cases h

theorem free_of_not_handling (h : ¬s.Handling) : s.Free := by
  intro call reply hreader
  exact h (Or.inr ⟨call, reply, hreader⟩)

theorem readNext_free (s : Session) : s.readNext.Free :=
  free_of_not_handling (readNext_not_handling s)

/-- The replies to commands that await nothing. -/
theorem replies_cases {isStreaming : Bool} {c : Command} {text : Bytes}
    (h : text ∈ c.replies api isStreaming) : c = .recordStart ∧ text = lit "RECORDING_STARTED" ∨
      text ∈ [lit "AUTH_CONTROLLER_SUCCESS", lit "AUTH_VIEWER_SUCCESS", lit "STREAM_ACTIVE",
        lit "STREAM_INACTIVE", lit "ERROR: No filename specified", lit "RECORDING_STOPPED",
        lit "UNKNOWN_COMMAND"] := by
  cases c with
  | recordStart => exact Or.inl ⟨rfl, List.mem_singleton.1 h⟩
  | auth apiKey role =>
    right
    simp only [Command.replies] at h
    split at h
    · cases h
    · split at h
      · rw [List.mem_singleton] at h
        simp [h]
      · rw [List.mem_cons, List.mem_singleton] at h
        rcases h with h | h
        · simp [h]
        · cases isStreaming <;> simp [h]
  | playbackStart filename =>
    right
    simp only [Command.replies] at h
    split at h
    · rw [List.mem_singleton] at h
      simp [h]
    · cases h
  | recordStop =>
    rw [Command.replies, List.mem_singleton] at h
    simp [h]
  | unknown =>
    rw [Command.replies, List.mem_singleton] at h
    simp [h]
  | _ => cases h

/-! ## Messages -/

theorem call_not_requested (c : Command) (call : Call) : .call call ∉ c.requests := by
  rcases c.requests_cases with hnone | ⟨-, hone⟩ | ⟨-, hone⟩
  · rw [hnone]
    exact List.not_mem_nil
  · rw [hone]
    simp
  · rw [hone]
    simp

theorem returned_posted (reply : Bytes) (result : Except Exn Unit) :
    (s.returned reply result).posted = s.posted ++ [.reply (answer reply result)] := by
  rw [returned_eq_answers]
  rfl

theorem returned_not_handling (reply : Bytes) (result : Except Exn Unit) :
    ¬(s.returned reply result).Handling := by
  rw [returned_eq_answers]
  exact readNext_not_handling _

/-! ## What a segment posts -/

/-- A segment posts messages, or is the handler of the first posted one. -/
theorem posted_step (h : s.step P api e = some (s', rs)) :
    s'.posted = s.posted ++ s.posts P api e ∨ ∃ m, s.posted = m :: s'.posted := by
  have nothing : s'.posted = s.posted → s.posts P api e = [] →
      s'.posted = s.posted ++ s.posts P api e := by
    intro hsame hnone
    rw [hsame, hnone, List.append_nil]
  cases sessionStep_of_step h with
  | accepted ok reader => exact Or.inl (nothing rfl rfl)
  | message text isStreaming reader => exact Or.inl (handleMessage_posted text isStreaming)
  | readFailed closed reader =>
    cases closed with
    | true => exact Or.inl (nothing rfl rfl)
    | false => exact Or.inl (nothing (sameReading_close s).posted rfl)
  | authFailedWritten result reader =>
    cases result with
    | ok u => exact Or.inl (nothing rfl rfl)
    | error err => exact Or.inl rfl
  | returned result call reply reader =>
    left
    simp only [Session.posts, reader]
    exact returned_posted reply result
  | sendFrame m => exact Or.inl rfl
  | runPosted m ms posted =>
    right
    refine ⟨m, ?_⟩
    rw [(sameReading_queueFrame m).posted, posted]
  | startWriter i live => exact Or.inl (nothing (sameReading_doWrite i).posted rfl)
  | writeDone i error m live => exact Or.inl (nothing (sameReading_writeDone i error).posted rfl)
  | disconnected => exact Or.inl (nothing rfl rfl)
  | closed closing => exact Or.inl (nothing rfl rfl)

/-! ## Who the session is -/

theorem handleMessage_sessionId (text : Bytes) (isStreaming : Bool) :
    (s.handleMessage P api text isStreaming).1.sessionId = s.sessionId := by
  cases messageStep_handleMessage P api s text isStreaming with
  | failed err decoded self => rw [self]; rfl
  | rejected apiKey role decoded wrong self => rw [self]
  | granted role decoded self => rw [self]; rfl
  | awaits c call reply decoded awaited self => rw [self]
  | replied c decoded other awaited self => rw [self]; rfl

theorem step_sessionId (h : s.step P api e = some (s', rs)) : s'.sessionId = s.sessionId := by
  cases sessionStep_of_step h with
  | message text isStreaming reader => exact handleMessage_sessionId text isStreaming
  | readFailed closed reader =>
    cases closed with
    | true => rfl
    | false => exact (sameReading_close s).sessionId
  | authFailedWritten result reader => cases result <;> rfl
  | returned result call reply reader => cases result <;> rfl
  | runPosted m ms posted => exact (sameReading_queueFrame m).sessionId
  | startWriter i live => exact (sameReading_doWrite i).sessionId
  | writeDone i error m live => exact (sameReading_writeDone i error).sessionId
  | _ => rfl

end Replies

/-! ## What a segment does to `do_run` -/

inductive ReaderStep (P : Platform) (api : Api) (s : Session) (e : SessionEvent) (s' : Session)
    (rs : List Request) : Prop
  | stays (reader : s'.reader = s.reader)
      (isAuthenticated : s'.isAuthenticated = s.isAuthenticated)
      (isController : s'.isController = s.isController)
      (other : ∀ text isStreaming, e ≠ .message text isStreaming) (requests : rs = [])
  | free (before : s.Free) (after : s'.Free) (requests : ∀ call, .call call ∉ rs)
      (done : (∀ text isStreaming, e ≠ .message text isStreaming) → ¬s'.Handling)
  | awaits (text : Bytes) (isStreaming : Bool) (c : Command) (call : Call) (reply : Bytes)
      (event : e = .message text isStreaming) (before : s.Free)
      (decoded : decode P api s.isController text = .ok c)
      (awaited : c.awaited s.sessionId = some (call, reply))
      (self : s' = { s with reader := .calling call reply }) (requests : rs = [.call call])
  | returned (result : Except Exn Unit) (event : e = .returned result) (done : ¬s'.Handling)

section ReaderSteps

variable {P : Platform} {api : Api} {s s' : Session} {e : SessionEvent} {rs : List Request}

theorem free_of_reader {r : Reader} (h : s.reader = r) (hr : ∀ call reply, r ≠ .calling call reply) :
    s.Free := by
  intro call reply
  rw [h]
  exact hr call reply

/-- A message awaits the method of its command, or none. -/
theorem handleMessage_readerStep (hfree : s.Free) (text : Bytes) (isStreaming : Bool) :
    ReaderStep P api s (.message text isStreaming) (s.handleMessage P api text isStreaming).1
      (s.handleMessage P api text isStreaming).2 := by
  have free_of : ∀ {s' : Session} {rs : List Request}, s'.Free → (∀ call, .call call ∉ rs) →
      ReaderStep P api s (.message text isStreaming) s' rs := by
    intro s' rs hafter hno
    exact .free hfree hafter hno fun hother => absurd rfl (hother text isStreaming)
  cases messageStep_handleMessage P api s text isStreaming with
  | failed err decoded self requests =>
    rw [self, requests]
    exact free_of (readNext_free _) nofun
  | rejected apiKey role decoded wrong self requests =>
    rw [self, requests]
    exact free_of nofun nofun
  | granted role decoded self requests =>
    rw [self, requests]
    exact free_of (readNext_free _) (by simp)
  | awaits c call reply decoded awaited self requests =>
    exact .awaits text isStreaming c call reply rfl hfree decoded awaited self requests
  | replied c decoded other awaited self requests =>
    rw [self, requests]
    exact free_of (readNext_free _) (call_not_requested c)

theorem readerStep_of_step (h : s.step P api e = some (s', rs)) : ReaderStep P api s e s' rs := by
  cases sessionStep_of_step h with
  | accepted ok reader =>
    exact .free (free_of_reader reader nofun) (readNext_free _) nofun
      fun _ => readNext_not_handling _
  | message text isStreaming reader =>
    exact handleMessage_readerStep (free_of_reader reader nofun) text isStreaming
  | readFailed closed reader =>
    have hdone : ¬(s.readFailed closed).Handling := by
      rintro (h | ⟨_, _, h⟩) <;> cases h
    exact .free (free_of_reader reader nofun) (free_of_not_handling hdone) nofun fun _ => hdone
  | authFailedWritten result reader =>
    have hdone : ¬(s.authFailedWritten result).Handling := by
      obtain ⟨texts, heq⟩ := authFailedWritten_eq_answers (s := s) result
      rw [heq]
      exact readNext_not_handling _
    exact .free (free_of_reader reader nofun) (free_of_not_handling hdone) nofun fun _ => hdone
  | returned result call reply reader =>
    exact .returned result rfl (returned_not_handling reply result)
  | sendFrame m => exact .stays rfl rfl rfl nofun rfl
  | runPosted m ms posted =>
    have hsame := sameReading_queueFrame (s := { s with posted := ms, sent := s.sent ++ [m] }) m
    exact .stays hsame.reader hsame.isAuthenticated hsame.isController nofun rfl
  | startWriter i live =>
    have hsame := sameReading_doWrite (s := s) i
    exact .stays hsame.reader hsame.isAuthenticated hsame.isController nofun rfl
  | writeDone i error m live =>
    have hsame := sameReading_writeDone (s := s) i error
    exact .stays hsame.reader hsame.isAuthenticated hsame.isController nofun rfl
  | disconnected => exact .stays rfl rfl rfl nofun rfl
  | closed closing => exact .stays rfl rfl rfl nofun rfl

end ReaderSteps

/-! ## Messages that are not done with, and messages that fail -/

/-- A segment that leaves the flags alone and at most calls a method. -/
structure Asks (s s' : Session) (rs : List Request) : Prop where
  isAuthenticated : s'.isAuthenticated = s.isAuthenticated
  isController : s'.isController = s.isController
  requests : rs = [] ∨ ∃ call, rs = [.call call]

section Handling

variable {P : Platform} {api : Api} {s s' : Session} {e : SessionEvent} {rs : List Request}

/-- No reply but to a `playback_start` that names no file begins like the reply to an exception. -/
theorem replies_not_error {isStreaming : Bool} {c : Command} {what : Bytes}
    (h : lit "ERROR: " ++ what ∈ c.replies api isStreaming) :
    ∃ filename, c = .playbackStart filename := by
  have none_of : ∀ texts : List Bytes, (∀ text ∈ texts, text.take 7 ≠ lit "ERROR: ") →
      lit "ERROR: " ++ what ∉ texts := by
    intro texts hall hmem
    exact error_ne what (hall _ hmem) rfl
  cases c with
  | playbackStart filename => exact ⟨filename, rfl⟩
  | auth apiKey role =>
    simp only [Command.replies] at h
    split at h
    · cases h
    · split at h
      · exact absurd h (none_of _ (by decide))
      · exact absurd h (none_of _ (by cases isStreaming <;> decide))
  | recordStart | recordStop | unknown =>
    simp only [Command.replies] at h
    exact absurd h (none_of _ (by decide))
  | _ => cases h

/-- The messages that are not done with at once, or answered with an error. -/
theorem handleMessage_asks {text : Bytes} {isStreaming : Bool}
    (h : (s.handleMessage P api text isStreaming).1.Handling ∨
      ∃ what, lit "ERROR: " ++ what ∈ s.messageReplies P api text isStreaming) :
    Asks s (s.handleMessage P api text isStreaming).1
      (s.handleMessage P api text isStreaming).2 := by
  unfold Session.messageReplies at h
  cases messageStep_handleMessage P api s text isStreaming with
  | failed err decoded self requests =>
    rw [self, requests]
    exact ⟨rfl, rfl, Or.inl rfl⟩
  | rejected apiKey role decoded wrong self requests =>
    rw [self, requests]
    exact ⟨rfl, rfl, Or.inl rfl⟩
  | granted role decoded self requests =>
    rw [self, decoded] at h
    rcases h with h | ⟨what, h⟩
    · exact absurd h (readNext_not_handling _)
    · obtain ⟨filename, hc⟩ := replies_not_error h
      cases hc
  | awaits c call reply decoded awaited self requests =>
    rw [self, requests]
    exact ⟨rfl, rfl, Or.inr ⟨call, rfl⟩⟩
  | replied c decoded other awaited self requests =>
    rw [self, decoded] at h
    rcases h with h | ⟨what, h⟩
    · exact absurd h (readNext_not_handling _)
    · obtain ⟨filename, rfl⟩ := replies_not_error h
      rw [self, requests]
      exact ⟨rfl, rfl, Or.inl rfl⟩

/-- A message begins to be handled only when it is read. -/
theorem handling_step (h : s.step P api e = some (s', rs)) (hs : s'.Handling)
    (hno : ∀ text isStreaming, e ≠ .message text isStreaming) :
    s'.reader = s.reader ∧ Asks s s' rs := by
  cases readerStep_of_step h with
  | stays reader isAuthenticated isController other requests =>
    exact ⟨reader, isAuthenticated, isController, Or.inl requests⟩
  | free before after requests done => exact absurd hs (done hno)
  | awaits text isStreaming c call reply event => exact absurd event (hno text isStreaming)
  | returned result event done => exact absurd hs done

end Handling

end AsciiStreamer
