import AsciiStreamer.Session.WebSocketSession

/-!
# What a message does

`handle_message` answers a command before its first suspension (`replies`), or awaits a method of
the stream controller and answers when that has returned (`awaited`), or writes `AUTH_FAILED`
itself. An exception is answered with a text that begins with `ERROR: `. `MessageStep` says what
each of them leaves, and what follows about messages follows from it.
-/

namespace AsciiStreamer

open Cxx

/-! ## Replies -/

namespace Command

/-- The replies to a command that awaits nothing. -/
def replies (api : Api) (isStreaming : Bool) : Command → List Bytes
  | .auth apiKey role =>
    if apiKey ≠ api.apiKey then []
    else if role = lit "controller" then [lit "AUTH_CONTROLLER_SUCCESS"]
    else [lit "AUTH_VIEWER_SUCCESS",
      if isStreaming then lit "STREAM_ACTIVE" else lit "STREAM_INACTIVE"]
  | .playbackStart filename =>
    if filename.isEmpty then [lit "ERROR: No filename specified"] else []
  | .recordStart => [lit "RECORDING_STARTED"]
  | .recordStop => [lit "RECORDING_STOPPED"]
  | .unknown => [lit "UNKNOWN_COMMAND"]
  | _ => []

/-- The method a command of the session awaits, and the reply to its return. -/
def awaited (id : SessionId) : Command → Option (Call × Bytes)
  | .config cameraIndex resolution fps =>
    some (.startStreaming cameraIndex resolution fps, lit "CONFIG_APPLIED")
  | .stop => some (.stopStreaming, lit "STREAM_STOPPED")
  | .playbackStart filename =>
    if filename.isEmpty then none else some (.startPlayback filename id, lit "PLAYBACK_STARTED")
  | .playbackPause => some (.pausePlayback, lit "PLAYBACK_PAUSED")
  | .playbackResume => some (.resumePlayback, lit "PLAYBACK_RESUMED")
  | .playbackStop => some (.stopPlayback, lit "PLAYBACK_STOPPED")
  | .playbackSpeed speed => some (.setPlaybackSpeed speed, lit "PLAYBACK_SPEED_CHANGED")
  | _ => none

/-- What a command that is no `auth` and awaits nothing asks of the stream controller. -/
def requests : Command → List Request
  | .recordStart => [.startRecording]
  | .recordStop => [.stopRecording]
  | _ => []

theorem requests_cases (c : Command) : c.requests = [] ∨
    c = .recordStart ∧ c.requests = [.startRecording] ∨
    c = .recordStop ∧ c.requests = [.stopRecording] := by
  cases c with
  | recordStart => exact Or.inr (Or.inl ⟨rfl, rfl⟩)
  | recordStop => exact Or.inr (Or.inr ⟨rfl, rfl⟩)
  | _ => exact Or.inl rfl

theorem replies_of_awaited {api : Api} {isStreaming : Bool} {id : SessionId} {c : Command}
    {x : Call × Bytes} (h : c.awaited id = some x) : c.replies api isStreaming = [] := by
  cases c with
  | playbackStart filename =>
    unfold Command.awaited at h
    obtain ⟨hne, -⟩ := Option.ite_none_left_eq_some.1 h
    exact if_neg hne
  | auth _ _ | recordStart | recordStop | unknown => cases h
  | _ => rfl

end Command

def errorText (e : Exn) : Bytes := lit "ERROR: " ++ e.what

/-- The replies to a message that awaits nothing. -/
def Session.messageReplies (P : Platform) (api : Api) (s : Session) (text : Bytes)
    (isStreaming : Bool) : List Bytes :=
  match decode P api s.isController text with
  | .error e => [errorText e]
  | .ok c => c.replies api isStreaming

/-- The reply to the return of an awaited method. -/
def answer (reply : Bytes) : Except Exn Unit → Bytes
  | .ok () => reply
  | .error e => errorText e

/-! ## The end of a handler -/

/-- A handler ends: it posts these replies, and `do_run` reads on. -/
def Session.answers (s : Session) (texts : List Bytes) : Session :=
  { s with posted := s.posted ++ texts.map Message.reply }.readNext

section Answers

variable {s : Session}

theorem readNext_cases (s : Session) :
    s.readNext.reader = .reading ∨ s.readNext.reader = .finished := by
  unfold Session.readNext
  simp only
  split
  · exact Or.inl rfl
  · exact Or.inr rfl

theorem readNext_eq_answers (s : Session) : s.readNext = s.answers [] := by
  unfold Session.answers
  rw [List.map_nil, List.append_nil]

theorem returned_eq_answers (reply : Bytes) (result : Except Exn Unit) :
    s.returned reply result = s.answers [answer reply result] := by
  cases result with
  | ok u => rfl
  | error err => rfl

theorem authFailedWritten_eq_answers (result : Except Exn Unit) :
    ∃ texts, s.authFailedWritten result = s.answers texts := by
  cases result with
  | ok u => exact ⟨[], readNext_eq_answers s⟩
  | error err => exact ⟨[errorText err], rfl⟩

end Answers

/-! ## Messages -/

/-- **What `handle_message` does** up to its first suspension. -/
inductive MessageStep (P : Platform) (api : Api) (s : Session) (text : Bytes) (isStreaming : Bool)
    (s' : Session) (rs : List Request) : Prop
  | failed (err : Exn) (decoded : decode P api s.isController text = .error err)
      (self : s' = s.answers [errorText err]) (requests : rs = [])
  | rejected (apiKey role : Bytes)
      (decoded : decode P api s.isController text = .ok (.auth apiKey role))
      (wrong : apiKey ≠ api.apiKey) (self : s' = { s with reader := .writingAuthFailed })
      (requests : rs = [])
  | granted (role : Bytes)
      (decoded : decode P api s.isController text = .ok (.auth api.apiKey role))
      (self : s' = { s with
          isAuthenticated := true
          isController := s.isController || decide (role = lit "controller")
        }.answers ((Command.auth api.apiKey role).replies api isStreaming))
      (requests : rs = [.addViewer])
  | awaits (c : Command) (call : Call) (reply : Bytes)
      (decoded : decode P api s.isController text = .ok c)
      (awaited : c.awaited s.sessionId = some (call, reply))
      (self : s' = { s with reader := .calling call reply }) (requests : rs = [.call call])
  | replied (c : Command) (decoded : decode P api s.isController text = .ok c)
      (other : ∀ apiKey role, c ≠ .auth apiKey role) (awaited : c.awaited s.sessionId = none)
      (self : s' = s.answers (c.replies api isStreaming)) (requests : rs = c.requests)

section Messages

variable {P : Platform} {api : Api} {s : Session} {text : Bytes}

theorem runCommand_auth (isStreaming : Bool) (role : Bytes) :
    s.runCommand api isStreaming (.auth api.apiKey role) =
      ({ s with
          isAuthenticated := true
          isController := s.isController || decide (role = lit "controller")
        }.answers ((Command.auth api.apiKey role).replies api isStreaming), [.addViewer]) := by
  have hkey : ¬api.apiKey ≠ api.apiKey := not_not_intro rfl
  simp only [Session.runCommand, Command.replies]
  rw [if_neg hkey, if_neg hkey]
  by_cases hrole : role = lit "controller"
  · rw [if_pos hrole, if_pos hrole, decide_eq_true hrole, Bool.or_true]
    rfl
  · rw [if_neg hrole, if_neg hrole, decide_eq_false hrole, Bool.or_false]
    simp only [Session.answers, Session.sendFrame, List.map_cons, List.map_nil, List.append_assoc,
      List.cons_append, List.nil_append]

/-- A command awaits its method, or answers at once. -/
theorem runCommand_of_ne_auth (api : Api) (s : Session) (isStreaming : Bool) {c : Command}
    (hc : ∀ apiKey role, c ≠ .auth apiKey role) :
    (∃ call reply, c.awaited s.sessionId = some (call, reply) ∧
      s.runCommand api isStreaming c = ({ s with reader := .calling call reply }, [.call call])) ∨
    c.awaited s.sessionId = none ∧
      s.runCommand api isStreaming c = (s.answers (c.replies api isStreaming), c.requests) := by
  cases c with
  | auth apiKey role => exact absurd rfl (hc apiKey role)
  | playbackStart filename =>
    simp only [Session.runCommand, Command.awaited, Command.replies]
    cases filename.isEmpty with
    | true => exact Or.inr ⟨rfl, rfl⟩
    | false => exact Or.inl ⟨_, _, rfl, rfl⟩
  | recordStart | recordStop | unknown => exact Or.inr ⟨rfl, rfl⟩
  | _ => exact Or.inl ⟨_, _, rfl, rfl⟩

theorem messageStep_handleMessage (P : Platform) (api : Api) (s : Session) (text : Bytes)
    (isStreaming : Bool) :
    MessageStep P api s text isStreaming (s.handleMessage P api text isStreaming).1
      (s.handleMessage P api text isStreaming).2 := by
  unfold Session.handleMessage
  cases hd : decode P api s.isController text with
  | error err => exact .failed err hd rfl rfl
  | ok c =>
    by_cases hauth : ∃ apiKey role, c = .auth apiKey role
    · obtain ⟨apiKey, role, rfl⟩ := hauth
      by_cases hkey : apiKey = api.apiKey
      · subst hkey
        simp only [runCommand_auth]
        exact .granted role hd rfl rfl
      · simp only [Session.runCommand, ne_eq, hkey, not_false_eq_true, ↓reduceIte]
        exact .rejected apiKey role hd hkey rfl rfl
    · have hother : ∀ apiKey role, c ≠ .auth apiKey role := by
        intro apiKey role hc
        exact hauth ⟨apiKey, role, hc⟩
      rcases runCommand_of_ne_auth api s isStreaming hother with
        ⟨call, reply, hawaited, hrun⟩ | ⟨hawaited, hrun⟩
      · simp only [hrun]
        exact .awaits c call reply hd hawaited rfl rfl
      · simp only [hrun]
        exact .replied c hd hother hawaited rfl rfl

theorem handleMessage_posted (text : Bytes) (isStreaming : Bool) :
    (s.handleMessage P api text isStreaming).1.posted =
      s.posted ++ (s.messageReplies P api text isStreaming).map .reply := by
  have nothing : s.posted = s.posted ++ ([] : List Bytes).map .reply := (List.append_nil _).symm
  unfold Session.messageReplies
  cases messageStep_handleMessage P api s text isStreaming with
  | failed err decoded self => rw [self, decoded]; rfl
  | rejected apiKey role decoded wrong self =>
    rw [self, decoded]
    simp only [Command.replies, ne_eq, wrong, not_false_eq_true, ↓reduceIte]
    exact nothing
  | granted role decoded self => rw [self, decoded]; rfl
  | awaits c call reply decoded awaited self =>
    rw [self, decoded]
    simp only [Command.replies_of_awaited awaited]
    exact nothing
  | replied c decoded other awaited self => rw [self, decoded]; rfl

end Messages

end AsciiStreamer
