import AsciiStreamer.Session.Messages

/-!
# What a message may do

The permissions of a session are two flags that `handle_message` sets and nothing clears.
`AuthMessage` is the message that sets them, in the words of the protocol; `step_authority` says
that no other segment touches the flags, and that the four privileged operations of the stream
controller are requested by a session with `is_controller_` only.
-/

namespace AsciiStreamer

open Cxx

/-- The text is an `auth` message with the server's key and this role. -/
def AuthMessage (api : Api) (text role : Bytes) : Prop :=
  ∃ j, api.parse text = .ok j ∧ (j.field (lit "type") >>= Json.getString) = .ok (lit "auth") ∧
    (j.field (lit "api_key") >>= Json.getString) = .ok api.apiKey ∧
    j.value (lit "role") Json.getString (lit "viewer") = .ok role

def Request.operation : Request → Option Operation
  | .addViewer => none
  | .call c => c.operation
  | .startRecording => some .startRecording
  | .stopRecording => some .stopRecording

/-! ## Decoding -/

section Decode

variable {P : Platform} {api : Api} {isController : Bool} {text : Bytes}

/-- A command that needs `is_controller_`. -/
def Command.privileged : Command → Bool
  | .config .. | .stop | .recordStart | .recordStop => true
  | _ => false

/-- The branches of `handle_message`: those that read the fields of the key and of the stream, the
others that ask for `is_controller_`, the rest. -/
inductive Branch (P : Platform) (j : Json) (type : Bytes) (isController : Bool) : Command → Prop
  | auth (apiKey role : Bytes) (type_eq : type = lit "auth")
      (apiKey_eq : (j.field (lit "api_key") >>= Json.getString) = .ok apiKey)
      (role_eq : j.value (lit "role") Json.getString (lit "viewer") = .ok role) :
    Branch P j type isController (.auth apiKey role)
  | config (cameraIndex : Int) (resolution : Bytes) (fps : Int) (type_eq : type = lit "config")
      (controller : isController = true)
      (cameraIndex_eq : j.value (lit "camera_index") (Json.getInt (castInt P)) 0 = .ok cameraIndex)
      (resolution_eq : j.value (lit "resolution") Json.getString (lit "120x90") = .ok resolution)
      (fps_eq : j.value (lit "fps") (Json.getInt (castInt P)) 10 = .ok fps) :
    Branch P j type isController (.config cameraIndex resolution fps)
  | controller (c : Command) (controller : isController = true)
      (command : c = .stop ∨ c = .recordStart ∨ c = .recordStop) : Branch P j type isController c
  | anyone (c : Command) (unprivileged : c.privileged = false)
      (other : ∀ apiKey role, c ≠ .auth apiKey role) : Branch P j type isController c

theorem command_branch {j : Json} {type : Bytes} {c : Command}
    (h : command P j type isController = .ok c) : Branch P j type isController c := by
  unfold command at h
  rcases ite_eq_iff.1 h with ⟨htype, h⟩ | ⟨-, h⟩
  · obtain ⟨k, hk, h⟩ := bind_ok.1 h
    obtain ⟨apiKey, ha, h⟩ := bind_ok.1 h
    obtain ⟨role, hr, h⟩ := bind_ok.1 h
    cases h
    exact .auth apiKey role htype (bind_ok.2 ⟨k, hk, ha⟩) hr
  rcases ite_eq_iff.1 h with ⟨⟨htype, hcon⟩, h⟩ | ⟨-, h⟩
  · obtain ⟨cameraIndex, hc, h⟩ := bind_ok.1 h
    obtain ⟨resolution, hr, h⟩ := bind_ok.1 h
    obtain ⟨fps, hf, h⟩ := bind_ok.1 h
    cases h
    exact .config cameraIndex resolution fps htype hcon hc hr hf
  rcases ite_eq_iff.1 h with ⟨⟨-, hcon⟩, h⟩ | ⟨-, h⟩
  · cases h
    exact .controller _ hcon (Or.inl rfl)
  rcases ite_eq_iff.1 h with ⟨-, h⟩ | ⟨-, h⟩
  · obtain ⟨filename, -, h⟩ := bind_ok.1 h
    cases h
    exact .anyone _ rfl nofun
  rcases ite_eq_iff.1 h with ⟨-, h⟩ | ⟨-, h⟩
  · cases h
    exact .anyone _ rfl nofun
  rcases ite_eq_iff.1 h with ⟨-, h⟩ | ⟨-, h⟩
  · cases h
    exact .anyone _ rfl nofun
  rcases ite_eq_iff.1 h with ⟨-, h⟩ | ⟨-, h⟩
  · cases h
    exact .anyone _ rfl nofun
  rcases ite_eq_iff.1 h with ⟨-, h⟩ | ⟨-, h⟩
  · obtain ⟨speed, -, h⟩ := bind_ok.1 h
    cases h
    exact .anyone _ rfl nofun
  rcases ite_eq_iff.1 h with ⟨⟨-, hcon⟩, h⟩ | ⟨-, h⟩
  · cases h
    exact .controller _ hcon (Or.inr (Or.inl rfl))
  rcases ite_eq_iff.1 h with ⟨⟨-, hcon⟩, h⟩ | ⟨-, h⟩
  · cases h
    exact .controller _ hcon (Or.inr (Or.inr rfl))
  · cases h
    exact .anyone _ rfl nofun

/-- A command that has been decoded comes from a document with a type. -/
theorem branch_of_decode {c : Command} (h : decode P api isController text = .ok c) :
    ∃ j type, api.parse text = .ok j ∧ (j.field (lit "type") >>= Json.getString) = .ok type ∧
      Branch P j type isController c := by
  obtain ⟨j, hj, h⟩ := bind_ok.1 h
  obtain ⟨f, hf, h⟩ := bind_ok.1 h
  obtain ⟨type, htype, h⟩ := bind_ok.1 h
  exact ⟨j, type, hj, bind_ok.2 ⟨f, hf, htype⟩, command_branch h⟩

/-- An `auth` command with the server's key comes from an `AuthMessage`. -/
theorem decode_auth {role : Bytes}
    (h : decode P api isController text = .ok (.auth api.apiKey role)) :
    AuthMessage api text role := by
  obtain ⟨j, type, hj, htype, hbranch⟩ := branch_of_decode h
  cases hbranch with
  | auth _ _ type_eq apiKey_eq role_eq => exact ⟨j, hj, type_eq ▸ htype, apiKey_eq, role_eq⟩
  | controller _ controller command => rcases command with hc | hc | hc <;> cases hc
  | anyone _ unprivileged other => exact absurd rfl (other api.apiKey role)

theorem decode_privileged {c : Command} (h : decode P api isController text = .ok c)
    (hc : c.privileged = true) : isController = true := by
  obtain ⟨j, type, -, -, hbranch⟩ := branch_of_decode h
  cases hbranch with
  | auth => cases hc
  | config _ _ _ _ controller => exact controller
  | controller _ controller => exact controller
  | anyone _ unprivileged =>
    rw [unprivileged] at hc
    cases hc

/-- A method that needs `is_controller_` is awaited by a command that does. -/
theorem privileged_of_awaited {id : SessionId} {c : Command} {call : Call} {reply : Bytes}
    (h : c.awaited id = some (call, reply)) (hop : call.operation.isSome = true) :
    c.privileged = true := by
  cases c with
  | config _ _ _ | stop => rfl
  | playbackStart filename =>
    obtain ⟨-, h⟩ := Option.ite_none_left_eq_some.1 h
    cases h
    cases hop
  | playbackPause | playbackResume | playbackStop | playbackSpeed _ =>
    cases h
    cases hop
  | _ => cases h

theorem awaited_ne_removal {id : SessionId} {c : Command} {call : Call} {reply : Bytes}
    (h : c.awaited id = some (call, reply)) (id' : SessionId) : call ≠ .removeViewerById id' := by
  cases c with
  | playbackStart filename =>
    obtain ⟨-, h⟩ := Option.ite_none_left_eq_some.1 h
    cases h
    exact nofun
  | auth _ _ | recordStart | recordStop | unknown => cases h
  | _ =>
    cases h
    exact nofun

end Decode

/-! ## The flags -/

/-- A segment that does not touch the flags: nobody becomes a viewer, the privileged operations
need `is_controller_`, and a method is called only by `do_run`. -/
structure KeepsFlags (s s' : Session) (rs : List Request) : Prop where
  isAuthenticated : s'.isAuthenticated = s.isAuthenticated
  isController : s'.isController = s.isController
  noViewer : .addViewer ∉ rs
  privileged : ∀ r ∈ rs, r.operation.isSome = true → s.isController = true
  noRemoval : ∀ id, .call (.removeViewerById id) ∉ rs

/-- What a segment does to the permissions of its session. -/
inductive Authority (api : Api) (s : Session) (e : SessionEvent) (s' : Session)
    (rs : List Request) : Prop
  | keeps (flags : KeepsFlags s s' rs)
  | granted (text : Bytes) (isStreaming : Bool) (role : Bytes) (event : e = .message text isStreaming)
      (auth : AuthMessage api text role) (isAuthenticated : s'.isAuthenticated = true)
      (isController : s'.isController = (s.isController || decide (role = lit "controller")))
      (requests : rs = [.addViewer])

section Flags

variable {P : Platform} {api : Api} {s s' : Session} {e : SessionEvent} {rs : List Request}

/-- A segment that asks nothing of the stream controller. -/
theorem KeepsFlags.silent (h1 : s'.isAuthenticated = s.isAuthenticated)
    (h2 : s'.isController = s.isController) : KeepsFlags s s' [] :=
  ⟨h1, h2, List.not_mem_nil, nofun, fun _ => List.not_mem_nil⟩

theorem KeepsFlags.single {r : Request} (h1 : s'.isAuthenticated = s.isAuthenticated)
    (h2 : s'.isController = s.isController) (hv : r ≠ .addViewer)
    (hp : r.operation.isSome = true → s.isController = true)
    (hr : ∀ id, r ≠ .call (.removeViewerById id)) : KeepsFlags s s' [r] := by
  refine ⟨h1, h2, ?_, ?_, ?_⟩
  · intro h
    exact hv (List.mem_singleton.1 h).symm
  · intro r' hr'
    rw [List.mem_singleton] at hr'
    subst hr'
    exact hp
  · intro id h
    exact hr id (List.mem_singleton.1 h).symm

theorem KeepsFlags.answers (texts : List Bytes) : KeepsFlags s (s.answers texts) [] :=
  .silent rfl rfl

theorem handleMessage_authority (text : Bytes) (isStreaming : Bool) :
    Authority api s (.message text isStreaming) (s.handleMessage P api text isStreaming).1
      (s.handleMessage P api text isStreaming).2 := by
  cases messageStep_handleMessage P api s text isStreaming with
  | failed err decoded self requests =>
    rw [self, requests]
    exact .keeps (.answers _)
  | rejected apiKey role decoded wrong self requests =>
    rw [self, requests]
    exact .keeps (.silent rfl rfl)
  | granted role decoded self requests =>
    rw [self, requests]
    exact .granted text isStreaming role rfl (decode_auth decoded) rfl rfl rfl
  | awaits c call reply decoded awaited self requests =>
    have hpriv : (Request.call call).operation.isSome = true → s.isController = true := by
      intro hop
      exact decode_privileged decoded (privileged_of_awaited awaited hop)
    have hremoval : ∀ id, Request.call call ≠ .call (.removeViewerById id) := by
      intro id heq
      exact awaited_ne_removal awaited id (Request.call.inj heq)
    rw [self, requests]
    exact .keeps (.single rfl rfl nofun hpriv hremoval)
  | replied c decoded other awaited self requests =>
    rw [self, requests]
    rcases c.requests_cases with hnone | ⟨rfl, hone⟩ | ⟨rfl, hone⟩
    · rw [hnone]
      exact .keeps (.answers _)
    · rw [hone]
      exact .keeps (.single rfl rfl nofun (fun _ => decode_privileged decoded rfl) nofun)
    · rw [hone]
      exact .keeps (.single rfl rfl nofun (fun _ => decode_privileged decoded rfl) nofun)

/-- **What a segment does to the permissions of its session.** -/
theorem step_authority (h : s.step P api e = some (s', rs)) : Authority api s e s' rs := by
  cases sessionStep_of_step h with
  | accepted ok reader => exact .keeps (.silent rfl rfl)
  | message text isStreaming reader => exact handleMessage_authority text isStreaming
  | readFailed closed reader =>
    cases closed with
    | true => exact .keeps (.silent rfl rfl)
    | false =>
      have hsame := sameReading_close s
      exact .keeps (.silent hsame.isAuthenticated hsame.isController)
  | authFailedWritten result reader =>
    obtain ⟨texts, heq⟩ := authFailedWritten_eq_answers (s := s) result
    rw [heq]
    exact .keeps (.answers texts)
  | returned result call reply reader =>
    rw [returned_eq_answers]
    exact .keeps (.answers _)
  | sendFrame m => exact .keeps (.silent rfl rfl)
  | runPosted m ms posted =>
    have hsame := sameReading_queueFrame (s := { s with posted := ms, sent := s.sent ++ [m] }) m
    exact .keeps (.silent hsame.isAuthenticated hsame.isController)
  | startWriter i live =>
    have hsame := sameReading_doWrite (s := s) i
    exact .keeps (.silent hsame.isAuthenticated hsame.isController)
  | writeDone i error m live =>
    have hsame := sameReading_writeDone (s := s) i error
    exact .keeps (.silent hsame.isAuthenticated hsame.isController)
  | disconnected => exact .keeps (.silent rfl rfl)
  | closed closing => exact .keeps (.silent rfl rfl)

end Flags

end AsciiStreamer
