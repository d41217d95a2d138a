import AsciiStreamer.Session.Replies
import AsciiStreamer.Session.Writer

/-!
# The dialogue of a session with its client

The client sends messages and is sent replies. `Conversation` is what the protocol says of them: the
messages are answered one after the other, each as its command says under the rights that the earlier
ones have gained. `Talk` is a session in the middle of a conversation: every message but the last has
been answered in full, and the last either has, or the session awaits what it is to be answered with.
-/

namespace AsciiStreamer

open Cxx

/-! ## The protocol -/

/-- A message, and the replies to it. -/
structure Exchange where
  text : Bytes
  replies : List Bytes
  deriving DecidableEq, Repr

/-- The replies are an answer to the message, in a session with these rights. -/
inductive Answers (P : Platform) (api : Api) (id : SessionId) (isController : Bool)
    (x : Exchange) : Prop
  | failed (err : Exn) (decoded : decode P api isController x.text = .error err)
      (replies : x.replies = [errorText err])
  /-- The message presents a wrong key, and `AUTH_FAILED` cannot be written. -/
  | unwritten (apiKey role : Bytes) (err : Exn)
      (decoded : decode P api isController x.text = .ok (.auth apiKey role))
      (wrong : apiKey ≠ api.apiKey) (replies : x.replies = [errorText err])
  | replied (c : Command) (isStreaming : Bool) (decoded : decode P api isController x.text = .ok c)
      (awaited : c.awaited id = none) (replies : x.replies = c.replies api isStreaming)
  | returned (c : Command) (call : Call) (reply : Bytes) (result : Except Exn Unit)
      (decoded : decode P api isController x.text = .ok c)
      (awaited : c.awaited id = some (call, reply)) (replies : x.replies = [answer reply result])

/-- The command makes the session a controller. -/
def Command.promotes (api : Api) : Command → Bool
  | .auth apiKey role => decide (apiKey = api.apiKey ∧ role = lit "controller")
  | _ => false

/-- The rights of a session after it has handled a message. -/
def rightsAfter (P : Platform) (api : Api) (isController : Bool) (text : Bytes) : Bool :=
  match decode P api isController text with
  | .ok c => isController || c.promotes api
  | .error _ => isController

/-- The exchanges of a session, and the rights it ends with. -/
inductive Conversation (P : Platform) (api : Api) (id : SessionId) : List Exchange → Bool → Prop
  | nil : Conversation P api id [] false
  | snoc {xs : List Exchange} {isController : Bool} (x : Exchange)
      (earlier : Conversation P api id xs isController) (answers : Answers P api id isController x) :
    Conversation P api id (xs ++ [x]) (rightsAfter P api isController x.text)

/-! ## A session in conversation -/

def Message.replyText : Message → Option Bytes
  | .reply text => some text
  | _ => none

/-- The replies that the session has handed to `send_frame`. -/
def Session.replyTexts (s : Session) : List Bytes := (s.sent ++ s.posted).filterMap Message.replyText

/-- What the session awaits is what it is to answer the message with. -/
inductive Pending (P : Platform) (api : Api) (s : Session) (text : Bytes) : Prop
  | rejected (apiKey role : Bytes) (reader : s.reader = .writingAuthFailed)
      (decoded : decode P api s.isController text = .ok (.auth apiKey role))
      (wrong : apiKey ≠ api.apiKey)
  | calling (c : Command) (call : Call) (reply : Bytes) (reader : s.reader = .calling call reply)
      (decoded : decode P api s.isController text = .ok c)
      (awaited : c.awaited s.sessionId = some (call, reply))

/-- The messages of the session, and what it has replied to them. -/
inductive Talk (P : Platform) (api : Api) (s : Session) (texts : List Bytes) : Prop
  | idle (xs : List Exchange) (conversation : Conversation P api s.sessionId xs s.isController)
      (free : ¬s.Handling) (messages : texts = xs.map Exchange.text)
      (replies : s.replyTexts = xs.flatMap Exchange.replies)
  | handling (xs : List Exchange) (text : Bytes)
      (conversation : Conversation P api s.sessionId xs s.isController)
      (pending : Pending P api s text) (messages : texts = xs.map Exchange.text ++ [text])
      (replies : s.replyTexts = xs.flatMap Exchange.replies)

/-- The message that a segment handles. -/
def SessionEvent.text : SessionEvent → Option Bytes
  | .message text _ => some text
  | _ => none

/-- The segment leaves the conversation where it is. -/
structure SameTalk (s s' : Session) : Prop where
  sessionId : s'.sessionId = s.sessionId
  isController : s'.isController = s.isController
  replies : s'.replyTexts = s.replyTexts

section Dialogue

variable {P : Platform} {api : Api} {s s' : Session} {e : SessionEvent} {rs : List Request}
  {texts : List Bytes}

/-! ## Replies -/

theorem replyTexts_posted {s' : Session} (hsent : s'.sent = s.sent) {ms : List Message}
    (hposted : s'.posted = s.posted ++ ms) :
    s'.replyTexts = s.replyTexts ++ ms.filterMap Message.replyText := by
  unfold Session.replyTexts
  rw [hsent, hposted, ← List.append_assoc, List.filterMap_append]

theorem filterMap_replyText (texts : List Bytes) :
    (texts.map Message.reply).filterMap Message.replyText = texts := by
  induction texts with
  | nil => rfl
  | cons text texts ih => exact congrArg _ ih

theorem answers_replyTexts (s : Session) (texts : List Bytes) :
    (s.answers texts).replyTexts = s.replyTexts ++ texts := by
  have hsent : (s.answers texts).sent = s.sent := rfl
  have hposted : (s.answers texts).posted = s.posted ++ texts.map .reply := rfl
  rw [replyTexts_posted hsent hposted, filterMap_replyText]

theorem SameTalk.of_reading (hsame : SameReading s s') (hsent : s'.sent = s.sent) :
    SameTalk s s' := by
  refine ⟨hsame.sessionId, hsame.isController, ?_⟩
  have hposted : s'.posted = s.posted ++ [] := by rw [hsame.posted, List.append_nil]
  rw [replyTexts_posted hsent hposted]
  exact List.append_nil _

theorem queueFrame_sent (m : Message) : (s.queueFrame m).sent = s.sent := by
  unfold Session.queueFrame
  split
  · rfl
  · simp only
    split <;> split <;> rfl

theorem doWrite_sent (i : Nat) : (s.proceedWriter i s.doWrite).sent = s.sent := by
  unfold Session.doWrite
  split <;> rfl

theorem close_sent (s : Session) : s.close.sent = s.sent :=
  congrArg DropOldest.sent (sameWriter_close s).history

theorem writeDone_sent (i : Nat) (error : Option WriteError) : (s.writeDone i error).sent = s.sent := by
  cases error with
  | none => exact doWrite_sent i
  | some err =>
    cases err with
    | aborted => rfl
    | other => exact close_sent s

/-! ## The end of an exchange -/

theorem rightsAfter_of_ne_auth {isController : Bool} {text : Bytes} {c : Command}
    (hd : decode P api isController text = .ok c) (hc : c.promotes api = false) :
    rightsAfter P api isController text = isController := by
  simp only [rightsAfter, hd, hc, Bool.or_false]

theorem promotes_of_awaited {c : Command} {id : SessionId} {x : Call × Bytes}
    (h : c.awaited id = some x) : c.promotes api = false := by
  cases c with
  | auth apiKey role => cases h
  | _ => rfl

theorem promotes_of_wrong {apiKey role : Bytes} (h : apiKey ≠ api.apiKey) :
    (Command.auth apiKey role).promotes api = false :=
  decide_eq_false fun hboth => h hboth.1

/-- A message is answered. -/
theorem Conversation.answered {id : SessionId} {xs : List Exchange} {isController isController' : Bool}
    (h : Conversation P api id xs isController) {x : Exchange}
    (hx : Answers P api id isController x)
    (hrights : rightsAfter P api isController x.text = isController') :
    Conversation P api id (xs ++ [x]) isController' :=
  hrights ▸ h.snoc x hx

/-- The handler of a message ends with these replies. -/
theorem Talk.ends {xs : List Exchange} {x : Exchange} {isController : Bool}
    (hconv : Conversation P api s.sessionId xs isController)
    (hx : Answers P api s.sessionId isController x)
    (hrights : rightsAfter P api isController x.text = s.isController)
    (hreplies : s.replyTexts = xs.flatMap Exchange.replies) :
    Talk P api (s.answers x.replies) (xs.map Exchange.text ++ [x.text]) := by
  refine .idle (xs ++ [x]) (hconv.answered hx hrights) (readNext_not_handling _) ?_ ?_
  · rw [List.map_append, List.map_singleton]
  · rw [answers_replyTexts, hreplies, List.flatMap_append, List.flatMap_singleton]

/-! ## Segments -/

theorem Talk.of_same (h : Talk P api s texts) (hsame : SameTalk s s')
    (hreader : s'.reader = s.reader) : Talk P api s' texts := by
  obtain ⟨hid, hcon, hrep⟩ := hsame
  cases h with
  | idle xs conversation free messages replies =>
    refine .idle xs (by rwa [hid, hcon]) ?_ messages (hrep.trans replies)
    unfold Session.Handling
    rwa [hreader]
  | handling xs text conversation pending messages replies =>
    refine .handling xs text (by rwa [hid, hcon]) ?_ messages (hrep.trans replies)
    cases pending with
    | rejected apiKey role reader decoded wrong =>
      exact .rejected apiKey role (hreader.trans reader) (by rwa [hcon]) wrong
    | calling c call reply reader decoded awaited =>
      exact .calling c call reply (hreader.trans reader) (by rwa [hcon]) (by rwa [hid])

/-- Between two messages `do_run` may go where it handles none. -/
theorem Talk.of_free (h : Talk P api s texts) (hsame : SameTalk s s') (hfree : ¬s.Handling)
    (hfree' : ¬s'.Handling) : Talk P api s' texts := by
  obtain ⟨hid, hcon, hrep⟩ := hsame
  cases h with
  | idle xs conversation free messages replies =>
    exact .idle xs (by rwa [hid, hcon]) hfree' messages (hrep.trans replies)
  | handling xs text conversation pending messages replies =>
    cases pending with
    | rejected apiKey role reader => exact absurd (Or.inl reader) hfree
    | calling c call reply reader => exact absurd (Or.inr ⟨call, reply, reader⟩) hfree

/-- A message is handled up to its first suspension, or to its end. -/
theorem Talk.message (h : Talk P api s texts) (hreader : s.reader = .reading) (text : Bytes)
    (isStreaming : Bool) :
    Talk P api (s.handleMessage P api text isStreaming).1 (texts ++ [text]) := by
  have hfree : ¬s.Handling := by
    unfold Session.Handling
    rw [hreader]
    rintro (h | ⟨_, _, h⟩) <;> cases h
  cases h with
  | handling xs text conversation pending messages replies =>
    cases pending with
    | rejected apiKey role reader => exact absurd (Or.inl reader) hfree
    | calling c call reply reader => exact absurd (Or.inr ⟨call, reply, reader⟩) hfree
  | idle xs conversation free messages replies =>
    subst messages
    cases messageStep_handleMessage P api s text isStreaming with
    | failed err decoded self =>
      rw [self]
      have hrights : rightsAfter P api s.isController text = s.isController := by
        simp only [rightsAfter, decoded]
      exact .ends (x := ⟨text, [errorText err]⟩) conversation (.failed err decoded rfl) hrights replies
    | rejected apiKey role decoded wrong self =>
      rw [self]
      exact .handling xs text conversation (.rejected apiKey role rfl decoded wrong) rfl replies
    | granted role decoded self =>
      rw [self]
      refine .ends (x := ⟨text, (Command.auth api.apiKey role).replies api isStreaming⟩) conversation
        (.replied _ isStreaming decoded rfl rfl) ?_ replies
      simp only [rightsAfter, decoded, Command.promotes, true_and]
    | awaits c call reply decoded awaited self =>
      rw [self]
      exact .handling xs text conversation (.calling c call reply rfl decoded awaited) rfl replies
    | replied c decoded other awaited self =>
      rw [self]
      have hrights : rightsAfter P api s.isController text = s.isController := by
        refine rightsAfter_of_ne_auth decoded ?_
        cases c with
        | auth apiKey role => exact absurd rfl (other apiKey role)
        | _ => rfl
      exact .ends (x := ⟨text, c.replies api isStreaming⟩) conversation
        (.replied c isStreaming decoded awaited rfl) hrights replies

/-- What the session has awaited is there. -/
theorem Talk.authFailedWritten (h : Talk P api s texts) (hreader : s.reader = .writingAuthFailed)
    (result : Except Exn Unit) : Talk P api (s.authFailedWritten result) texts := by
  cases h with
  | idle xs conversation free => exact absurd (Or.inl hreader) free
  | handling xs text conversation pending messages replies =>
    subst messages
    cases pending with
    | calling c call reply reader => cases hreader.symm.trans reader
    | rejected apiKey role reader decoded wrong =>
      have hrights := rightsAfter_of_ne_auth decoded (promotes_of_wrong wrong)
      cases result with
      | ok u =>
        have hnone : (Command.auth apiKey role).replies api false = [] := if_pos wrong
        have hself : s.authFailedWritten (.ok u) = s.answers [] := readNext_eq_answers s
        rw [hself]
        exact .ends (x := ⟨text, []⟩) conversation (.replied _ false decoded rfl hnone.symm)
          hrights replies
      | error err =>
        exact .ends (x := ⟨text, [errorText err]⟩) conversation
          (.unwritten apiKey role err decoded wrong rfl) hrights replies

theorem Talk.returned (h : Talk P api s texts) {call : Call} {reply : Bytes}
    (hreader : s.reader = .calling call reply) (result : Except Exn Unit) :
    Talk P api (s.returned reply result) texts := by
  cases h with
  | idle xs conversation free => exact absurd (Or.inr ⟨call, reply, hreader⟩) free
  | handling xs text conversation pending messages replies =>
    subst messages
    cases pending with
    | rejected apiKey role reader => cases hreader.symm.trans reader
    | calling c call' reply' reader decoded awaited =>
      cases hreader.symm.trans reader
      rw [returned_eq_answers]
      exact .ends (x := ⟨text, [answer reply result]⟩) conversation
        (.returned c call reply result decoded awaited rfl)
        (rightsAfter_of_ne_auth decoded (promotes_of_awaited awaited)) replies

/-- **A session keeps to the protocol** in every segment, whatever it is sent in between but replies
from elsewhere. -/
theorem Talk.step (h : Talk P api s texts) (hs : s.step P api e = some (s', rs))
    (hown : ∀ text, e ≠ .sendFrame (.reply text)) : Talk P api s' (texts ++ e.text.toList) := by
  have silent : Talk P api s' texts → e.text = none → Talk P api s' (texts ++ e.text.toList) := by
    intro htalk hnone
    rwa [hnone, Option.toList_none, List.append_nil]
  cases sessionStep_of_step hs with
  | accepted ok reader =>
    refine silent (h.of_free ⟨rfl, rfl, rfl⟩ ?_ (readNext_not_handling _)) rfl
    unfold Session.Handling
    rw [reader]
    rintro (h | ⟨_, _, h⟩) <;> cases h
  | message text isStreaming reader => exact h.message reader text isStreaming
  | readFailed closed reader =>
    have hsame : SameTalk s (s.readFailed closed) := by
      cases closed with
      | true => exact ⟨rfl, rfl, rfl⟩
      | false =>
        obtain ⟨hid, hcon, hreplies⟩ := SameTalk.of_reading (sameReading_close s) (close_sent s)
        exact ⟨hid, hcon, hreplies⟩
    refine silent (h.of_free hsame ?_ ?_) rfl
    · unfold Session.Handling
      rw [reader]
      rintro (h | ⟨_, _, h⟩) <;> cases h
    · rintro (h | ⟨_, _, h⟩) <;> cases h
  | authFailedWritten result reader => exact silent (h.authFailedWritten reader result) rfl
  | returned result call reply reader => exact silent (h.returned reader result) rfl
  | sendFrame m =>
    refine silent (h.of_same ⟨rfl, rfl, ?_⟩ rfl) rfl
    have hsent : (s.sendFrame m).sent = s.sent := rfl
    have hposted : (s.sendFrame m).posted = s.posted ++ [m] := rfl
    rw [replyTexts_posted hsent hposted]
    cases m with
    | reply text => exact absurd rfl (hown text)
    | live frame => exact List.append_nil _
    | playback frame => exact List.append_nil _
  | runPosted m ms posted =>
    have hsame := sameReading_queueFrame (s := { s with posted := ms, sent := s.sent ++ [m] }) m
    refine silent (h.of_same ⟨hsame.sessionId, hsame.isController, ?_⟩ hsame.reader) rfl
    unfold Session.replyTexts
    rw [queueFrame_sent, hsame.posted, posted, List.append_assoc]
    rfl
  | startWriter i live =>
    have hsame := sameReading_doWrite (s := s) i
    exact silent (h.of_same (.of_reading hsame (doWrite_sent i)) hsame.reader) rfl
  | writeDone i error m live =>
    have hsame := sameReading_writeDone (s := s) i error
    exact silent (h.of_same (.of_reading hsame (writeDone_sent i error)) hsame.reader) rfl
  | disconnected => exact silent (h.of_same ⟨rfl, rfl, rfl⟩ rfl) rfl
  | closed closing => exact silent (h.of_same ⟨rfl, rfl, rfl⟩ rfl) rfl

end Dialogue

/-! ## What has been answered -/

section Answering

variable {P : Platform} {api : Api} {id : SessionId} {isController : Bool} {xs : List Exchange}
  {reply : Bytes}

theorem answers_of_mem (h : Conversation P api id xs isController) {x : Exchange} (hx : x ∈ xs) :
    ∃ isController, Answers P api id isController x := by
  induction h with
  | nil => cases hx
  | snoc y earlier answers ih =>
    rcases List.mem_append.1 hx with hx | hx
    · exact ih hx
    · exact ⟨_, List.mem_singleton.1 hx ▸ answers⟩

/-- Every reply is an answer to a message. -/
theorem answers_of_reply {σ : Session} {texts : List Bytes} (h : Talk P api σ texts)
    (hreply : reply ∈ σ.replyTexts) : ∃ x isController, x.text ∈ texts ∧ reply ∈ x.replies ∧
      Answers P api σ.sessionId isController x := by
  have found : ∀ {xs isController}, Conversation P api σ.sessionId xs isController →
      xs.map Exchange.text ⊆ texts → σ.replyTexts = xs.flatMap Exchange.replies →
      ∃ x isController, x.text ∈ texts ∧ reply ∈ x.replies ∧
        Answers P api σ.sessionId isController x := by
    intro xs _ conversation messages replies
    rw [replies] at hreply
    obtain ⟨x, hx, hmem⟩ := List.mem_flatMap.1 hreply
    obtain ⟨isController, hanswers⟩ := answers_of_mem conversation hx
    exact ⟨x, isController, messages (List.mem_map.2 ⟨x, hx, rfl⟩), hmem, hanswers⟩
  cases h with
  | idle xs conversation free messages replies =>
    exact found conversation (messages ▸ List.Subset.refl _) replies
  | handling xs text conversation pending messages replies =>
    exact found conversation (messages ▸ List.subset_append_left _ _) replies

end Answering

end AsciiStreamer
