import AsciiStreamer.Web.App

/-!
# The page and its sessions

What the page sends is what the server understands: the session of a WebSocket reads the messages one by
one, the first one makes it a controller, so the others are executed, and each is answered once, with the
text the page waits for or with an error (`page_understood`).
-/

namespace AsciiStreamer

open Cxx Browser AppMessage

/-- The parser reads an object with these fields. -/
def ReadsAs (api : Api) (text : Bytes) (fields : List (Bytes × Json)) : Prop :=
  ∃ read, api.parse text = .ok (.object read) ∧ ∀ key, Json.find? read key = Json.find? fields key

namespace AppMessage

/-- What the message is to the server. -/
def meaning : AppMessage → Except Exn Command
  | auth apiKey => .ok (.auth apiKey (lit "controller"))
  | config (some cameraIndex) resolution => .ok (.config (Json.toInt32 cameraIndex) resolution 10)
  | config none _ => .error (Json.typeError (lit "302") (lit "type must be number, but is ") .null)
  | stop => .ok .stop
  | recordStart => .ok .recordStart
  | recordStop => .ok .recordStop

/-- The reply the page waits for. -/
def success : AppMessage → Bytes
  | auth _ => lit "AUTH_CONTROLLER_SUCCESS"
  | config _ _ => lit "CONFIG_APPLIED"
  | stop => lit "STREAM_STOPPED"
  | recordStart => lit "RECORDING_STARTED"
  | recordStop => lit "RECORDING_STOPPED"

/-- What the message asks for can fail. -/
def Fallible : AppMessage → Prop
  | config _ _ | stop => True
  | _ => False

/-- The reply is an answer to the message. -/
def Answered (m : AppMessage) (reply : Bytes) : Prop :=
  reply = m.success ∨ m.Fallible ∧ ∃ err, reply = errorText err

end AppMessage

/-! ## Understanding -/

section Understanding

variable {P : Platform} {api : Api} {printDouble : Rat → Bytes} {m : AppMessage}

theorem field_of_reads {fields read : List (Bytes × Json)} {key : Bytes}
    (h : ∀ key, Json.find? read key = Json.find? fields key) {v : Json}
    (hv : Json.find? fields key = some v) : Json.field (.object read) key = .ok v := by
  rw [Json.field, h, hv, Option.getD_some]

theorem value_of_reads {α : Type} {fields read : List (Bytes × Json)} {key : Bytes}
    (h : ∀ key, Json.find? read key = Json.find? fields key) {v : Json}
    (hv : Json.find? fields key = some v) (get : Json → Except Exn α) (default : α) :
    Json.value (.object read) key get default = get v := by
  simp only [Json.value, h, hv]

theorem decode_of_reads {text : Bytes} {fields read : List (Bytes × Json)} {isController : Bool}
    (hparse : api.parse text = .ok (.object read))
    (h : ∀ key, Json.find? read key = Json.find? fields key) (type : Bytes)
    (htype : Json.find? fields (lit "type") = some (.string type)) :
    decode P api isController text = command P (.object read) type isController := by
  have hfield := field_of_reads h htype
  simp only [decode, hparse, hfield, Json.getString, bind, Except.bind]

/-- A key is a key to anybody. -/
theorem decode_of_auth {text apiKey role : Bytes} (h : ReadsAs api text
    [(lit "type", .string (lit "auth")), (lit "api_key", .string apiKey),
      (lit "role", .string role)]) (isController : Bool) :
    decode P api isController text = .ok (.auth apiKey role) := by
  obtain ⟨read, hparse, hfind⟩ := h
  rw [decode_of_reads hparse hfind (lit "auth") rfl]
  have hkey : Json.field (.object read) (lit "api_key") = .ok (.string apiKey) :=
    field_of_reads hfind rfl
  have hrole : Json.value (.object read) (lit "role") Json.getString (lit "viewer") =
      Json.getString (.string role) := value_of_reads hfind rfl _ _
  exact bind_ok.2 ⟨_, hkey, bind_ok.2 ⟨apiKey, rfl, bind_ok.2 ⟨_, hrole, rfl⟩⟩⟩

theorem decode_key {apiKey : Bytes} (h : ReadsAs api (text printDouble (.auth apiKey))
    (fields (.auth apiKey))) (isController : Bool) :
    decode P api isController (text printDouble (.auth apiKey)) =
      .ok (.auth apiKey (lit "controller")) := decode_of_auth h isController

/-- A controller's message is the command that it means. -/
theorem decode_app (h : ReadsAs api (m.text printDouble) m.fields) :
    decode P api true (m.text printDouble) = m.meaning := by
  cases m with
  | auth apiKey => exact decode_key h true
  | config cameraIndex resolution =>
    obtain ⟨read, hparse, hfind⟩ := h
    have hcamera : Json.value (.object read) (lit "camera_index") (Json.getInt (castInt P)) 0 =
        Json.getInt (castInt P) (cameraIndex.elim .null .integer) := value_of_reads hfind rfl _ _
    have hresolution : Json.value (.object read) (lit "resolution") Json.getString (lit "120x90") =
        Json.getString (.string resolution) := value_of_reads hfind rfl _ _
    have hfps : Json.value (.object read) (lit "fps") (Json.getInt (castInt P)) 10 =
        Json.getInt (castInt P) (.integer 10) := value_of_reads hfind rfl _ _
    rw [decode_of_reads hparse hfind (lit "config") rfl]
    cases cameraIndex with
    | some z => exact bind_ok.2 ⟨_, hcamera, bind_ok.2 ⟨_, hresolution, bind_ok.2 ⟨_, hfps, rfl⟩⟩⟩
    | none =>
      have hthrow : command P (.object read) (lit "config") true =
          Json.value (.object read) (lit "camera_index") (Json.getInt (castInt P)) 0 >>= fun z => do
            let resolution ← Json.value (.object read) (lit "resolution") Json.getString
              (lit "120x90")
            let fps ← Json.value (.object read) (lit "fps") (Json.getInt (castInt P)) 10
            return .config z resolution fps := rfl
      rw [hthrow, hcamera]
      rfl
  | stop =>
    obtain ⟨read, hparse, hfind⟩ := h
    exact decode_of_reads hparse hfind (lit "stop") rfl
  | recordStart =>
    obtain ⟨read, hparse, hfind⟩ := h
    exact decode_of_reads hparse hfind (lit "record_start") rfl
  | recordStop =>
    obtain ⟨read, hparse, hfind⟩ := h
    exact decode_of_reads hparse hfind (lit "record_stop") rfl

/-! ## Answers -/

variable {id : SessionId} {isController : Bool} {x : Exchange}

/-- A command is answered at once, or with what it awaits. -/
theorem replies_of_answers (h : Answers P api id isController x) {c : Command}
    (hd : decode P api isController x.text = .ok c)
    (hkey : ∀ apiKey role, c = .auth apiKey role → apiKey = api.apiKey) :
    (c.awaited id = none ∧ ∃ isStreaming, x.replies = c.replies api isStreaming) ∨
      ∃ call reply result, c.awaited id = some (call, reply) ∧ x.replies = [answer reply result] := by
  cases h with
  | failed err decoded => cases decoded.symm.trans hd
  | unwritten apiKey role err decoded wrong =>
    cases decoded.symm.trans hd
    exact absurd (hkey apiKey role rfl) wrong
  | replied c' isStreaming decoded awaited replies =>
    cases decoded.symm.trans hd
    exact Or.inl ⟨awaited, isStreaming, replies⟩
  | returned c' call reply result decoded awaited replies =>
    cases decoded.symm.trans hd
    exact Or.inr ⟨call, reply, result, awaited, replies⟩

theorem answered_of_awaited (hm : m.Fallible) {result : Except Exn Unit} :
    m.Answered (answer m.success result) := by
  cases result with
  | ok u => exact Or.inl rfl
  | error err => exact Or.inr ⟨hm, err, rfl⟩

/-- **Every message of the page has one answer**: the text the page waits for, or an error. -/
theorem answered_of_answers (h : Answers P api id isController x)
    (hd : decode P api isController x.text = m.meaning) (hm : m.Sendable api.apiKey) :
    ∃ reply, x.replies = [reply] ∧ m.Answered reply := by
  cases m with
  | auth apiKey =>
    obtain rfl : apiKey = api.apiKey := hm
    rcases replies_of_answers h hd (fun _ _ heq => by cases heq; rfl) with
      ⟨-, isStreaming, hreplies⟩ | ⟨_, _, _, hawaited, -⟩
    · have hone : (Command.auth api.apiKey (lit "controller")).replies api isStreaming =
          [lit "AUTH_CONTROLLER_SUCCESS"] := by
        simp only [Command.replies, ne_eq, not_true_eq_false, ↓reduceIte]
      exact ⟨_, hreplies.trans hone, Or.inl rfl⟩
    · cases hawaited
  | config cameraIndex resolution =>
    cases cameraIndex with
    | none =>
      cases h with
      | failed err decoded replies => exact ⟨_, replies, Or.inr ⟨trivial, err, rfl⟩⟩
      | unwritten _ _ _ decoded => cases decoded.symm.trans hd
      | replied _ _ decoded => cases decoded.symm.trans hd
      | returned _ _ _ _ decoded => cases decoded.symm.trans hd
    | some z =>
      rcases replies_of_answers h hd (fun _ _ heq => by cases heq) with
        ⟨hawaited, -⟩ | ⟨_, _, _, hawaited, hreplies⟩
      · cases hawaited
      · cases hawaited
        exact ⟨_, hreplies, answered_of_awaited (m := .config (some z) resolution) trivial⟩
  | stop =>
    rcases replies_of_answers h hd (fun _ _ heq => by cases heq) with
      ⟨hawaited, -⟩ | ⟨_, _, _, hawaited, hreplies⟩
    · cases hawaited
    · cases hawaited
      exact ⟨_, hreplies, answered_of_awaited (m := .stop) trivial⟩
  | recordStart =>
    rcases replies_of_answers h hd (fun _ _ heq => by cases heq) with
      ⟨-, _, hreplies⟩ | ⟨_, _, _, hawaited, -⟩
    · exact ⟨_, hreplies, Or.inl rfl⟩
    · cases hawaited
  | recordStop =>
    rcases replies_of_answers h hd (fun _ _ heq => by cases heq) with
      ⟨-, _, hreplies⟩ | ⟨_, _, _, hawaited, -⟩
    · exact ⟨_, hreplies, Or.inl rfl⟩
    · cases hawaited

/-- Nothing takes the rights of a controller away. -/
theorem rightsAfter_controller (text : Bytes) : rightsAfter P api true text = true := by
  unfold rightsAfter
  split <;> rfl

theorem rightsAfter_key (h : ReadsAs api (text printDouble (.auth api.apiKey))
    (fields (.auth api.apiKey))) : rightsAfter P api isController
      (text printDouble (.auth api.apiKey)) = true := by
  simp only [rightsAfter, decode_key h, Command.promotes, and_self, decide_true, Bool.or_true]

/-! ## Conversations -/

/-- The messages are understood, and begin with the key. -/
structure Presents (api : Api) (printDouble : Rat → Bytes) (ms : List AppMessage) : Prop where
  first : ∀ m, ms.head? = some m → m = .auth api.apiKey
  sendable : ∀ m ∈ ms, m.Sendable api.apiKey
  reads : ∀ m ∈ ms, ReadsAs api (m.text printDouble) m.fields

theorem Presents.take {ms : List AppMessage} (h : Presents api printDouble ms) (n : Nat) :
    Presents api printDouble (ms.take n) := by
  refine ⟨fun m hm => ?_, fun m hm => h.sendable m (List.mem_of_mem_take hm),
    fun m hm => h.reads m (List.mem_of_mem_take hm)⟩
  cases n with
  | zero => cases hm
  | succ n =>
    cases ms with
    | nil => cases hm
    | cons m' ms => exact h.first m hm

/-- In a conversation that presents the key the next message is understood. -/
theorem Presents.decode {ms : List AppMessage} (h : Presents api printDouble ms) {n : Nat}
    (hn : ms[n]? = some m) :
    AsciiStreamer.decode P api (decide (0 < n)) (m.text printDouble) = m.meaning := by
  have hreads := h.reads m (List.mem_of_getElem? hn)
  cases n with
  | zero =>
    obtain rfl := h.first m (List.head?_eq_getElem?.trans hn)
    exact decode_key hreads _
  | succ n => exact decode_app hreads

/-- **The page and the server understand each other**: the session is a controller from the first message
on, and has given one answer to each. -/
theorem Presents.conversation {xs : List Exchange} {ms : List AppMessage}
    (h : Presents api printDouble ms) (hconv : Conversation P api id xs isController)
    (htexts : xs.map Exchange.text = ms.map (text printDouble)) :
    isController = decide (0 < ms.length) ∧
      List.Forall₂ Answered ms (xs.flatMap Exchange.replies) := by
  induction hconv generalizing ms with
  | nil =>
    obtain rfl : ms = [] := List.map_eq_nil_iff.1 htexts.symm
    exact ⟨rfl, .nil⟩
  | @snoc xs isController x earlier answers ih =>
    rcases List.eq_nil_or_concat ms with rfl | ⟨ms, m, rfl⟩
    · cases xs <;> cases htexts
    rw [List.concat_eq_append] at *
    rw [List.map_append, List.map_append] at htexts
    obtain ⟨htexts, htext⟩ := List.append_inj' htexts rfl
    have htext : x.text = text printDouble m := (List.cons.inj htext).1
    have hlast : (ms ++ [m])[ms.length]? = some m := List.getElem?_concat_length
    have hinit : Presents api printDouble ms := by
      have htake := h.take ms.length
      rwa [List.take_left] at htake
    obtain ⟨hcon, hanswers⟩ := ih hinit htexts
    have hd : AsciiStreamer.decode P api isController x.text = m.meaning := by
      rw [hcon, htext]
      exact h.decode hlast
    obtain ⟨reply, hreply, hanswered⟩ := answered_of_answers answers hd
      (h.sendable m (List.mem_append_right _ (List.mem_singleton_self m)))
    refine ⟨?_, ?_⟩
    · have hpos : decide (0 < (ms ++ [m]).length) = true := by simp
      rw [hpos, htext]
      cases ms with
      | nil =>
        obtain rfl := h.first m rfl
        exact rightsAfter_key (h.reads _ (List.mem_singleton_self _))
      | cons m' ms =>
        have htrue : isController = true := by rw [hcon]; simp
        rw [htrue]
        exact rightsAfter_controller _
    · rw [List.flatMap_append, List.flatMap_singleton, hreply]
      exact List.rel_append hanswers (.cons hanswered .nil)

/-! ## Visits -/

/-- What `getApiKey` returns is the key of the server. -/
def Fetches (api : Api) (_ : Visit Page) : VisitEvent P PageEvent → Prop
  | .page (.fetched key) => key = api.apiKey
  | _ => True

/-- A page that has fetched the key, and the server it talks to. -/
structure Visiting (P : Platform) (api : Api) (printDouble : Rat → Bytes) (v : Visit Page) : Prop where
  wired : Wired (app printDouble) v
  keyFirst : KeyFirst api.apiKey v.page
  conversing : Conversing P api v.server

variable {v v' : Visit Page} {e : VisitEvent P PageEvent}

theorem Visiting.init (P : Platform) (api : Api) (printDouble : Rat → Bytes) :
    Visiting P api printDouble { page := {} } := ⟨.init, .init _, .init P api⟩

theorem Visiting.step (h : Visiting P api printDouble v) (hkey : Fetches api v e)
    (hs : (visit P api (app printDouble)).step v e = some v') : Visiting P api printDouble v' := by
  refine ⟨h.wired.step hs, ?_, server_invariant (fun hi hd => hi.step hd) h.conversing hs⟩
  cases visitStep_of_step hs with
  | page d p act =>
    refine h.keyFirst.act ?_ act
    rintro key rfl
    exact hkey
  | shows k l m p line written receive => exact h.keyFirst.receive receive
  | refuses k l p line rejected receive => exact h.keyFirst.receive receive
  | _ => exact h.keyFirst

/-- What the page has sent on a line presents the key. -/
theorem Visiting.presents (h : Visiting P api printDouble v)
    (hreads : ∀ w ∈ v.page.sockets.made, ∀ m ∈ w.sent, ReadsAs api (m.text printDouble) m.fields)
    {i : Nat} {w : Socket AppMessage} (hw : v.page.sockets.made[i]? = some w) :
    Presents api printDouble w.sent :=
  ⟨h.keyFirst.greeted.first i w hw, h.keyFirst.greeted.messages i w hw,
    hreads w (List.mem_of_getElem? hw)⟩

/-- The session has answered every message it has read, but perhaps the last one. -/
theorem Presents.talk {ms : List AppMessage} (h : Presents api printDouble ms) {n : Nat}
    (hn : n ≤ ms.length) {σ : Session}
    (htalk : Talk P api σ ((ms.take n).map (text printDouble))) :
    σ.isController = decide (0 < n) ∧ ∃ k, (k = n ∨ k + 1 = n ∧ σ.Handling) ∧
      List.Forall₂ Answered (ms.take k) σ.replyTexts := by
  cases htalk with
  | idle xs conversation free messages replies =>
    obtain ⟨hcon, hanswered⟩ := (h.take n).conversation conversation messages.symm
    rw [List.length_take_of_le hn] at hcon
    exact ⟨hcon, n, Or.inl rfl, replies ▸ hanswered⟩
  | handling xs last conversation pending messages replies =>
    cases n with
    | zero => cases xs <;> cases messages
    | succ n =>
      have hm : ms[n]? = some ms[n] := List.getElem?_eq_getElem hn
      rw [List.take_add_one, hm, Option.toList_some, List.map_append, List.map_singleton] at messages
      obtain ⟨hinit, hlast⟩ := List.append_inj' messages rfl
      obtain rfl : text printDouble ms[n] = last := (List.cons.inj hlast).1
      obtain ⟨hcon, hanswered⟩ := (h.take n).conversation conversation hinit.symm
      rw [List.length_take_of_le (Nat.le_of_lt hn)] at hcon
      have hd : AsciiStreamer.decode P api σ.isController (text printDouble ms[n]) =
          meaning ms[n] := hcon ▸ h.decode hm
      have hpos : 0 < n := by
        rcases Nat.eq_zero_or_pos n with rfl | hpos
        · -- the key is not awaited
          have hfirst := h.first _ (List.head?_eq_getElem?.trans hm)
          rw [hfirst] at hd
          cases pending with
          | rejected apiKey role reader decoded wrong =>
            rw [hfirst] at decoded
            cases decoded.symm.trans hd
            exact absurd rfl wrong
          | calling c call reply reader decoded awaited =>
            rw [hfirst] at decoded
            cases decoded.symm.trans hd
            cases awaited
        · exact hpos
      have hhandling : σ.Handling := by
        cases pending with
        | rejected apiKey role reader => exact Or.inl reader
        | calling c call reply reader => exact Or.inr ⟨call, reply, reader⟩
      refine ⟨?_, n, Or.inr ⟨rfl, hhandling⟩, replies ▸ hanswered⟩
      rw [hcon, decide_eq_true hpos, decide_eq_true (Nat.succ_pos n)]

/-- **The page is understood.** In every run of a page that has been given the right key, with the server
and all its other clients, each WebSocket has a session of its own, which has read the first messages
sent on it, in order and each once; the next one it will decode to what the page means by it; and it has
given one answer to each of them, the last one apart if that is still being handled. -/
theorem page_understood (P : Platform) (api : Api) (printDouble : Rat → Bytes)
    (es : List (VisitEvent P PageEvent)) (v : Visit Page)
    (hrun : (visit P api (app printDouble)).run { page := {} } es = some v)
    (hkey : (visit P api (app printDouble)).AllSteps (Fetches api) { page := {} } es)
    (hreads : ∀ w ∈ v.page.sockets.made, ∀ m ∈ w.sent,
      ReadsAs api (m.text printDouble) m.fields) :
    (v.lines.map Line.session).Nodup ∧ (v.lines.map Line.socket).Nodup ∧
      ∀ l ∈ v.lines, ∃ w, v.page.sockets.made[l.socket]? = some w ∧
        received v.server.trace l.session = (w.sent.take l.read).map (text printDouble) ∧
        (∀ m, w.sent[l.read]? = some m →
          decode P api (v.server.sessions l.session).isController (m.text printDouble) =
            m.meaning) ∧
        ∃ n, (n = l.read ∨ n + 1 = l.read ∧ (v.server.sessions l.session).Handling) ∧
          List.Forall₂ Answered (w.sent.take n) (v.server.sessions l.session).replyTexts := by
  have h : Visiting P api printDouble v :=
    hkey.invariant (fun hi hC hs => hi.step hC hs) (.init P api printDouble) hrun
  refine ⟨h.wired.sessions, h.wired.sockets, fun l hl => ?_⟩
  obtain ⟨w, hsocket, hread, hreceived⟩ := h.wired.carries l hl
  have hpresents := h.presents hreads hsocket
  have htalk := h.conversing l.session
  rw [hreceived] at htalk
  obtain ⟨hcon, hanswers⟩ := hpresents.talk hread htalk
  refine ⟨w, hsocket, hreceived, fun m hm => ?_, hanswers⟩
  rw [hcon]
  exact hpresents.decode hm

end Understanding

/-! ### A change of mind -/

def noFraction : Rat → Bytes := fun _ => []

/-- A parser that knows two messages of the page, and perhaps some of others. -/
def pageApi (cameraIndex : Option Int)
    (others : Bytes → Except Exn Json := fun _ => .error (.jsonError (lit "parse error"))) : Api where
  apiKey := lit "key"
  parse json :=
    if json = text noFraction (.auth (lit "key")) then .ok (.object (fields (.auth (lit "key"))))
    else if json = text noFraction (.config cameraIndex (lit "120x90")) then
      .ok (.object (fields (.config cameraIndex (lit "120x90"))))
    else others json

/-- These two messages. -/
def greeting (cameraIndex : Option Int) : List AppMessage :=
  [.auth (lit "key"), .config cameraIndex (lit "120x90")]

theorem reads_pageApi {cameraIndex : Option Int} {others : Bytes → Except Exn Json} {m : AppMessage}
    (hm : m ∈ greeting cameraIndex) :
    ReadsAs (pageApi cameraIndex others) (m.text noFraction) m.fields := by
  have hcases : m = .auth (lit "key") ∨ m = .config cameraIndex (lit "120x90") := by
    simpa [greeting] using hm
  rcases hcases with rfl | rfl
  · have hparse : (pageApi cameraIndex others).parse (text noFraction (.auth (lit "key"))) =
        .ok (.object (fields (.auth (lit "key")))) := by simp only [pageApi, if_true]
    exact ⟨_, hparse, fun _ => rfl⟩
  · have hne : text noFraction (.config cameraIndex (lit "120x90")) ≠
        text noFraction (.auth (lit "key")) := by
      intro heq
      have hletter : some (99 : UInt8) = some 97 := congrArg (fun t => t[9]?) heq
      exact absurd hletter (by decide)
    have hparse : (pageApi cameraIndex others).parse
        (text noFraction (.config cameraIndex (lit "120x90"))) =
          .ok (.object (fields (.config cameraIndex (lit "120x90")))) := by
      simp only [pageApi, if_neg hne, if_true]
    exact ⟨_, hparse, fun _ => rfl⟩

/-- The user stops while the page is still connecting, and starts again: the first connection opens when
the second one is in `ws`. -/
def secondThoughts : List (VisitEvent x86_64 PageEvent) :=
  [.page .clickStart, .page (.fetched (lit "key")), .page .clickStart, .page .clickStart, .connects 0,
    .connects 1, .server (.session 1 (.accepted true) ⟨noon, 0, true⟩),
    .server (.session 2 (.accepted true) ⟨noon, 0, true⟩), .page (.opened 0), .page (.opened 1),
    .reads 1 false ⟨noon, 0, true⟩, .server .runAddViewer,
    .server (.session 2 .runPosted ⟨noon, 0, true⟩),
    .server (.session 2 (.startWriter 0) ⟨noon, 0, true⟩), .shows 1, .reads 1 false ⟨noon, 0, true⟩]

theorem page_understood_secondThoughts : ∃ v,
    (visit x86_64 (pageApi (some 0)) (app noFraction)).run { page := {} } secondThoughts = some v ∧
      v.page.sockets.made.map Socket.sent = [[], greeting (some 0)] ∧
      v.lines = [⟨0, 1, 0, 0⟩, ⟨1, 2, 2, 1⟩] ∧
      (v.server.sessions 2).replyTexts = [lit "AUTH_CONTROLLER_SUCCESS"] ∧
      ∀ l ∈ v.lines, ∃ w, v.page.sockets.made[l.socket]? = some w ∧
        received v.server.trace l.session = (w.sent.take l.read).map (text noFraction) := by
  have hfacts : ((visit x86_64 (pageApi (some 0)) (app noFraction)).run { page := {} }
      secondThoughts).any (fun v => v.page.sockets.made.map Socket.sent == [[], greeting (some 0)] &&
        v.lines == [⟨0, 1, 0, 0⟩, ⟨1, 2, 2, 1⟩] &&
        (v.server.sessions 2).replyTexts == [lit "AUTH_CONTROLLER_SUCCESS"]) = true := by
    decide +kernel
  obtain ⟨v, hrun, hfacts⟩ := (Option.any_eq_true _ _).1 hfacts
  simp only [Bool.and_eq_true, beq_iff_eq] at hfacts
  obtain ⟨⟨hsent, hlines⟩, hreplies⟩ := hfacts
  have hkey : (visit x86_64 (pageApi (some 0)) (app noFraction)).AllSteps
      (Fetches (pageApi (some 0))) { page := {} } secondThoughts := by
    simp only [secondThoughts, Machine.AllSteps, Fetches, pageApi, implies_true, and_self]
  have hreads : ∀ w ∈ v.page.sockets.made, ∀ m ∈ w.sent,
      ReadsAs (pageApi (some 0)) (m.text noFraction) m.fields := by
    refine forall_sent hsent fun sent hmem m hm => reads_pageApi ?_
    have hgreets : sent = [] ∨ sent = greeting (some 0) := by simpa using hmem
    rcases hgreets with rfl | rfl
    · cases hm
    · exact hm
  obtain ⟨-, -, hunderstood⟩ :=
    page_understood x86_64 (pageApi (some 0)) noFraction secondThoughts v hrun hkey hreads
  refine ⟨v, hrun, hsent, hlines, hreplies, fun l hl => ?_⟩
  obtain ⟨w, hw, hreceived, -⟩ := hunderstood l hl
  exact ⟨w, hw, hreceived⟩

end AsciiStreamer
