import AsciiStreamer.Web.Coming
import AsciiStreamer.Web.Controller

/-!
# The page that watches (`web/stream.html`)

Whoever has a key may watch. The page presents the key that its user has entered, as a viewer: with the
key of the server it shows the pictures of the camera, with another one that its key is wrong, and
nothing else that is not its own (`viewer_shows`). It never controls anything.
-/

namespace AsciiStreamer

open Cxx Browser

/-! ## What the page sends -/

structure ViewerMessage where
  apiKey : Bytes
  deriving DecidableEq, Repr

namespace ViewerMessage

def fields (m : ViewerMessage) : List (Bytes × Json) :=
  [(lit "type", .string (lit "auth")), (lit "api_key", .string m.apiKey),
    (lit "role", .string (lit "viewer"))]

def text (printDouble : Rat → Bytes) (m : ViewerMessage) : Bytes :=
  stringify printDouble (.object m.fields)

end ViewerMessage

/-! ## The page -/

/-- `sockets.current` is `ws`. `keys` are the values of `apiKey` in the handlers of the WebSockets, the
oldest first. -/
structure RemoteStreamViewer where
  sockets : Sockets ViewerMessage := {}
  keys : List Bytes := []
  isConnected : Bool := false
  output : Bytes := lit "Enter endpoint and API key, then click Connect"
  alerts : List Bytes := []

inductive ViewerEvent
  /-- With what the user has entered. If the endpoint is not `valid`, `new WebSocket` throws. -/
  | clickConnect (endpoint apiKey : Bytes) (valid : Bool)
  | opened (i : Nat)
  | closed (i : Nat) (failed : Bool)
  deriving DecidableEq, Repr

/-- The messages that the script knows. -/
def viewerKeywords : List Bytes :=
  [lit "AUTH_VIEWER_SUCCESS", lit "STREAM_ACTIVE", lit "STREAM_INACTIVE"]

/-- What the script itself writes to the page. -/
def viewerTexts : List Bytes :=
  [lit "Enter endpoint and API key, then click Connect", lit "Connecting...", lit "Authenticating...",
    lit "Authenticated! Waiting for stream...", lit "Stream is active. Receiving data...",
    lit "Stream is inactive. Waiting...", lit "Connection error!", lit "Connection closed."]

namespace RemoteStreamViewer

def connect (p : RemoteStreamViewer) (endpoint apiKey : Bytes) (valid : Bool) : RemoteStreamViewer :=
  if endpoint.isEmpty then
    { p with alerts := p.alerts ++ [lit "Please enter WebSocket endpoint"] }
  else
    let p := { p with sockets := p.sockets.close, output := lit "Connecting..." }
    if valid then { p with sockets := p.sockets.connect, keys := p.keys ++ [apiKey] } else p

def onopen (p : RemoteStreamViewer) (i : Nat) : RemoteStreamViewer :=
  { p with
    output := lit "Authenticating..."
    sockets := p.sockets.trySend ⟨(p.keys[i]?).getD []⟩ }

def onmessage (p : RemoteStreamViewer) (data : Bytes) : RemoteStreamViewer :=
  if data = lit "AUTH_VIEWER_SUCCESS" then
    { p with output := lit "Authenticated! Waiting for stream...", isConnected := true }
  else if data = lit "STREAM_ACTIVE" then
    { p with output := lit "Stream is active. Receiving data..." }
  else if data = lit "STREAM_INACTIVE" then { p with output := lit "Stream is inactive. Waiting..." }
  else { p with output := data }

def onerror (p : RemoteStreamViewer) : RemoteStreamViewer :=
  { p with output := lit "Connection error!", isConnected := false }

def onclose (p : RemoteStreamViewer) : RemoteStreamViewer :=
  { p with output := lit "Connection closed.", isConnected := false }

def act (p : RemoteStreamViewer) : ViewerEvent → Option RemoteStreamViewer
  | .clickConnect endpoint apiKey valid => some (p.connect endpoint apiKey valid)
  | .opened i => (p.sockets.opens i).map fun s => { p with sockets := s }.onopen i
  | .closed i failed => (p.sockets.closes i).map fun s =>
    let p := { p with sockets := s }
    (if failed then p.onerror else p).onclose

def receive (p : RemoteStreamViewer) (i : Nat) (data : Bytes) : Option RemoteStreamViewer :=
  if p.sockets.receives i then some (p.onmessage data) else none

end RemoteStreamViewer

/-! ## The handlers -/

section Handlers

variable {p p' : RemoteStreamViewer}

/-- What the user and the network do makes the page show texts of its own. -/
theorem viewer_act {e : ViewerEvent} (h : p.act e = some p') : Grows p.sockets p'.sockets ∧
    (p'.output = p.output ∨ p'.output ∈ viewerTexts) := by
  cases e with
  | clickConnect endpoint apiKey valid =>
    cases h
    unfold RemoteStreamViewer.connect
    have hconnecting : lit "Connecting..." ∈ viewerTexts := by decide
    split
    · exact ⟨.refl _, Or.inl rfl⟩
    · simp only
      split
      · exact ⟨(grows_close _).trans (grows_connect _), Or.inr hconnecting⟩
      · exact ⟨grows_close _, Or.inr hconnecting⟩
  | opened i =>
    obtain ⟨s, hs, rfl⟩ := Option.map_eq_some_iff.1 h
    have hauthenticating : lit "Authenticating..." ∈ viewerTexts := by decide
    exact ⟨(grows_opens hs).trans (grows_trySend _ _), Or.inr hauthenticating⟩
  | closed i failed =>
    obtain ⟨s, hs, rfl⟩ := Option.map_eq_some_iff.1 h
    have hclosed : lit "Connection closed." ∈ viewerTexts := by decide
    cases failed with
    | true => exact ⟨grows_closes hs, Or.inr hclosed⟩
    | false => exact ⟨grows_closes hs, Or.inr hclosed⟩

theorem viewer_onmessage (p : RemoteStreamViewer) (data : Bytes) :
    (p.onmessage data).sockets = p.sockets ∧ ((p.onmessage data).output ∈ viewerTexts ∨
      data ∉ viewerKeywords ∧ (p.onmessage data).output = data) := by
  unfold RemoteStreamViewer.onmessage
  split_ifs with hsuccess hactive hinactive
  · have hown : lit "Authenticated! Waiting for stream..." ∈ viewerTexts := by decide
    exact ⟨rfl, Or.inl hown⟩
  · have hown : lit "Stream is active. Receiving data..." ∈ viewerTexts := by decide
    exact ⟨rfl, Or.inl hown⟩
  · have hown : lit "Stream is inactive. Waiting..." ∈ viewerTexts := by decide
    exact ⟨rfl, Or.inl hown⟩
  · refine ⟨rfl, Or.inr ⟨?_, rfl⟩⟩
    simp [viewerKeywords, hsuccess, hactive, hinactive]

theorem viewer_receive {i : Nat} {data : Bytes} (h : p.receive i data = some p') :
    p' = p.onmessage data := by
  obtain ⟨-, h⟩ := Option.ite_none_right_eq_some.1 h
  exact (Option.some.inj h).symm

end Handlers

/-- The page of `stream.html` as a client of the server. -/
def viewer (printDouble : Rat → Bytes) : Client RemoteStreamViewer ViewerEvent ViewerMessage where
  act := RemoteStreamViewer.act
  receive := RemoteStreamViewer.receive
  sockets := RemoteStreamViewer.sockets
  text := ViewerMessage.text printDouble
  act_grows h := (viewer_act h).1
  receive_grows := by
    intro p i data p' h
    rw [viewer_receive h, (viewer_onmessage p data).1]
    exact .refl _

/-! ## The key -/

section Keys

variable {P : Platform} {api : Api} {printDouble : Rat → Bytes} {q : ViewerMessage}

/-- What the page presents is the key it has been given, as a viewer. -/
theorem authMessage_viewer (h : ReadsAs api (q.text printDouble) q.fields) {role : Bytes}
    (hauth : AuthMessage api (q.text printDouble) role) :
    q.apiKey = api.apiKey ∧ role = lit "viewer" := by
  obtain ⟨j, hj, -, hkey, hrole⟩ := hauth
  obtain ⟨read, hparse, hfind⟩ := h
  obtain rfl : Json.object read = j := Except.ok.inj (hparse.symm.trans hj)
  have hfield : Json.field (.object read) (lit "api_key") = .ok (.string q.apiKey) :=
    field_of_reads hfind rfl
  have hvalue : Json.value (.object read) (lit "role") Json.getString (lit "viewer") =
      Json.getString (.string (lit "viewer")) := value_of_reads hfind rfl _ _
  rw [hfield] at hkey
  exact ⟨Except.ok.inj hkey, Except.ok.inj (hrole.symm.trans hvalue)⟩

theorem rejects_viewer (h : ReadsAs api (q.text printDouble) q.fields)
    (hrejects : rejects P api (q.text printDouble) = true) : q.apiKey ≠ api.apiKey := by
  rw [rejects, decode_of_auth h] at hrejects
  exact bne_iff_ne.1 hrejects

/-- An answer that the script does not know is an error, after a wrong key. -/
theorem answer_viewer {id : SessionId} {isController : Bool} {x : Exchange} {reply : Bytes}
    (h : Answers P api id isController x)
    (hd : decode P api isController x.text = .ok (.auth q.apiKey (lit "viewer")))
    (hreply : reply ∈ x.replies) (hunknown : reply ∉ viewerKeywords) :
    q.apiKey ≠ api.apiKey ∧ ∃ err, reply = errorText err := by
  cases h with
  | failed err decoded => cases decoded.symm.trans hd
  | unwritten apiKey role err decoded wrong replies =>
    cases decoded.symm.trans hd
    rw [replies] at hreply
    exact ⟨wrong, err, List.mem_singleton.1 hreply⟩
  | replied c isStreaming decoded awaited replies =>
    cases decoded.symm.trans hd
    exfalso
    rw [replies, Command.replies] at hreply
    split at hreply
    · cases hreply
    · split at hreply
      · next hrole => exact absurd hrole (by decide)
      · rcases List.mem_cons.1 hreply with rfl | hreply
        · exact hunknown (by decide)
        · obtain rfl := List.mem_singleton.1 hreply
          cases isStreaming <;> exact hunknown (by decide)
  | returned c call text result decoded awaited =>
    cases decoded.symm.trans hd
    cases awaited

end Keys

/-! ## Every run -/

/-- What the page has been given is to be seen: a picture of the camera if it has the key of the server,
and else that it has not. -/
inductive Seen (api : Api) (sent : List ViewerMessage) (s : Session) (data : Bytes) : Prop
  | picture (key : ⟨api.apiKey⟩ ∈ sent) (written : .live data ∈ s.written) (width height : Int)
    (pictured : Pictured width height data)
  | refused (q : ViewerMessage) (mem : q ∈ sent) (wrong : q.apiKey ≠ api.apiKey)
    (failed : data = authFailed)
  | error (q : ViewerMessage) (mem : q ∈ sent) (wrong : q.apiKey ≠ api.apiKey) (err : Exn)
    (failed : data = errorText err)

section Viewing

variable {P : Platform} {api : Api} {printDouble : Rat → Bytes} {v : Visit RemoteStreamViewer}

/-- **What comes in** to the page. -/
theorem seen_of_came (h : Hosted P api (viewer printDouble) v) {sizes : List (Int × Int)}
    (hfilming : Filming sizes v.server)
    (hreads : ∀ w ∈ v.page.sockets.made, ∀ q ∈ w.sent, ReadsAs api (q.text printDouble) q.fields)
    {data : Bytes} (hcame : Came P api v data) (hunknown : data ∉ viewerKeywords) :
    ∃ l ∈ v.lines, ∃ w, v.page.sockets.made[l.socket]? = some w ∧
      Seen api w.sent (v.server.sessions l.session) data := by
  cases hcame with
  | refused l line text received rejected =>
    obtain ⟨w, hsocket, q, hq, rfl⟩ := h.sent line received
    have hwrong := rejects_viewer (hreads w (List.mem_of_getElem? hsocket) q hq) rejected
    exact ⟨l, line, w, hsocket, .refused q hq hwrong rfl⟩
  | written l line m written =>
    cases m with
    | reply reply =>
      obtain ⟨w, hsocket, q, hq, x, isController, htext, hreplies, hanswers⟩ := h.replied line written
      have hd : decode P api isController x.text = .ok (.auth q.apiKey (lit "viewer")) :=
        htext ▸ decode_of_auth (hreads w (List.mem_of_getElem? hsocket) q hq) isController
      obtain ⟨hwrong, err, herr⟩ := answer_viewer hanswers hd hreplies hunknown
      exact ⟨l, line, w, hsocket, .error q hq hwrong err herr⟩
    | live frame =>
      obtain ⟨w, hsocket, q, hq, role, hauth⟩ := h.live line written
      obtain ⟨hkey, -⟩ := authMessage_viewer (hreads w (List.mem_of_getElem? hsocket) q hq) hauth
      have hframe : frame ∈ (v.server.sessions l.session).liveFrames :=
        List.mem_filterMap.2
          ⟨_, List.mem_append_left _ (List.mem_append_left _ written), rfl⟩
      obtain ⟨⟨width, height⟩, -, hpictured⟩ := hfilming.outgoing l.session frame hframe
      have hsent : ⟨api.apiKey⟩ ∈ w.sent := by
        rw [← hkey]
        exact hq
      exact ⟨l, line, w, hsocket, .picture hsent written width height hpictured⟩
    | playback frame =>
      obtain ⟨w, hsocket, q, hq, filename, isController, hstart⟩ := h.playback line written
      have hd : decode P api isController (q.text printDouble) =
          .ok (.auth q.apiKey (lit "viewer")) :=
        decode_of_auth (hreads w (List.mem_of_getElem? hsocket) q hq) isController
      cases hd.symm.trans hstart

/-- **Who has the key sees the pictures.** In every run of the page with the server and all its other
clients, whose capture loops film what the camera shows: the text on the page is one of its own, or a
complete picture of the camera that was written to a session of the page, on whose WebSocket the page has
presented the key of the server, or else a text that says so after it has presented another one. No
session of the page is ever a controller. -/
theorem viewer_shows (P : Platform) (api : Api) (printDouble : Rat → Bytes) {Mat : Type}
    (cv : OpenCV Mat) (hcv : Resizes cv) (es : List (VisitEvent P ViewerEvent))
    (v : Visit RemoteStreamViewer)
    (hrun : (visit P api (viewer printDouble)).run { page := {} } es = some v)
    (hshoots : (visit P api (viewer printDouble)).AllSteps (Shoots cv) { page := {} } es)
    (hreads : ∀ w ∈ v.page.sockets.made, ∀ q ∈ w.sent,
      ReadsAs api (q.text printDouble) q.fields) :
    (v.page.output ∈ viewerTexts ∨
      ∃ l ∈ v.lines, ∃ w, v.page.sockets.made[l.socket]? = some w ∧
        Seen api w.sent (v.server.sessions l.session) v.page.output) ∧
      ∀ l ∈ v.lines, (v.server.sessions l.session).isController = false := by
  have h : Hosted P api (viewer printDouble) v :=
    Machine.run_invariant (fun hi hs => hi.step hs) es .init hrun
  obtain ⟨sizes, hfilming⟩ := filming_of_shoots hcv hshoots hrun
  have hshown : OnScreen P api RemoteStreamViewer.output viewerTexts viewerKeywords v := by
    refine Machine.run_invariant (fun hi hs => hi.step (fun hact => (viewer_act hact).2)
      (fun {p _ data _} hreceive => ?_) hs) es (Or.inl List.mem_cons_self) hrun
    rw [viewer_receive hreceive]
    exact (viewer_onmessage p data).2
  refine ⟨?_, fun l hl => ?_⟩
  · rcases hshown with hown | ⟨data, hcame, hunknown, hshown⟩
    · exact Or.inl hown
    · rw [hshown]
      exact Or.inr (seen_of_came h hfilming hreads hcame hunknown)
  · rw [← Bool.not_eq_true]
    intro hcontroller
    obtain ⟨text, hmem, hauth⟩ := h.authorised.controller l.session hcontroller
    obtain ⟨w, hsocket, q, hq, rfl⟩ := h.received hl hmem
    obtain ⟨-, hrole⟩ := authMessage_viewer (hreads w (List.mem_of_getElem? hsocket) q hq) hauth
    exact absurd hrole (by decide)

end Viewing

/-! ### Four pixels -/

/-- A parser that also knows the page, with the right key. -/
def viewerApi : Api where
  apiKey := lit "key"
  parse json :=
    if json = ViewerMessage.text noFraction ⟨lit "key"⟩ then
      .ok (.object (ViewerMessage.fields ⟨lit "key"⟩))
    else smallApi.parse json

/-- The page waits for a stream of four pixels. -/
def onlooker : List (VisitEvent x86_64 ViewerEvent) :=
  [.page (.clickConnect (lit "wss://host/stream") (lit "key") true), .connects 0,
    .server (.session 1 (.accepted true) ⟨noon, 0, true⟩), .page (.opened 0),
    .reads 0 false ⟨noon, 0, true⟩, .server .runAddViewer] ++ writesOne ++ writesOne ++
    (joins 2 ++ [tells 2 "controller", .runAddViewer, tells 2 "small", .segment 0 .working none,
      .loop 0 .empty, .loop 0 (.frame smallFrame 0), .loop 0 .empty]).map .server ++ writesOne

theorem viewer_shows_onlooker : ∃ v,
    (visit x86_64 viewerApi (viewer noFraction)).run { page := {} } onlooker = some v ∧
      v.page.sockets.made.map Socket.sent = [[⟨lit "key"⟩]] ∧ v.page.output = smallFrame.bytes ∧
      (v.page.output ∈ viewerTexts ∨
        ∃ l ∈ v.lines, ∃ w, v.page.sockets.made[l.socket]? = some w ∧
          Seen viewerApi w.sent (v.server.sessions l.session) v.page.output) ∧
      ∀ l ∈ v.lines, (v.server.sessions l.session).isController = false := by
  have hfacts : (((visit x86_64 viewerApi (viewer noFraction)).restrict
      fun v e => VisitShowsPixels v e = true).run { page := {} } onlooker).any
      (fun v => v.page.sockets.made.map Socket.sent == [[⟨lit "key"⟩]] &&
        v.page.output == smallFrame.bytes) = true := by decide +kernel
  obtain ⟨v, hs, hfacts⟩ := (Option.any_eq_true _ _).1 hfacts
  obtain ⟨hshows, hrun⟩ := Machine.run_restrict.1 hs
  simp only [Bool.and_eq_true, beq_iff_eq] at hfacts
  obtain ⟨hsent, houtput⟩ := hfacts
  have hreads : ∀ w ∈ v.page.sockets.made, ∀ q ∈ w.sent,
      ReadsAs viewerApi (q.text noFraction) q.fields := by
    refine forall_sent hsent ?_
    simp only [List.mem_singleton, forall_eq]
    have hparse : viewerApi.parse (ViewerMessage.text noFraction ⟨lit "key"⟩) =
        .ok (.object (ViewerMessage.fields ⟨lit "key"⟩)) := by
      simp only [viewerApi, if_true]
    exact ⟨_, hparse, fun _ => rfl⟩
  exact ⟨v, hrun, hsent, houtput, viewer_shows x86_64 viewerApi noFraction sizedPictures
    resizes_sizedPictures onlooker v hrun (hshows.mono shoots_of_showsPixels) hreads⟩

end AsciiStreamer
