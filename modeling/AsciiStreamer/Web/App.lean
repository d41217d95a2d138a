import AsciiStreamer.Web.Visit

/-!
# The page that streams (`web/app.js`)

`Page` is the object of the script with what it uses of its document. Every handler of a WebSocket sends
on the one in `ws`, which need not be its own: who stops a stream that is still connecting and starts
another one has two of them. `KeyFirst` is what nevertheless holds of each connection: it carries nothing
before the key. The buttons of the API and of the tunnel have their own events, and leave the connections
alone.
-/

namespace AsciiStreamer

open Cxx Browser

/-! ## What the page sends -/

/-- `cameraIndex` is what `parseInt` makes of the selected option, `none` for `NaN`. -/
inductive AppMessage
  | auth (apiKey : Bytes)
  | config (cameraIndex : Option Int) (resolution : Bytes)
  | stop
  | recordStart
  | recordStop
  deriving DecidableEq, Repr

namespace AppMessage

def fields : AppMessage → List (Bytes × Json)
  | auth apiKey => [(lit "type", .string (lit "auth")), (lit "api_key", .string apiKey),
      (lit "role", .string (lit "controller"))]
  | config cameraIndex resolution => [(lit "type", .string (lit "config")),
      -- `JSON.stringify` writes `NaN` as `null`
      (lit "camera_index", cameraIndex.elim .null .integer),
      (lit "resolution", .string resolution), (lit "fps", .integer 10)]
  | stop => [(lit "type", .string (lit "stop"))]
  | recordStart => [(lit "type", .string (lit "record_start"))]
  | recordStop => [(lit "type", .string (lit "record_stop"))]

def text (printDouble : Rat → Bytes) (m : AppMessage) : Bytes :=
  stringify printDouble (.object m.fields)

end AppMessage

/-- The options of `resolution`. -/
def resolutions : List Bytes := [lit "80x60", lit "120x90", lit "160x120"]

/-- The messages that the script knows. -/
def keywords : List Bytes :=
  [lit "AUTH_CONTROLLER_SUCCESS", lit "CONFIG_APPLIED", lit "STREAM_STOPPED", lit "RECORDING_STARTED",
    lit "RECORDING_STOPPED", lit "RECORDING_ERROR"]

/-! ## The page -/

/-- `sockets.current` is `ws`. An `api_key` that is null and one that is empty are the same to the
script. `fetching` counts the calls of `start` that await `getApiKey`, `timers` the timeouts that `stop`
has set. `copyApiBtn` says whether that button is shown. `showing` counts the calls of `showApiInfo`
under way, `testing` those of `testTunnel`, and `copying` has the texts that are being written to the
clipboard. `alerts` is what the user has been told, the oldest first. -/
structure Page where
  sockets : Sockets AppMessage := {}
  isStreaming : Bool := false
  isRecording : Bool := false
  apiKey : Bytes := []
  fetching : Nat := 0
  timers : Nat := 0
  camera : Option Int := some 0
  resolution : Bytes := lit "120x90"
  startBtn : Bytes := lit "Start Stream"
  recordBtn : Bytes := lit "Start Recording"
  output : Bytes := []
  apiInfo : Bytes := []
  copyApiBtn : Bool := false
  showing : Nat := 0
  copying : List Bytes := []
  testing : Nat := 0
  alerts : List Bytes := []

/-- What the request of `testTunnel` has come to: a failure has the message of the server, an error that
of the exception. -/
inductive TunnelTest
  | passed
  | failed (message : Bytes)
  | error (message : Bytes)
  deriving DecidableEq, Repr

/-- The buttons of the API and of the tunnel, and what comes of them. -/
inductive PanelEvent
  | clickShowApi
  /-- The request of `showApiInfo` has brought an endpoint and a key, or nothing if it has failed. -/
  | fetchedApi (answer : Option (Bytes × Bytes))
  | clickCopyApi
  | copied (i : Nat) (written : Bool)
  | clickTestTunnel
  | tested (result : TunnelTest)
  deriving DecidableEq, Repr

inductive PageEvent
  | clickStart
  | clickRecord
  | choose (camera : Option Int) (resolution : Bytes)
  /-- `getApiKey` has returned, with an empty key if it has failed. -/
  | fetched (key : Bytes)
  | opened (i : Nat)
  | closed (i : Nat) (failed : Bool)
  | timeout
  | panel (e : PanelEvent)
  deriving DecidableEq, Repr

namespace Page

def updateUI (p : Page) (isStreaming : Bool) : Page :=
  let p := { p with
    startBtn := if isStreaming then lit "Stop Stream" else lit "Start Stream"
    isStreaming := isStreaming }
  if !isStreaming then { p with output := lit "Stream stopped" } else p

def alert (p : Page) (text : Bytes) : Page := { p with alerts := p.alerts ++ [text] }

def send (p : Page) (m : AppMessage) : Page := { p with sockets := p.sockets.trySend m }

/-- `start` behind its `await`. -/
def connect (p : Page) : Page := { p with sockets := p.sockets.connect }

def start (p : Page) : Page :=
  if p.isStreaming then p
  else
    let p := { p.updateUI true with output := lit "Starting stream...", isStreaming := true }
    if p.apiKey.isEmpty then { p with fetching := p.fetching + 1 } else p.connect

def stop (p : Page) : Page :=
  if p.sockets.isOpen then { p.send .stop with timers := p.timers + 1 } else p.updateUI false

/-- What `stop` does 300 ms later. -/
def stopped (p : Page) : Page := { p with sockets := p.sockets.close.forget }.updateUI false

def startRecording (p : Page) : Page :=
  if !p.sockets.isOpen then p.alert (lit "Please start the stream first")
  else { p.send .recordStart with recordBtn := lit "Stop Recording", isRecording := true }

def stopRecording (p : Page) : Page :=
  let p := if p.sockets.isOpen then p.send .recordStop else p
  { p with recordBtn := lit "Start Recording", isRecording := false }

def toggleRecording (p : Page) : Page := if p.isRecording then p.stopRecording else p.startRecording

def onopen (p : Page) : Page := p.send (.auth p.apiKey)

def cleanedMessage (data : Bytes) : Bytes := trim (data.filter (· != 0))

def onmessage (p : Page) (data : Bytes) : Page :=
  let cleaned := cleanedMessage data
  if cleaned = lit "AUTH_CONTROLLER_SUCCESS" then p.send (.config p.camera p.resolution)
  else if cleaned = lit "CONFIG_APPLIED" then { p with output := lit "Stream started successfully" }
  else if cleaned = lit "STREAM_STOPPED" then p.updateUI false
  else if cleaned = lit "RECORDING_STARTED" then p.alert (lit "Recording started successfully")
  else if cleaned = lit "RECORDING_STOPPED" then p.alert (lit "Recording stopped successfully")
  else if cleaned = lit "RECORDING_ERROR" then
    { p.alert (lit "Recording error occurred") with
      recordBtn := lit "Start Recording", isRecording := false }
  else { p with output := cleaned }

def onclose (p : Page) : Page := if p.isStreaming then p.stop else p

def onerror (p : Page) : Page := p.stop

/-- `showApiInfo` behind its `await`. -/
def showApiInfo (p : Page) : Option (Bytes × Bytes) → Page
  | some (endpoint, key) => { p with
      apiInfo := lit "Endpoint: " ++ endpoint ++ lit "\nAPI Key: " ++ key
      copyApiBtn := true }
  | none => { p with apiInfo := lit "Error: Could not fetch API info" }

def copyApiInfo (p : Page) : Page := { p with copying := p.copying ++ [p.apiInfo] }

/-- `testTunnel` behind its `await`. -/
def testTunnel (p : Page) : TunnelTest → Page
  | .passed => p.alert (lit "Tunnel test passed! Your server is accessible from the internet.")
  | .failed message => p.alert (lit "Tunnel test failed: " ++ message)
  | .error message => p.alert (lit "Tunnel test failed: " ++ message)

def actPanel (p : Page) : PanelEvent → Option Page
  | .clickShowApi => some { p with showing := p.showing + 1 }
  | .fetchedApi answer =>
    if 0 < p.showing then some ({ p with showing := p.showing - 1 }.showApiInfo answer) else none
  | .clickCopyApi => if p.copyApiBtn then some p.copyApiInfo else none
  | .copied i written => p.copying[i]?.map fun _ =>
    let p := { p with copying := p.copying.eraseIdx i }
    -- a text that could not be written is only reported on the console
    if written then p.alert (lit "API info copied to clipboard!") else p
  | .clickTestTunnel => some { p with testing := p.testing + 1 }
  | .tested result =>
    if 0 < p.testing then some ({ p with testing := p.testing - 1 }.testTunnel result) else none

def act (p : Page) : PageEvent → Option Page
  | .clickStart => some (if p.isStreaming then p.stop else p.start)
  | .clickRecord => some p.toggleRecording
  | .choose camera resolution =>
    if resolutions.contains resolution then some { p with camera := camera, resolution := resolution }
    else none
  | .fetched key =>
    if 0 < p.fetching then some { p with fetching := p.fetching - 1, apiKey := key }.connect else none
  | .opened i => (p.sockets.opens i).map fun s => { p with sockets := s }.onopen
  | .closed i failed => (p.sockets.closes i).map fun s =>
    let p := { p with sockets := s }
    (if failed then p.onerror else p).onclose
  | .timeout => if 0 < p.timers then some { p with timers := p.timers - 1 }.stopped else none
  | .panel e => p.actPanel e

def receive (p : Page) (i : Nat) (data : Bytes) : Option Page :=
  if p.sockets.receives i then some (p.onmessage data) else none

end Page

/-! ## What comes in -/

/-- What `onmessage` does with a message. -/
inductive Page.Reacts (p : Page) (cleaned : Bytes) : Page → Prop
  | authenticated (known : cleaned = lit "AUTH_CONTROLLER_SUCCESS") :
    Reacts p cleaned (p.send (.config p.camera p.resolution))
  | applied (known : cleaned = lit "CONFIG_APPLIED") :
    Reacts p cleaned { p with output := lit "Stream started successfully" }
  | stopped (known : cleaned = lit "STREAM_STOPPED") : Reacts p cleaned (p.updateUI false)
  | started (known : cleaned = lit "RECORDING_STARTED") :
    Reacts p cleaned (p.alert (lit "Recording started successfully"))
  | ended (known : cleaned = lit "RECORDING_STOPPED") :
    Reacts p cleaned (p.alert (lit "Recording stopped successfully"))
  | failed (known : cleaned = lit "RECORDING_ERROR") :
    Reacts p cleaned { p.alert (lit "Recording error occurred") with
      recordBtn := lit "Start Recording", isRecording := false }
  | shown (unknown : cleaned ∉ keywords) : Reacts p cleaned { p with output := cleaned }

theorem reacts_onmessage (p : Page) (data : Bytes) :
    p.Reacts (Page.cleanedMessage data) (p.onmessage data) := by
  unfold Page.onmessage
  generalize Page.cleanedMessage data = cleaned
  simp only
  split_ifs with hauth hconfig hstop hstarted hended hfailed
  · exact .authenticated hauth
  · exact .applied hconfig
  · exact .stopped hstop
  · exact .started hstarted
  · exact .ended hended
  · exact .failed hfailed
  · refine .shown ?_
    simp [keywords, hauth, hconfig, hstop, hstarted, hended, hfailed]

/-! ## What the handlers send -/

/-- The page may send the message, if it has this key. -/
def AppMessage.Sendable (key : Bytes) : AppMessage → Prop
  | .auth apiKey => apiKey = key
  | .config _ resolution => resolution ∈ resolutions
  | _ => True

/-- A handler that works with the connections that are there. -/
structure Works (A : AppMessage → Prop) (p p' : Page) : Prop where
  sockets : Uses A p.sockets p'.sockets
  apiKey : p'.apiKey = p.apiKey
  resolution : p'.resolution = p.resolution

section Handlers

variable {A : AppMessage → Prop} {p p' : Page}

theorem Works.refl (p : Page) : Works A p p := ⟨.refl, rfl, rfl⟩

theorem Works.of_same (hsockets : p'.sockets = p.sockets) (hkey : p'.apiKey = p.apiKey)
    (hresolution : p'.resolution = p.resolution) : Works A p p' :=
  ⟨hsockets ▸ .refl, hkey, hresolution⟩

theorem works_updateUI (p : Page) (isStreaming : Bool) : Works A p (p.updateUI isStreaming) := by
  cases isStreaming <;> exact .of_same rfl rfl rfl

theorem works_send {m : AppMessage} (hm : A m) (p : Page) : Works A p (p.send m) :=
  ⟨.send m hm .refl, rfl, rfl⟩

theorem works_stop (hstop : A .stop) (p : Page) : Works A p p.stop := by
  unfold Page.stop
  split
  · exact ⟨.send _ hstop .refl, rfl, rfl⟩
  · exact works_updateUI p false

theorem works_stopped (p : Page) : Works A p p.stopped := ⟨.forget (.close .refl), rfl, rfl⟩

theorem works_toggleRecording (hstart : A .recordStart) (hstop : A .recordStop)
    (p : Page) : Works A p p.toggleRecording := by
  unfold Page.toggleRecording
  split
  · unfold Page.stopRecording
    simp only
    split
    · exact ⟨.send _ hstop .refl, rfl, rfl⟩
    · exact .of_same rfl rfl rfl
  · unfold Page.startRecording
    split
    · exact .of_same rfl rfl rfl
    · exact ⟨.send _ hstart .refl, rfl, rfl⟩

theorem works_onmessage (hconfig : A (.config p.camera p.resolution)) (data : Bytes) :
    Works A p (p.onmessage data) := by
  have hreacts := reacts_onmessage p data
  generalize p.onmessage data = p' at hreacts ⊢
  cases hreacts with
  | authenticated known => exact works_send hconfig p
  | stopped known => exact works_updateUI p false
  | _ => exact .of_same rfl rfl rfl

theorem Works.trans {p'' : Page} (h : Works A p p') (h' : Works A p' p'') :
    Works A p p'' :=
  ⟨h.sockets.trans h'.sockets, h'.apiKey.trans h.apiKey, h'.resolution.trans h.resolution⟩

/-- A connection has ended. -/
theorem works_onclose (hstop : A .stop) (failed : Bool) (p : Page) :
    Works A p (if failed then p.onerror else p).onclose := by
  have hclose : ∀ p : Page, Works A p p.onclose := by
    intro p
    unfold Page.onclose
    split
    · exact works_stop hstop p
    · exact .refl p
  cases failed with
  | true => exact (works_stop hstop p).trans (hclose _)
  | false => exact hclose p

/-- The other buttons. -/
theorem works_actPanel {e : PanelEvent} (h : p.actPanel e = some p') : Works A p p' := by
  cases e with
  | clickShowApi =>
    cases h
    exact .of_same rfl rfl rfl
  | fetchedApi answer =>
    obtain ⟨-, h⟩ := Option.ite_none_right_eq_some.1 h
    cases h
    cases answer <;> exact .of_same rfl rfl rfl
  | clickCopyApi =>
    obtain ⟨-, h⟩ := Option.ite_none_right_eq_some.1 h
    cases h
    exact .of_same rfl rfl rfl
  | copied i written =>
    obtain ⟨text, -, rfl⟩ := Option.map_eq_some_iff.1 h
    cases written <;> exact .of_same rfl rfl rfl
  | clickTestTunnel =>
    cases h
    exact .of_same rfl rfl rfl
  | tested result =>
    obtain ⟨-, h⟩ := Option.ite_none_right_eq_some.1 h
    cases h
    cases result <;> exact .of_same rfl rfl rfl

/-- The handlers that connect. -/
theorem start_cases (p : Page) : Works A p p.start ∨
    p.apiKey ≠ [] ∧ p.start.sockets = p.sockets.connect ∧ p.start.apiKey = p.apiKey ∧
      p.start.resolution = p.resolution := by
  unfold Page.start
  split
  · exact Or.inl (.refl p)
  · simp only [List.isEmpty_iff]
    split
    · exact Or.inl (.of_same rfl rfl rfl)
    · next hne => exact Or.inr ⟨hne, rfl, rfl, rfl⟩

end Handlers

/-! ## Greetings -/

section Growing

variable {p p' : Page}

theorem act_grows {e : PageEvent} (h : p.act e = some p') : Grows p.sockets p'.sockets := by
  cases e with
  | clickStart =>
    cases h
    split
    · exact (works_stop (A := fun _ => True) trivial p).sockets.grows
    · rcases start_cases (A := fun _ => True) p with h | ⟨-, h, -⟩
      · exact h.sockets.grows
      · rw [h]
        exact grows_connect _
  | clickRecord =>
    cases h
    exact (works_toggleRecording (A := fun _ => True) trivial trivial p).sockets.grows
  | choose camera resolution =>
    obtain ⟨-, h⟩ := Option.ite_none_right_eq_some.1 h
    cases h
    exact .refl _
  | fetched key =>
    obtain ⟨-, h⟩ := Option.ite_none_right_eq_some.1 h
    cases h
    exact grows_connect _
  | opened i =>
    obtain ⟨s, hs, rfl⟩ := Option.map_eq_some_iff.1 h
    exact (grows_opens hs).trans (grows_trySend s _)
  | closed i failed =>
    obtain ⟨s, hs, rfl⟩ := Option.map_eq_some_iff.1 h
    exact (grows_closes hs).trans
      (works_onclose (A := fun _ => True) trivial failed { p with sockets := s }).sockets.grows
  | timeout =>
    obtain ⟨-, h⟩ := Option.ite_none_right_eq_some.1 h
    cases h
    exact (works_stopped (A := fun _ => True) { p with timers := p.timers - 1 }).sockets.grows
  | panel e => exact (works_actPanel (A := fun _ => True) h).sockets.grows

theorem receive_eq {i : Nat} {data : Bytes} (h : p.receive i data = some p') :
    p' = p.onmessage data := by
  obtain ⟨-, h⟩ := Option.ite_none_right_eq_some.1 h
  exact (Option.some.inj h).symm

end Growing

/-- The page of `app.js` as a client of the server. -/
def app (printDouble : Rat → Bytes) : Client Page PageEvent AppMessage where
  act := Page.act
  receive := Page.receive
  sockets := Page.sockets
  text := AppMessage.text printDouble
  act_grows := act_grows
  receive_grows := by
    intro p i data p' h
    rw [receive_eq h]
    exact (works_onmessage (A := fun _ => True) trivial data).sockets.grows

/-- A page that knows no other key than this one: what it sends is in order, and nothing comes before
the key. -/
structure KeyFirst (key : Bytes) (p : Page) : Prop where
  greeted : Greeted (fun m => m = .auth key) (AppMessage.Sendable key) p.sockets
  resolution : p.resolution ∈ resolutions
  apiKey : p.apiKey = key ∨ p.apiKey = [] ∧ p.sockets.made.length = 0

section Readiness

variable {key : Bytes} {p p' : Page}

theorem KeyFirst.init (key : Bytes) : KeyFirst key {} := by
  by_cases h : key = []
  · exact ⟨.init, by decide, Or.inl h.symm⟩
  · exact ⟨.init, by decide, Or.inr ⟨rfl, rfl⟩⟩

theorem KeyFirst.works (h : KeyFirst key p) (hp : Works (AppMessage.Sendable key) p p') : KeyFirst key p' := by
  refine ⟨h.greeted.uses hp.sockets, hp.resolution ▸ h.resolution, ?_⟩
  rw [hp.apiKey, hp.sockets.length]
  exact h.apiKey

theorem KeyFirst.receive (h : KeyFirst key p) {i : Nat} {data : Bytes} (hs : p.receive i data = some p') :
    KeyFirst key p' := by
  rw [receive_eq hs]
  exact h.works (works_onmessage h.resolution data)

/-- **The key comes first**, whatever the user clicks and the network does. -/
theorem KeyFirst.act (h : KeyFirst key p) {e : PageEvent} (hkey : ∀ k, e = .fetched k → k = key)
    (hs : p.act e = some p') : KeyFirst key p' := by
  cases e with
  | clickStart =>
    cases hs
    split
    · exact h.works (works_stop trivial p)
    · rcases start_cases (A := AppMessage.Sendable key) p with hw | ⟨hne, hsockets, hsame, hres⟩
      · exact h.works hw
      · refine ⟨hsockets ▸ h.greeted.connect, hres ▸ h.resolution, ?_⟩
        rcases h.apiKey with hkey | ⟨hnil, -⟩
        · exact Or.inl (hsame.trans hkey)
        · exact absurd hnil hne
  | clickRecord =>
    cases hs
    exact h.works (works_toggleRecording trivial trivial p)
  | choose camera resolution =>
    obtain ⟨hmem, hs⟩ := Option.ite_none_right_eq_some.1 hs
    cases hs
    exact ⟨h.greeted, List.contains_iff_mem.1 hmem, h.apiKey⟩
  | fetched k =>
    obtain ⟨-, hs⟩ := Option.ite_none_right_eq_some.1 hs
    cases hs
    exact ⟨h.greeted.connect, h.resolution, Or.inl (hkey k rfl)⟩
  | opened i =>
    obtain ⟨s, hopens, rfl⟩ := Option.map_eq_some_iff.1 hs
    have hpos : p.sockets.made.length ≠ 0 := by
      obtain ⟨w, hw, -⟩ := opens_eq hopens
      exact Nat.ne_of_gt (Nat.lt_of_le_of_lt (Nat.zero_le i) (List.getElem?_eq_some_iff.1 hw).1)
    have heq : p.apiKey = key := by
      rcases h.apiKey with heq | ⟨-, hnone⟩
      · exact heq
      · exact absurd hnone hpos
    refine ⟨?_, h.resolution, Or.inl heq⟩
    exact h.greeted.opens (congrArg AppMessage.auth heq) heq hopens
  | closed i failed =>
    obtain ⟨s, hcloses, rfl⟩ := Option.map_eq_some_iff.1 hs
    have hclosed : KeyFirst key { p with sockets := s } := by
      refine ⟨h.greeted.closes hcloses, h.resolution, ?_⟩
      obtain ⟨w, -, rfl⟩ := closes_eq hcloses
      simp only [List.length_set]
      exact h.apiKey
    exact hclosed.works (works_onclose trivial failed _)
  | timeout =>
    obtain ⟨-, hs⟩ := Option.ite_none_right_eq_some.1 hs
    cases hs
    have hready : KeyFirst key { p with timers := p.timers - 1 } := ⟨h.greeted, h.resolution, h.apiKey⟩
    exact hready.works (works_stopped _)
  | panel e => exact h.works (works_actPanel hs)

end Readiness

end AsciiStreamer
