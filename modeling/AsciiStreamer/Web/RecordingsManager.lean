import AsciiStreamer.Web.Coming
import AsciiStreamer.Web.Controller

/-!
# The page that plays recordings (`web/recordings.js`)

Its sessions never present a key, and need none: any command of the playback is executed for them. So the
page shows a text of its own, or what has been written to one of its sessions: an answer to one of its
messages, or a frame of a playback it has asked for, and never a live frame (`manager_shows`).
-/

namespace AsciiStreamer

open Cxx Browser

/-! ## What the page sends -/

inductive PlaybackMessage
  | playbackStart (filename : Bytes)
  | playbackPause
  | playbackResume
  | playbackStop
  | playbackSpeed (speed : Rat)
  deriving DecidableEq, Repr

namespace PlaybackMessage

def fields : PlaybackMessage → List (Bytes × Json)
  | playbackStart filename => [(lit "type", .string (lit "playback_start")),
      (lit "filename", .string filename)]
  | playbackPause => [(lit "type", .string (lit "playback_pause"))]
  | playbackResume => [(lit "type", .string (lit "playback_resume"))]
  | playbackStop => [(lit "type", .string (lit "playback_stop"))]
  | playbackSpeed speed => [(lit "type", .string (lit "playback_speed")),
      -- a whole number is written without a fraction
      (lit "speed", if speed.den = 1 then .integer speed.num else .float speed)]

def text (printDouble : Rat → Bytes) (m : PlaybackMessage) : Bytes :=
  stringify printDouble (.object m.fields)

/-- What the message is to the server. -/
def command : PlaybackMessage → Command
  | playbackStart filename => .playbackStart filename
  | playbackPause => .playbackPause
  | playbackResume => .playbackResume
  | playbackStop => .playbackStop
  | playbackSpeed speed => .playbackSpeed speed

def success : PlaybackMessage → Bytes
  | playbackStart _ => lit "PLAYBACK_STARTED"
  | playbackPause => lit "PLAYBACK_PAUSED"
  | playbackResume => lit "PLAYBACK_RESUMED"
  | playbackStop => lit "PLAYBACK_STOPPED"
  | playbackSpeed _ => lit "PLAYBACK_SPEED_CHANGED"

/-- The reply is an answer to the message. -/
def Answered (m : PlaybackMessage) (reply : Bytes) : Prop :=
  reply = m.success ∨ (∃ err, reply = errorText err) ∨
    m = playbackStart [] ∧ reply = lit "ERROR: No filename specified"

end PlaybackMessage

/-- The options of `speedSelect`. -/
def speeds : List Rat := [1 / 2, 1, 2, 4]

/-! ## The page -/

/-- What `updatePlaybackControls` sets: which controls are disabled, and the text of `pauseBtn`. -/
structure Controls where
  playBtn : Bool := false
  pauseBtn : Bool := true
  stopBtn : Bool := true
  speedSelect : Bool := false
  pauseText : Bytes := lit "Pause"

/-- `sockets.current` is `ws`. A `currentRecording` that is null and one that is empty are the same to
the script. -/
structure RecordingsManager where
  sockets : Sockets PlaybackMessage := {}
  currentRecording : Bytes := []
  isPlaying : Bool := false
  isPaused : Bool := false
  controls : Controls := {}
  playbackOutput : Bytes := []
  alerts : List Bytes := []

inductive ManagerEvent
  | select (filename : Bytes)
  | clickPlay
  | clickPause
  | clickStop
  | changeSpeed (speed : Rat)
  | opened (i : Nat)
  | closed (i : Nat) (failed : Bool)
  deriving DecidableEq, Repr

namespace RecordingsManager

def updatePlaybackControls (p : RecordingsManager) : RecordingsManager :=
  { p with controls := {
      playBtn := p.isPlaying
      pauseBtn := !p.isPlaying
      stopBtn := !p.isPlaying
      speedSelect := !p.isPlaying
      pauseText := if p.isPaused then lit "Resume" else lit "Pause" } }

def alert (p : RecordingsManager) (text : Bytes) : RecordingsManager :=
  { p with alerts := p.alerts ++ [text] }

def selectRecording (p : RecordingsManager) (filename : Bytes) : RecordingsManager :=
  { p with
    currentRecording := filename
    playbackOutput := lit "Select Play to start playback" }.updatePlaybackControls

def startPlayback (p : RecordingsManager) : RecordingsManager :=
  if p.currentRecording.isEmpty then p.alert (lit "No recording selected")
  else { p with sockets := p.sockets.connect }

/-- If `send` throws, nothing else of it is executed. -/
def onopen (p : RecordingsManager) : RecordingsManager :=
  match p.sockets.send (.playbackStart p.currentRecording) with
  | none => p
  | some s => { p with sockets := s, isPlaying := true, isPaused := false }.updatePlaybackControls

def onmessage (p : RecordingsManager) (data : Bytes) : RecordingsManager :=
  { p with playbackOutput := data }

def onclose (p : RecordingsManager) : RecordingsManager :=
  { p with isPlaying := false, isPaused := false }.updatePlaybackControls

def onerror (p : RecordingsManager) : RecordingsManager :=
  { p.alert (lit "Playback error") with isPlaying := false, isPaused := false }.updatePlaybackControls

def togglePause (p : RecordingsManager) : RecordingsManager :=
  if !p.sockets.isOpen then p
  else if p.isPaused then
    { p with sockets := p.sockets.trySend .playbackResume, isPaused := false }.updatePlaybackControls
  else { p with sockets := p.sockets.trySend .playbackPause, isPaused := true }.updatePlaybackControls

def stopPlayback (p : RecordingsManager) : RecordingsManager :=
  let s := if p.sockets.isOpen then (p.sockets.trySend .playbackStop).close else p.sockets
  { { p with sockets := s, isPlaying := false, isPaused := false }.updatePlaybackControls with
    playbackOutput := lit "Playback stopped" }

def changePlaybackSpeed (p : RecordingsManager) (speed : Rat) : RecordingsManager :=
  if !p.sockets.isOpen then p
  else { p with sockets := p.sockets.trySend (.playbackSpeed speed) }

def act (p : RecordingsManager) : ManagerEvent → Option RecordingsManager
  | .select filename => some (p.selectRecording filename)
  | .clickPlay => if p.controls.playBtn then none else some p.startPlayback
  | .clickPause => if p.controls.pauseBtn then none else some p.togglePause
  | .clickStop => if p.controls.stopBtn then none else some p.stopPlayback
  | .changeSpeed speed =>
    if p.controls.speedSelect || !speeds.contains speed then none
    else some (p.changePlaybackSpeed speed)
  | .opened i => (p.sockets.opens i).map fun s => { p with sockets := s }.onopen
  | .closed i failed => (p.sockets.closes i).map fun s =>
    let p := { p with sockets := s }
    (if failed then p.onerror else p).onclose

def receive (p : RecordingsManager) (i : Nat) (data : Bytes) : Option RecordingsManager :=
  if p.sockets.receives i then some (p.onmessage data) else none

end RecordingsManager

/-- What the script itself writes to the page. -/
def managerTexts : List Bytes :=
  [[], lit "Select Play to start playback", lit "Playback stopped"]

/-! ## The handlers -/

/-- A handler sends more, and writes nothing but texts of the page. -/
structure Handles (p p' : RecordingsManager) : Prop where
  sockets : Grows p.sockets p'.sockets
  output : p'.playbackOutput = p.playbackOutput ∨ p'.playbackOutput ∈ managerTexts

section Handlers

variable {p p' : RecordingsManager}

theorem handles_selectRecording (p : RecordingsManager) (filename : Bytes) :
    Handles p (p.selectRecording filename) := by
  have hselected : lit "Select Play to start playback" ∈ managerTexts := by decide
  exact ⟨.refl _, Or.inr hselected⟩

theorem handles_startPlayback (p : RecordingsManager) : Handles p p.startPlayback := by
  unfold RecordingsManager.startPlayback
  split
  · exact ⟨.refl _, Or.inl rfl⟩
  · exact ⟨grows_connect _, Or.inl rfl⟩

theorem handles_onopen (p : RecordingsManager) : Handles p p.onopen := by
  unfold RecordingsManager.onopen
  split
  · exact ⟨.refl _, Or.inl rfl⟩
  · next s hs => exact ⟨grows_send hs, Or.inl rfl⟩

theorem handles_togglePause (p : RecordingsManager) : Handles p p.togglePause := by
  unfold RecordingsManager.togglePause
  split
  · exact ⟨.refl _, Or.inl rfl⟩
  · split <;> exact ⟨grows_trySend _ _, Or.inl rfl⟩

theorem handles_stopPlayback (p : RecordingsManager) : Handles p p.stopPlayback := by
  have hstopped : lit "Playback stopped" ∈ managerTexts := by decide
  refine ⟨?_, Or.inr hstopped⟩
  unfold RecordingsManager.stopPlayback
  simp only [RecordingsManager.updatePlaybackControls]
  split
  · exact (grows_trySend _ _).trans (grows_close _)
  · exact .refl _

theorem handles_changePlaybackSpeed (p : RecordingsManager) (speed : Rat) :
    Handles p (p.changePlaybackSpeed speed) := by
  unfold RecordingsManager.changePlaybackSpeed
  split
  · exact ⟨.refl _, Or.inl rfl⟩
  · exact ⟨grows_trySend _ _, Or.inl rfl⟩

theorem handles_act {e : ManagerEvent} (h : p.act e = some p') : Handles p p' := by
  cases e with
  | select filename =>
    cases h
    exact handles_selectRecording p filename
  | clickPlay =>
    obtain ⟨-, h⟩ := Option.ite_none_left_eq_some.1 h
    cases h
    exact handles_startPlayback p
  | clickPause =>
    obtain ⟨-, h⟩ := Option.ite_none_left_eq_some.1 h
    cases h
    exact handles_togglePause p
  | clickStop =>
    obtain ⟨-, h⟩ := Option.ite_none_left_eq_some.1 h
    cases h
    exact handles_stopPlayback p
  | changeSpeed speed =>
    obtain ⟨-, h⟩ := Option.ite_none_left_eq_some.1 h
    cases h
    exact handles_changePlaybackSpeed p speed
  | opened i =>
    obtain ⟨s, hs, rfl⟩ := Option.map_eq_some_iff.1 h
    obtain ⟨hgrows, houtput⟩ := handles_onopen { p with sockets := s }
    exact ⟨(grows_opens hs).trans hgrows, houtput⟩
  | closed i failed =>
    obtain ⟨s, hs, rfl⟩ := Option.map_eq_some_iff.1 h
    cases failed with
    | true => exact ⟨grows_closes hs, Or.inl rfl⟩
    | false => exact ⟨grows_closes hs, Or.inl rfl⟩

theorem receive_onmessage {i : Nat} {data : Bytes} (h : p.receive i data = some p') :
    p' = p.onmessage data := by
  obtain ⟨-, h⟩ := Option.ite_none_right_eq_some.1 h
  exact (Option.some.inj h).symm

end Handlers

/-- The page of `recordings.js` as a client of the server. -/
def manager (printDouble : Rat → Bytes) :
    Client RecordingsManager ManagerEvent PlaybackMessage where
  act := RecordingsManager.act
  receive := RecordingsManager.receive
  sockets := RecordingsManager.sockets
  text := PlaybackMessage.text printDouble
  act_grows h := (handles_act h).sockets
  receive_grows := by
    intro p i data p' h
    rw [receive_onmessage h]
    exact .refl _

/-! ## Answers -/

section Answering

variable {P : Platform} {api : Api} {printDouble : Rat → Bytes} {m : PlaybackMessage}
  {isController : Bool} {id : SessionId} {reply : Bytes}

/-- To any session a message of the page is the command that it means. -/
theorem decode_playback (h : ReadsAs api (m.text printDouble) m.fields) (isController : Bool) :
    decode P api isController (m.text printDouble) = .ok m.command := by
  obtain ⟨read, hparse, hfind⟩ := h
  cases m with
  | playbackStart filename =>
    have hfilename : Json.value (.object read) (lit "filename") Json.getString [] =
        Json.getString (.string filename) := value_of_reads hfind rfl _ _
    rw [decode_of_reads hparse hfind (lit "playback_start") rfl]
    exact bind_ok.2 ⟨_, hfilename, rfl⟩
  | playbackPause => exact decode_of_reads hparse hfind (lit "playback_pause") rfl
  | playbackResume => exact decode_of_reads hparse hfind (lit "playback_resume") rfl
  | playbackStop => exact decode_of_reads hparse hfind (lit "playback_stop") rfl
  | playbackSpeed speed =>
    have hspeed : Json.value (.object read) (lit "speed") Json.getDouble 1 =
        Json.getDouble (if speed.den = 1 then .integer speed.num else .float speed) :=
      value_of_reads hfind rfl _ _
    have hread : Json.getDouble (if speed.den = 1 then .integer speed.num else .float speed) =
        .ok speed := by
      split
      · next hwhole => exact congrArg Except.ok (Rat.den_eq_one_iff speed |>.1 hwhole)
      · rfl
    rw [decode_of_reads hparse hfind (lit "playback_speed") rfl]
    exact bind_ok.2 ⟨speed, hspeed.trans hread, rfl⟩

/-- None of them presents a key. -/
theorem not_authMessage (h : ReadsAs api (m.text printDouble) m.fields) (role : Bytes) :
    ¬AuthMessage api (m.text printDouble) role := by
  rintro ⟨j, hj, htype, -⟩
  obtain ⟨read, hparse, hfind⟩ := h
  obtain rfl : Json.object read = j := Except.ok.inj (hparse.symm.trans hj)
  have hfield : ∀ type, Json.find? m.fields (lit "type") = some (.string type) →
      type = lit "auth" := by
    intro type hfields
    rw [field_of_reads hfind hfields] at htype
    exact Except.ok.inj htype
  cases m with
  | _ => exact absurd (hfield _ rfl) (by decide)

/-- The answer to a message of the page. -/
theorem answered_playback {x : Exchange} (h : Answers P api id isController x)
    (hd : decode P api isController x.text = .ok m.command) (hreply : reply ∈ x.replies) :
    m.Answered reply := by
  have returned : ∀ {result : Except Exn Unit}, reply ∈ [answer m.success result] →
      m.Answered reply := by
    intro result hmem
    obtain rfl := List.mem_singleton.1 hmem
    cases result with
    | ok u => exact Or.inl rfl
    | error err => exact Or.inr (Or.inl ⟨err, rfl⟩)
  have hauth : ∀ apiKey role, m.command = .auth apiKey role → apiKey = api.apiKey := by
    intro apiKey role hcommand
    cases m <;> cases hcommand
  rcases replies_of_answers h hd hauth with ⟨hnone, isStreaming, hreplies⟩ |
    ⟨call, text, result, hawaited, hreplies⟩
  · rw [hreplies] at hreply
    cases m with
    | playbackStart filename =>
      cases filename with
      | nil => exact Or.inr (Or.inr ⟨rfl, List.mem_singleton.1 hreply⟩)
      | cons c filename => cases hnone
    | _ => cases hnone
  · rw [hreplies] at hreply
    cases m with
    | playbackStart filename =>
      obtain ⟨-, hawaited⟩ := Option.ite_none_left_eq_some.1 hawaited
      cases hawaited
      exact returned hreply
    | _ =>
      cases hawaited
      exact returned hreply

end Answering

/-! ## Every run -/

/-- What the page has coming from the server: an answer to what it has sent, or a recorded frame that it
has asked for. -/
def Owed (sent : List PlaybackMessage) (m : Message) : Prop :=
  (∃ q ∈ sent, ∃ reply, m = .reply reply ∧ q.Answered reply) ∨
    ∃ frame filename, m = .playback frame ∧ .playbackStart filename ∈ sent

section Managing

variable {P : Platform} {api : Api} {printDouble : Rat → Bytes} {v : Visit RecordingsManager}

/-- **What is written to a session of the page** is owed to it. -/
theorem owed_of_written (h : Hosted P api (manager printDouble) v)
    (hreads : ∀ w ∈ v.page.sockets.made, ∀ q ∈ w.sent, ReadsAs api (q.text printDouble) q.fields)
    {l : Line} (hl : l ∈ v.lines) {m : Message}
    (hm : m ∈ (v.server.sessions l.session).written) :
    ∃ w, v.page.sockets.made[l.socket]? = some w ∧ Owed w.sent m := by
  cases m with
  | reply reply =>
    obtain ⟨w, hsocket, q, hq, x, isController, htext, hreplies, hanswers⟩ := h.replied hl hm
    have hd := decode_playback (P := P) (hreads w (List.mem_of_getElem? hsocket) q hq) isController
    have hd : decode P api isController x.text = .ok q.command := htext ▸ hd
    exact ⟨w, hsocket, Or.inl ⟨q, hq, reply, rfl, answered_playback hanswers hd hreplies⟩⟩
  | live frame =>
    obtain ⟨w, hsocket, q, hq, role, hauth⟩ := h.live hl hm
    exact absurd hauth (not_authMessage (hreads w (List.mem_of_getElem? hsocket) q hq) role)
  | playback frame =>
    obtain ⟨w, hsocket, q, hq, filename, isController, hstart⟩ := h.playback hl hm
    have hd := decode_playback (P := P) (hreads w (List.mem_of_getElem? hsocket) q hq) isController
    have hcommand : q.command = .playbackStart filename := Except.ok.inj (hd.symm.trans hstart)
    cases q with
    | playbackStart filename => exact ⟨w, hsocket, Or.inr ⟨frame, filename, rfl, hq⟩⟩
    | _ => cases hcommand

/-- The page never presents a wrong key. -/
theorem not_rejects_playback {q : PlaybackMessage}
    (h : ReadsAs api (q.text printDouble) q.fields) : rejects P api (q.text printDouble) = false := by
  unfold rejects
  rw [decode_playback h]
  cases q <;> rfl

/-- **What the page that plays recordings shows.** In every run of the page with the server and all its
other clients: the text on the page is one of its own, or it was written to a session of the page and is
an answer to a message sent on its WebSocket, or a recorded frame that this has asked for. The sessions
do all this without a key. -/
theorem manager_shows (P : Platform) (api : Api) (printDouble : Rat → Bytes)
    (es : List (VisitEvent P ManagerEvent)) (v : Visit RecordingsManager)
    (hrun : (visit P api (manager printDouble)).run { page := {} } es = some v)
    (hreads : ∀ w ∈ v.page.sockets.made, ∀ q ∈ w.sent,
      ReadsAs api (q.text printDouble) q.fields) :
    (v.page.playbackOutput ∈ managerTexts ∨
      ∃ l ∈ v.lines, ∃ w, v.page.sockets.made[l.socket]? = some w ∧
        ∃ m ∈ (v.server.sessions l.session).written,
          v.page.playbackOutput = m.bytes ∧ Owed w.sent m) ∧
      ∀ l ∈ v.lines, (v.server.sessions l.session).isAuthenticated = false := by
  have h : Hosted P api (manager printDouble) v :=
    Machine.run_invariant (fun hi hs => hi.step hs) es .init hrun
  have hshown : OnScreen P api RecordingsManager.playbackOutput managerTexts [] v := by
    refine Machine.run_invariant (fun hi hs => hi.step (fun hact => (handles_act hact).output)
      (fun hreceive => ?_) hs) es (Or.inl List.mem_cons_self) hrun
    rw [receive_onmessage hreceive]
    exact Or.inr ⟨List.not_mem_nil, rfl⟩
  refine ⟨?_, fun l hl => ?_⟩
  · rcases hshown with hown | ⟨data, hcame, -, hshown⟩
    · exact Or.inl hown
    · cases hcame with
      | written l line m written =>
        obtain ⟨w, hsocket, howed⟩ := owed_of_written h hreads line written
        exact Or.inr ⟨l, line, w, hsocket, m, written, hshown, howed⟩
      | refused l line text received rejected =>
        obtain ⟨w, hsocket, q, hq, rfl⟩ := h.sent line received
        have hnot := not_rejects_playback (P := P) (hreads w (List.mem_of_getElem? hsocket) q hq)
        cases hnot.symm.trans rejected
  · rw [← Bool.not_eq_true]
    intro hkey
    obtain ⟨w, hsocket, q, hq, role, hauth⟩ := h.presented hl (h.authorised.key l.session hkey)
    exact not_authMessage (hreads w (List.mem_of_getElem? hsocket) q hq) role hauth

end Managing

/-! ### A recording -/

/-- A parser that knows one message of the page. -/
def managerApi : Api where
  apiKey := lit "key"
  parse json :=
    if json = PlaybackMessage.text noFraction (.playbackStart (lit "old.asr")) then
      .ok (.object (PlaybackMessage.fields (.playbackStart (lit "old.asr"))))
    else .error (.jsonError (lit "parse error"))

/-- The page plays a recording, and shows its first frame. -/
def oldRecording : List (VisitEvent x86_64 ManagerEvent) :=
  [.page (.select (lit "old.asr")), .page .clickPlay, .connects 0,
    .server (.session 1 (.accepted true) ⟨noon, 0, true⟩), .page (.opened 0),
    .reads 0 false ⟨noon, 0, true⟩, .server (.segment 0 .working none),
    .server (.segment 0 .working (some (magic ++ lit "\nframes:\nframe:0:1\nA\nframe:100:1\nB\n"))),
    .server (.session 1 .runPosted ⟨noon, 0, true⟩),
    .server (.session 1 (.startWriter 0) ⟨noon, 0, true⟩), .shows 0]

theorem manager_shows_oldRecording : ∃ v,
    (visit x86_64 managerApi (manager noFraction)).run { page := {} } oldRecording = some v ∧
      v.page.sockets.made.map Socket.sent = [[.playbackStart (lit "old.asr")]] ∧
      v.page.playbackOutput = lit "A" ∧
      (v.page.playbackOutput ∈ managerTexts ∨
        ∃ l ∈ v.lines, ∃ w, v.page.sockets.made[l.socket]? = some w ∧
          ∃ m ∈ (v.server.sessions l.session).written,
            v.page.playbackOutput = m.bytes ∧ Owed w.sent m) ∧
      ∀ l ∈ v.lines, (v.server.sessions l.session).isAuthenticated = false := by
  have hfacts : ((visit x86_64 managerApi (manager noFraction)).run { page := {} }
      oldRecording).any (fun v => v.page.sockets.made.map Socket.sent ==
        [[.playbackStart (lit "old.asr")]] && v.page.playbackOutput == lit "A") = true := by
    decide +kernel
  obtain ⟨v, hrun, hfacts⟩ := (Option.any_eq_true _ _).1 hfacts
  simp only [Bool.and_eq_true, beq_iff_eq] at hfacts
  obtain ⟨hsent, houtput⟩ := hfacts
  have hreads : ∀ w ∈ v.page.sockets.made, ∀ q ∈ w.sent,
      ReadsAs managerApi (q.text noFraction) q.fields := by
    refine forall_sent hsent ?_
    simp only [List.mem_singleton, forall_eq]
    have hparse : managerApi.parse (PlaybackMessage.text noFraction (.playbackStart (lit "old.asr"))) =
        .ok (.object (PlaybackMessage.fields (.playbackStart (lit "old.asr")))) := by
      simp only [managerApi, if_true]
    exact ⟨_, hparse, fun _ => rfl⟩
  exact ⟨v, hrun, hsent, houtput,
    manager_shows x86_64 managerApi noFraction oldRecording v hrun hreads⟩

end AsciiStreamer
