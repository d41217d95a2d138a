import AsciiStreamer.Web.Coming
import AsciiStreamer.Web.Controller

/-!
# What the page shows

The text on the page is one of its own, or has come in on one of its connections. What comes in was
written to a session that has received nothing but what the page sends: so it is an answer to one of
these messages, or a picture of the camera, and never a recorded frame, `AUTH_FAILED` or
`RECORDING_ERROR` (`page_shows`).
-/

namespace AsciiStreamer

open Cxx Browser AppMessage Page

/-- What the script itself writes to the page. -/
def statusTexts : List Bytes :=
  [[], lit "Starting stream...", lit "Stream started successfully", lit "Stream stopped"]

/-- What it tells the user, a tunnel that has failed apart. -/
def notices : List Bytes :=
  [lit "Please start the stream first", lit "Recording started successfully",
    lit "Recording stopped successfully", lit "API info copied to clipboard!",
    lit "Tunnel test passed! Your server is accessible from the internet."]

/-- A notice, or the failure of a tunnel test. -/
def Noticed (text : Bytes) : Prop := text ∈ notices ∨ lit "Tunnel test failed: " <+: text

theorem not_noticed_error : ¬Noticed (lit "Recording error occurred") := by
  unfold Noticed
  decide

/-- The page has written and told nothing but texts of its own. -/
structure Quietly (p p' : Page) : Prop where
  output : p'.output = p.output ∨ p'.output ∈ statusTexts
  alerts : ∀ text ∈ p'.alerts, text ∈ p.alerts ∨ Noticed text

/-- What the page makes of a message that comes in. -/
inductive Displays (p p' : Page) (data : Bytes) : Prop
  | quietly (quietly : Quietly p p')
  | output (unknown : cleanedMessage data ∉ keywords) (output : p'.output = cleanedMessage data)
      (alerts : p'.alerts = p.alerts)
  | failure (error : cleanedMessage data = lit "RECORDING_ERROR") (output : p'.output = p.output)

/-! ## The handlers -/

section Handlers

variable {p p' p'' : Page}

theorem Quietly.of_same (houtput : p'.output = p.output) (halerts : p'.alerts = p.alerts) :
    Quietly p p' := ⟨Or.inl houtput, fun _ h => Or.inl (halerts ▸ h)⟩

theorem Quietly.of_status {text : Bytes} (htext : text ∈ statusTexts) (houtput : p'.output = text)
    (halerts : p'.alerts = p.alerts) : Quietly p p' :=
  ⟨Or.inr (houtput ▸ htext), fun _ h => Or.inl (halerts ▸ h)⟩

theorem Quietly.trans (h : Quietly p p') (h' : Quietly p' p'') : Quietly p p'' := by
  refine ⟨?_, fun text htext => ?_⟩
  · rcases h'.output with hsame | hstatus
    · rw [hsame]
      exact h.output
    · exact Or.inr hstatus
  · rcases h'.alerts text htext with hold | hnew
    · exact h.alerts text hold
    · exact Or.inr hnew

theorem quietly_updateUI (p : Page) (isStreaming : Bool) : Quietly p (p.updateUI isStreaming) := by
  cases isStreaming with
  | true => exact .of_same rfl rfl
  | false =>
    have hstopped : lit "Stream stopped" ∈ statusTexts := by decide
    exact .of_status hstopped rfl rfl

theorem quietly_alert {text : Bytes} (htext : Noticed text) (p : Page) :
    Quietly p (p.alert text) := by
  refine ⟨Or.inl rfl, fun t ht => ?_⟩
  rcases List.mem_append.1 ht with ht | ht
  · exact Or.inl ht
  · exact Or.inr (List.mem_singleton.1 ht ▸ htext)

theorem quietly_stop (p : Page) : Quietly p p.stop := by
  unfold Page.stop
  split
  · exact .of_same rfl rfl
  · exact quietly_updateUI p false

theorem quietly_start (p : Page) : Quietly p p.start := by
  unfold Page.start
  split
  · exact .of_same rfl rfl
  · simp only
    have hstarting : lit "Starting stream..." ∈ statusTexts := by decide
    split
    · exact .of_status hstarting rfl rfl
    · exact .of_status hstarting rfl rfl

theorem quietly_toggleRecording (p : Page) : Quietly p p.toggleRecording := by
  unfold Page.toggleRecording
  split
  · unfold Page.stopRecording
    simp only
    split <;> exact .of_same rfl rfl
  · unfold Page.startRecording
    split
    · exact quietly_alert (Or.inl (by decide)) p
    · exact .of_same rfl rfl

theorem quietly_testTunnel (p : Page) (result : TunnelTest) : Quietly p (p.testTunnel result) := by
  cases result with
  | passed => exact quietly_alert (Or.inl (by decide)) p
  | failed message => exact quietly_alert (Or.inr (List.prefix_append _ _)) p
  | error message => exact quietly_alert (Or.inr (List.prefix_append _ _)) p

theorem quietly_actPanel {e : PanelEvent} (h : p.actPanel e = some p') : Quietly p p' := by
  cases e with
  | clickShowApi =>
    cases h
    exact .of_same rfl rfl
  | fetchedApi answer =>
    obtain ⟨-, h⟩ := Option.ite_none_right_eq_some.1 h
    cases h
    cases answer <;> exact .of_same rfl rfl
  | clickCopyApi =>
    obtain ⟨-, h⟩ := Option.ite_none_right_eq_some.1 h
    cases h
    exact .of_same rfl rfl
  | copied i written =>
    obtain ⟨text, -, rfl⟩ := Option.map_eq_some_iff.1 h
    cases written with
    | true =>
      have hnoticed : Noticed (lit "API info copied to clipboard!") := Or.inl (by decide)
      obtain ⟨houtput, halerts⟩ := quietly_alert hnoticed { p with copying := p.copying.eraseIdx i }
      exact ⟨houtput, halerts⟩
    | false => exact .of_same rfl rfl
  | clickTestTunnel =>
    cases h
    exact .of_same rfl rfl
  | tested result =>
    obtain ⟨-, h⟩ := Option.ite_none_right_eq_some.1 h
    cases h
    obtain ⟨houtput, halerts⟩ := quietly_testTunnel { p with testing := p.testing - 1 } result
    exact ⟨houtput, halerts⟩

theorem quietly_onclose (failed : Bool) (p : Page) :
    Quietly p (if failed then p.onerror else p).onclose := by
  have hclose : ∀ p : Page, Quietly p p.onclose := by
    intro p
    unfold Page.onclose
    split
    · exact quietly_stop p
    · exact .of_same rfl rfl
  cases failed with
  | true => exact (quietly_stop p).trans (hclose _)
  | false => exact hclose p

/-- What the user, the clock and the network do makes the page show texts of its own. -/
theorem quietly_act {e : PageEvent} (h : p.act e = some p') : Quietly p p' := by
  cases e with
  | clickStart =>
    cases h
    split
    · exact quietly_stop p
    · exact quietly_start p
  | clickRecord =>
    cases h
    exact quietly_toggleRecording p
  | choose camera resolution =>
    obtain ⟨-, h⟩ := Option.ite_none_right_eq_some.1 h
    cases h
    exact .of_same rfl rfl
  | fetched key =>
    obtain ⟨-, h⟩ := Option.ite_none_right_eq_some.1 h
    cases h
    exact .of_same rfl rfl
  | opened i =>
    obtain ⟨s, -, rfl⟩ := Option.map_eq_some_iff.1 h
    exact .of_same rfl rfl
  | closed i failed =>
    obtain ⟨s, -, rfl⟩ := Option.map_eq_some_iff.1 h
    obtain ⟨houtput, halerts⟩ := quietly_onclose failed { p with sockets := s }
    exact ⟨houtput, halerts⟩
  | timeout =>
    obtain ⟨-, h⟩ := Option.ite_none_right_eq_some.1 h
    cases h
    obtain ⟨houtput, halerts⟩ :=
      quietly_updateUI { p with sockets := p.sockets.close.forget, timers := p.timers - 1 } false
    exact ⟨houtput, halerts⟩
  | panel e => exact quietly_actPanel h

theorem displays_onmessage (p : Page) (data : Bytes) : Displays p (p.onmessage data) data := by
  have hreacts := reacts_onmessage p data
  generalize p.onmessage data = p' at hreacts ⊢
  cases hreacts with
  | authenticated known => exact .quietly (.of_same rfl rfl)
  | applied known =>
    have hstarted : lit "Stream started successfully" ∈ statusTexts := by decide
    exact .quietly (.of_status hstarted rfl rfl)
  | stopped known => exact .quietly (quietly_updateUI p false)
  | started known => exact .quietly (quietly_alert (Or.inl (by decide)) p)
  | ended known => exact .quietly (quietly_alert (Or.inl (by decide)) p)
  | failed known => exact .failure known rfl
  | shown unknown => exact .output unknown rfl rfl

end Handlers

/-! ## The screen -/

/-- What the page shows is its own, or has come in. -/
structure Screened (P : Platform) (api : Api) (v : Visit Page) : Prop where
  output : v.page.output ∈ statusTexts ∨
    ∃ data, Came P api v data ∧ cleanedMessage data ∉ keywords ∧ v.page.output = cleanedMessage data
  alerts : (∀ text ∈ v.page.alerts, Noticed text) ∨
    ∃ data, Came P api v data ∧ cleanedMessage data = lit "RECORDING_ERROR"

section Screens

variable {P : Platform} {api : Api} {printDouble : Rat → Bytes} {v v' : Visit Page}
  {e : VisitEvent P PageEvent}

theorem Screened.init (P : Platform) (api : Api) : Screened P api { page := {} } :=
  ⟨Or.inl List.mem_cons_self, Or.inl (fun _ h => by cases h)⟩

theorem Screened.same_output (h : Screened P api v)
    (hs : (visit P api (app printDouble)).step v e = some v')
    (hsame : v'.page.output = v.page.output) : v'.page.output ∈ statusTexts ∨
      ∃ data, Came P api v' data ∧ cleanedMessage data ∉ keywords ∧
        v'.page.output = cleanedMessage data := by
  rw [hsame]
  rcases h.output with hstatus | ⟨data, hcame, hshown⟩
  · exact Or.inl hstatus
  · exact Or.inr ⟨data, hcame.mono hs, hshown⟩

theorem Screened.new_alerts (h : Screened P api v)
    (hs : (visit P api (app printDouble)).step v e = some v')
    (hnew : ∀ text ∈ v'.page.alerts, text ∈ v.page.alerts ∨ Noticed text) :
    (∀ text ∈ v'.page.alerts, Noticed text) ∨
      ∃ data, Came P api v' data ∧ cleanedMessage data = lit "RECORDING_ERROR" := by
  rcases h.alerts with hnotices | ⟨data, hcame, herror⟩
  · refine Or.inl fun text htext => ?_
    rcases hnew text htext with hold | hnew
    · exact hnotices text hold
    · exact hnew
  · exact Or.inr ⟨data, hcame.mono hs, herror⟩

theorem Screened.quietly (h : Screened P api v)
    (hs : (visit P api (app printDouble)).step v e = some v') (hp : Quietly v.page v'.page) :
    Screened P api v' := by
  refine ⟨?_, h.new_alerts hs hp.alerts⟩
  rcases hp.output with hsame | hstatus
  · exact h.same_output hs hsame
  · exact Or.inl hstatus

/-- A message comes in. -/
theorem Screened.displays (h : Screened P api v)
    (hs : (visit P api (app printDouble)).step v e = some v') {data : Bytes}
    (hcame : Came P api v' data) (hp : Displays v.page v'.page data) : Screened P api v' := by
  cases hp with
  | quietly quietly => exact h.quietly hs quietly
  | output unknown output alerts =>
    refine ⟨Or.inr ⟨data, hcame, unknown, output⟩, h.new_alerts hs fun text htext => ?_⟩
    exact Or.inl (alerts ▸ htext)
  | failure error output => exact ⟨h.same_output hs output, Or.inr ⟨data, hcame, error⟩⟩

theorem Screened.step (h : Screened P api v)
    (hs : (visit P api (app printDouble)).step v e = some v') : Screened P api v' := by
  have hstep := visitStep_of_step hs
  cases hstep with
  | page d p act => exact h.quietly hs (quietly_act act)
  | shows k l m p line written receive =>
    have hcame : Came P api v m.bytes :=
      .written l (List.mem_of_getElem? line) m (List.mem_of_getElem? written)
    refine h.displays hs (hcame.mono hs) ?_
    rw [receive_eq receive]
    exact displays_onmessage v.page m.bytes
  | refuses k l p line rejected receive =>
    obtain ⟨text, htext, hrejects⟩ := rejected
    have hcame : Came P api v authFailed := .refused l (List.mem_of_getElem? line) text htext hrejects
    refine h.displays hs (hcame.mono hs) ?_
    rw [receive_eq receive]
    exact displays_onmessage v.page authFailed
  | _ => exact h.quietly hs (.of_same rfl rfl)

end Screens

/-! ## What comes in -/

section Incoming

variable {P : Platform} {api : Api} {printDouble : Rat → Bytes} {m : AppMessage}

/-- To a session that is no controller most messages of the page say nothing. -/
theorem decode_any (h : ReadsAs api (m.text printDouble) m.fields) (isController : Bool) :
    decode P api isController (m.text printDouble) = m.meaning ∨
      decode P api isController (m.text printDouble) = .ok .unknown := by
  cases isController with
  | true => exact Or.inl (decode_app h)
  | false =>
    cases m with
    | auth apiKey => exact Or.inl (decode_key h false)
    | config cameraIndex resolution =>
      obtain ⟨read, hparse, hfind⟩ := h
      exact Or.inr (decode_of_reads hparse hfind (lit "config") rfl)
    | stop =>
      obtain ⟨read, hparse, hfind⟩ := h
      exact Or.inr (decode_of_reads hparse hfind (lit "stop") rfl)
    | recordStart =>
      obtain ⟨read, hparse, hfind⟩ := h
      exact Or.inr (decode_of_reads hparse hfind (lit "record_start") rfl)
    | recordStop =>
      obtain ⟨read, hparse, hfind⟩ := h
      exact Or.inr (decode_of_reads hparse hfind (lit "record_stop") rfl)

/-- The page never presents a wrong key. -/
theorem not_rejects (h : ReadsAs api (m.text printDouble) m.fields) (hm : m.Sendable api.apiKey) :
    rejects P api (m.text printDouble) = false := by
  unfold rejects
  rcases decode_any (P := P) h false with hd | hd
  · rw [hd]
    cases m with
    | auth apiKey =>
      obtain rfl : apiKey = api.apiKey := hm
      have hsame : (api.apiKey != api.apiKey) = false := by simp
      exact hsame
    | config cameraIndex resolution => cases cameraIndex <;> rfl
    | _ => rfl
  · rw [hd]

/-- It never asks for a playback. -/
theorem not_playbackStart (h : ReadsAs api (m.text printDouble) m.fields) (isController : Bool)
    (filename : Bytes) :
    decode P api isController (m.text printDouble) ≠ .ok (.playbackStart filename) := by
  intro hstart
  rcases decode_any (P := P) h isController with hd | hd
  · rw [hstart] at hd
    cases m with
    | config cameraIndex resolution => cases cameraIndex <;> cases hd
    | _ => cases hd
  · rw [hstart] at hd
    cases hd

/-! ### Texts -/

theorem cleaned_success (m : AppMessage) :
    cleanedMessage m.success ∈ keywords ∧ cleanedMessage m.success ≠ lit "RECORDING_ERROR" := by
  have hmem : m.success ∈ keywords.take 5 := by cases m <;> simp [success, keywords]
  have hall : ∀ text ∈ keywords.take 5, cleanedMessage text ∈ keywords ∧
      cleanedMessage text ≠ lit "RECORDING_ERROR" := by decide +kernel
  exact hall _ hmem

theorem cleaned_error (err : Exn) : ∃ t, cleanedMessage (errorText err) = 69 :: t := by
  have hfilter : (errorText err).filter (· != 0) =
      69 :: (lit "RROR: " ++ err.what).filter (· != 0) := rfl
  unfold cleanedMessage
  rw [hfilter]
  exact trim_cons (by decide +kernel) _

/-- A picture has no other characters than the converter's and the ends of its rows. -/
theorem mem_of_pictured {width height : Int} {text : Bytes} (h : Pictured width height text) :
    ∀ c ∈ text, c ∈ streamChars ∨ c = newline := by
  obtain ⟨w, h, pixel, -, -, hdrawn⟩ := h
  intro c hc
  obtain ⟨i, hi⟩ := List.mem_iff_getElem?.1 hc
  have hlt : i < h * (w + 1) := hdrawn.length ▸ (List.getElem?_eq_some_iff.1 hi).1
  have hy : i / (w + 1) < h := Nat.div_lt_of_lt_mul (Nat.mul_comm _ _ ▸ hlt)
  have hsum : i / (w + 1) * (w + 1) + i % (w + 1) = i := Nat.div_add_mod' i (w + 1)
  have hx : i % (w + 1) < w ∨ i % (w + 1) = w := by
    have hmod : i % (w + 1) < w + 1 := Nat.mod_lt i (Nat.succ_pos w)
    omega
  rcases hx with hx | hx
  · obtain ⟨k, -, hcell⟩ := hdrawn.cells _ hy _ hx
    rw [hsum, hi] at hcell
    exact Or.inl (List.mem_of_getElem? hcell.symm)
  · have hend := hdrawn.newlines _ hy
    have hlast : i / (w + 1) * (w + 1) + w = i := by
      rw [hx] at hsum
      exact hsum
    rw [hlast, hi] at hend
    exact Or.inr (Option.some.inj hend)

theorem cleaned_picture {width height : Int} {text : Bytes} (h : Pictured width height text) :
    cleanedMessage text ≠ lit "RECORDING_ERROR" := by
  intro herror
  have hmem : (82 : UInt8) ∈ cleanedMessage text := by
    rw [herror]
    decide
  have htext := mem_of_pictured h 82 (List.mem_of_mem_filter (trim_subset _ hmem))
  exact absurd htext (by decide)

/-! ### Messages -/

/-- The message is the text of an exception, or a picture that the camera shows. -/
def Explained (m : Message) : Prop :=
  (∃ err, m = .reply (errorText err)) ∨
    ∃ width height frame, m = .live frame ∧ Pictured width height frame

theorem exists_of_forall₂ {α β : Type} {R : α → β → Prop} {as : List α} {bs : List β}
    (h : List.Forall₂ R as bs) {b : β} (hb : b ∈ bs) : ∃ a, R a b := by
  induction h with
  | nil => cases hb
  | cons hr _ ih =>
    rcases List.mem_cons.1 hb with rfl | hb
    · exact ⟨_, hr⟩
    · exact ih hb

variable {v : Visit Page} {last : Option PlaybackStart}

/-- **What comes in** is what the page waits for, or an error, or a picture. -/
theorem came_cases (h : Visiting P api printDouble v)
    (hreads : ∀ w ∈ v.page.sockets.made, ∀ m ∈ w.sent, ReadsAs api (m.text printDouble) m.fields)
    (htracked : Tracked P api v.server last) (haccounted : Accounted v.server)
    {sizes : List (Int × Int)} (hfilming : Filming sizes v.server) {data : Bytes}
    (hcame : Came P api v data) :
    (∃ m : AppMessage, data = m.success) ∨
      ∃ l ∈ v.lines, ∃ m ∈ (v.server.sessions l.session).written,
        data = m.bytes ∧ Explained m := by
  -- what the session of a line has received is what the page has sent
  have hsent : ∀ l ∈ v.lines, ∃ ms, Presents api printDouble ms ∧
      received v.server.trace l.session = ms.map (text printDouble) := by
    intro l hl
    obtain ⟨w, hsocket, hread, hreceived⟩ := h.wired.carries l hl
    exact ⟨_, (h.presents hreads hsocket).take l.read, hreceived⟩
  cases hcame with
  | refused l line text received rejected =>
    obtain ⟨ms, hpresents, hreceived⟩ := hsent l line
    rw [hreceived] at received
    obtain ⟨m, hm, rfl⟩ := List.mem_map.1 received
    rw [not_rejects (hpresents.reads m hm) (hpresents.sendable m hm)] at rejected
    cases rejected
  | written l line m written =>
    have hmem : m ∈ (v.server.sessions l.session).sent :=
      haccounted l.session m (List.mem_append_left _ written)
    cases m with
    | reply text =>
      obtain ⟨w, hsocket, hread, hreceived⟩ := h.wired.carries l line
      have htalk := h.conversing l.session
      rw [hreceived] at htalk
      obtain ⟨-, n, -, hanswers⟩ := (h.presents hreads hsocket).talk hread htalk
      have hreply : text ∈ (v.server.sessions l.session).replyTexts :=
        List.mem_filterMap.2 ⟨_, List.mem_append_left _ hmem, rfl⟩
      obtain ⟨m, hm⟩ := exists_of_forall₂ hanswers hreply
      rcases hm with hsuccess | ⟨-, err, herror⟩
      · exact Or.inl ⟨m, hsuccess⟩
      · exact Or.inr ⟨l, line, _, written, rfl, Or.inl ⟨err, congrArg _ herror⟩⟩
    | live frame =>
      have hframe : frame ∈ (v.server.sessions l.session).liveFrames :=
        List.mem_filterMap.2
          ⟨_, List.mem_append_left _ (List.mem_append_left _ written), rfl⟩
      obtain ⟨⟨width, height⟩, -, hpictured⟩ := hfilming.outgoing l.session frame hframe
      exact Or.inr ⟨l, line, _, written, rfl, Or.inr ⟨width, height, frame, rfl, hpictured⟩⟩
    | playback frame =>
      obtain ⟨filename, text, htext, isController, hstart⟩ :=
        htracked.handed l.session frame (List.mem_append_left _ hmem)
      obtain ⟨ms, hpresents, hreceived⟩ := hsent l line
      rw [hreceived] at htext
      obtain ⟨m, hm, rfl⟩ := List.mem_map.1 htext
      exact absurd hstart (not_playbackStart (hpresents.reads m hm) isController filename)

end Incoming

/-! ## Every run -/

section Showing

variable {P : Platform}

/-- **What the page shows.** In every run of a page that has been given the right key, with the server
and all its other clients, whose capture loops film what the camera shows: the text on the page is one
of its own, or it was written to a connection of the page and is the text of an exception or a complete
picture of the camera, but for the white space around it; and what its user is told are the notices of
the page and the failures of a tunnel test, never that of a recording. -/
theorem page_shows (P : Platform) (api : Api) (printDouble : Rat → Bytes) {Mat : Type}
    (cv : OpenCV Mat) (hcv : Resizes cv) (es : List (VisitEvent P PageEvent)) (v : Visit Page)
    (hrun : (visit P api (app printDouble)).run { page := {} } es = some v)
    (hkey : (visit P api (app printDouble)).AllSteps (Fetches api) { page := {} } es)
    (hshoots : (visit P api (app printDouble)).AllSteps (Shoots cv) { page := {} } es)
    (hreads : ∀ w ∈ v.page.sockets.made, ∀ m ∈ w.sent,
      ReadsAs api (m.text printDouble) m.fields) :
    (v.page.output ∈ statusTexts ∨
      ∃ l ∈ v.lines, ∃ m ∈ (v.server.sessions l.session).written,
        v.page.output = cleanedMessage m.bytes ∧ Explained m) ∧
      (∀ text ∈ v.page.alerts, text ∈ notices ∨ lit "Tunnel test failed: " <+: text) ∧
      lit "Recording error occurred" ∉ v.page.alerts := by
  have hvisiting : Visiting P api printDouble v :=
    hkey.invariant (fun hi hC hs => hi.step hC hs) (.init P api printDouble) hrun
  obtain ⟨sizes, hfilming⟩ := filming_of_shoots hcv hshoots hrun
  have hhosted : Hosted P api (app printDouble) v :=
    Machine.run_invariant (fun hi hs => hi.step hs) es .init hrun
  obtain ⟨last, htracked⟩ := hhosted.tracked
  obtain ⟨houtput, halerts⟩ : Screened P api v :=
    Machine.run_invariant (fun hi hs => hi.step hs) es (Screened.init P api) hrun
  have hnoticed : ∀ text ∈ v.page.alerts, Noticed text := by
    rcases halerts with hnoticed | ⟨data, hcame, herror⟩
    · exact hnoticed
    · exfalso
      rcases came_cases hvisiting hreads htracked hhosted.accounted hfilming hcame with
        ⟨m, rfl⟩ | ⟨l, hl, m, hm, rfl, ⟨err, rfl⟩ | ⟨width, height, frame, rfl, hpictured⟩⟩
      · exact (cleaned_success m).2 herror
      · obtain ⟨t, ht⟩ := cleaned_error err
        cases ht.symm.trans herror
      · exact cleaned_picture hpictured herror
  refine ⟨?_, hnoticed, fun herror => not_noticed_error (hnoticed _ herror)⟩
  rcases houtput with hstatus | ⟨data, hcame, hunknown, hshown⟩
  · exact Or.inl hstatus
  · rcases came_cases hvisiting hreads htracked hhosted.accounted hfilming hcame with
      ⟨m, rfl⟩ | ⟨l, hl, m, hm, rfl, hexplained⟩
    · exact absurd (cleaned_success m).1 hunknown
    · exact Or.inr ⟨l, hl, m, hm, hshown, hexplained⟩

end Showing

/-! ### Another controller -/

/-- The page has no camera to choose from, and its stream fails; it then shows the one of another
controller, while its user tests the tunnel. -/
def otherCamera : List (VisitEvent x86_64 PageEvent) :=
  [.page (.choose none (lit "120x90")), .page .clickStart, .page (.fetched (lit "key")), .connects 0,
    .server (.session 1 (.accepted true) ⟨noon, 0, true⟩), .page (.opened 0),
    .reads 0 false ⟨noon, 0, true⟩, .server .runAddViewer] ++ writesOne ++
    [.reads 0 false ⟨noon, 0, true⟩] ++ writesOne ++
    (joins 2 ++ [tells 2 "controller", .runAddViewer, tells 2 "small", .segment 0 .working none,
      .loop 0 .empty, .loop 0 (.frame smallFrame 0), .loop 0 .empty]).map .server ++ writesOne ++
    [.page (.panel .clickTestTunnel), .page (.panel (.tested (.failed (lit "no answer"))))]

theorem page_shows_otherCamera : ∃ v,
    (visit x86_64 (pageApi none smallApi.parse) (app noFraction)).run { page := {} } otherCamera =
        some v ∧
      v.page.sockets.made.map Socket.sent = [greeting none] ∧ v.page.output = lit "@+\n:" ∧
      v.page.alerts = [lit "Tunnel test failed: no answer"] ∧
      (v.page.output ∈ statusTexts ∨
        ∃ l ∈ v.lines, ∃ m ∈ (v.server.sessions l.session).written,
          v.page.output = cleanedMessage m.bytes ∧ Explained m) ∧
      (∀ text ∈ v.page.alerts, text ∈ notices ∨ lit "Tunnel test failed: " <+: text) ∧
      lit "Recording error occurred" ∉ v.page.alerts := by
  have hfacts : (((visit x86_64 (pageApi none smallApi.parse) (app noFraction)).restrict
      fun v e => VisitShowsPixels v e = true).run { page := {} } otherCamera).any
      (fun v => v.page.sockets.made.map Socket.sent == [greeting none] &&
        v.page.output == lit "@+\n:" &&
        v.page.alerts == [lit "Tunnel test failed: no answer"]) = true := by
    decide +kernel
  obtain ⟨v, hs, hfacts⟩ := (Option.any_eq_true _ _).1 hfacts
  obtain ⟨hshows, hrun⟩ := Machine.run_restrict.1 hs
  simp only [Bool.and_eq_true, beq_iff_eq] at hfacts
  obtain ⟨⟨hsent, houtput⟩, halerts⟩ := hfacts
  have hkey : (visit x86_64 (pageApi none smallApi.parse) (app noFraction)).AllSteps
      (Fetches (pageApi none smallApi.parse)) { page := {} } otherCamera := by
    simp only [otherCamera, writesOne, joins, tells, List.cons_append, List.nil_append, List.map,
      Machine.AllSteps, Fetches, pageApi, implies_true, and_self]
  have hreads : ∀ w ∈ v.page.sockets.made, ∀ m ∈ w.sent,
      ReadsAs (pageApi none smallApi.parse) (m.text noFraction) m.fields := by
    refine forall_sent hsent fun sent hmem m hm => reads_pageApi ?_
    rwa [List.mem_singleton.1 hmem] at hm
  exact ⟨v, hrun, hsent, houtput, halerts, page_shows x86_64 (pageApi none smallApi.parse) noFraction
    sizedPictures resizes_sizedPictures otherCamera v hrun hkey
    (hshows.mono shoots_of_showsPixels) hreads⟩

end AsciiStreamer
