import AsciiStreamer.Lib.Machine
import AsciiStreamer.Stream.StreamController

/-!
# The stream controller with its coroutines

`StreamSystem` is the controller together with everything that is suspended in it: methods called
by message handlers and by destructors, capture loops, and posted `add_viewer` handlers.
`streaming` runs their segments in any order. `Effect` says once what a segment of a method can do
to the stream, `LoopEffect` what a segment of a capture loop can do; the invariants of the stream
are case analyses on them.
-/

namespace AsciiStreamer

open Cxx

/-- On whose behalf a method has been called. -/
inductive Caller
  | handler (id : SessionId)
  | destructor (id : SessionId)
  deriving DecidableEq, Repr

structure Task where
  caller : Caller
  pc : Pc
  deriving DecidableEq, Repr

/-- The method after a segment, if it has not returned. -/
def Task.after (t : Task) : Pc ⊕ Except Exn Unit → Option Task
  | .inl pc => some { t with pc := pc }
  | .inr _ => none

/-- `adding` are the posted `add_viewer` handlers, `cleanups` how many capture loops were live at
each `cleanup`, `added` whose `add_viewer` has run. -/
structure StreamSystem where
  controller : StreamController := {}
  tasks : List Task := []
  loops : List LoopPc := []
  adding : List SessionId := []
  added : List SessionId := []
  cleanups : List Nat := []

inductive StreamEvent (P : Platform)
  | invoke (caller : Caller) (call : Call)
  | segment (i : Nat) (env : Env)
  | loop (i : Nat) (capture : Capture P) (alive : SessionId → Bool)
  | addViewer (viewer : SessionId)
  | runAddViewer
  | startRecording (local_ : Tm) (now : Instant) (fileOpens : Bool)
  | stopRecording (now : Instant)
  | playbackExpire
  | playbackHandler (k : Nat)

namespace StreamSystem

variable (P : Platform)

def invoke (s : StreamSystem) (caller : Caller) (call : Call) : StreamSystem :=
  { s with tasks := s.tasks ++ [⟨caller, .dispatch call⟩] }

/-- The next segment of the `i`-th method. -/
def segment (s : StreamSystem) (i : Nat) (env : Env) : Option (StreamSystem × Task × Segment) :=
  (s.tasks[i]?).map fun t =>
    let g := t.pc.run P s.controller env
    ({ s with
      controller := g.self
      tasks := proceed s.tasks i (t.after g.next)
      loops := if g.spawned then s.loops ++ [.spawned] else s.loops
      cleanups := if g.cleaned then s.cleanups ++ [s.loops.length] else s.cleanups }, t, g)

/-- The next segment of the `i`-th capture loop. -/
def loop (s : StreamSystem) (i : Nat) (capture : Capture P) (alive : SessionId → Bool) :
    Option (StreamSystem × List (SessionId × Message)) :=
  match s.loops[i]? with
  | none => none
  | some pc => (s.controller.captureLoop P capture alive pc).map fun (c, next, sends) =>
    ({ s with controller := c, loops := proceed s.loops i next }, sends)

def addViewer (s : StreamSystem) (viewer : SessionId) : StreamSystem :=
  { s with adding := s.adding ++ [viewer] }

/-- The first posted `add_viewer` handler. -/
def runAddViewer (s : StreamSystem) : Option StreamSystem :=
  match s.adding with
  | [] => none
  | v :: vs => some { s with
      controller := s.controller.addViewer v
      adding := vs
      added := s.added ++ [v] }

def startRecording (s : StreamSystem) (t : Tm) (now : Instant) (fileOpens : Bool) : StreamSystem :=
  { s with controller := s.controller.startRecording t now fileOpens }

def stopRecording (s : StreamSystem) (now : Instant) : StreamSystem :=
  { s with controller := s.controller.stopRecording now }

def playbackExpire (s : StreamSystem) : Option StreamSystem :=
  let p := s.controller.playbackController
  if p.playbackTimer.pending.isSome then
    some { s with controller := { s.controller with playbackController :=
      { p with playbackTimer := p.playbackTimer.expire } } }
  else none

/-- The `k`-th queued handler of the playback timer. An exception ends the process. -/
def playbackHandler (s : StreamSystem) (k : Nat) :
    Option (StreamSystem × List (SessionId × Message)) :=
  match s.controller.playbackController.playbackTimer.queued[k]? with
  | none => none
  | some c =>
    match (s.controller.playbackController.handler P k c).exn with
    | some _ => none
    | none =>
      let g := s.controller.played (s.controller.playbackController.handler P k c)
      some ({ s with controller := g.self }, g.sends)

end StreamSystem

def streaming (P : Platform) : Machine StreamSystem (StreamEvent P) where
  step s
    | .invoke caller call => some (s.invoke caller call)
    | .segment i env => (s.segment P i env).map (·.1)
    | .loop i capture alive => (s.loop P i capture alive).map (·.1)
    | .addViewer viewer => some (s.addViewer viewer)
    | .runAddViewer => s.runAddViewer
    | .startRecording t now fileOpens => some (s.startRecording t now fileOpens)
    | .stopRecording now => some (s.stopRecording now)
    | .playbackExpire => s.playbackExpire
    | .playbackHandler k => (s.playbackHandler P k).map (·.1)

/-! ## What an event leaves of the system -/

section Events

variable {P : Platform} {s s' : StreamSystem}

theorem segment_eq {i : Nat} {env : Env} {t : Task} {g : Segment}
    (h : s.segment P i env = some (s', t, g)) :
    s.tasks[i]? = some t ∧ g = t.pc.run P s.controller env ∧
      s' = { s with
        controller := g.self
        tasks := proceed s.tasks i (t.after g.next)
        loops := if g.spawned then s.loops ++ [.spawned] else s.loops
        cleanups := if g.cleaned then s.cleanups ++ [s.loops.length] else s.cleanups } := by
  obtain ⟨t', ht, heq⟩ := Option.map_eq_some_iff.1 h
  cases heq
  exact ⟨ht, rfl, rfl⟩

theorem loop_eq {i : Nat} {capture : Capture P} {alive : SessionId → Bool}
    {sends : List (SessionId × Message)} (h : s.loop P i capture alive = some (s', sends)) :
    ∃ pc c next, s.loops[i]? = some pc ∧
      s.controller.captureLoop P capture alive pc = some (c, next, sends) ∧
        s' = { s with controller := c, loops := proceed s.loops i next } := by
  unfold StreamSystem.loop at h
  split at h
  · cases h
  · next pc hpc =>
    obtain ⟨⟨c, next, sends'⟩, hc, heq⟩ := Option.map_eq_some_iff.1 h
    cases heq
    exact ⟨pc, c, next, hpc, hc, rfl⟩

theorem runAddViewer_eq (h : s.runAddViewer = some s') : ∃ v vs, s.adding = v :: vs ∧
    s' = { s with
      controller := s.controller.addViewer v
      adding := vs
      added := s.added ++ [v] } := by
  unfold StreamSystem.runAddViewer at h
  split at h
  · cases h
  · next v vs hv =>
    cases h
    exact ⟨v, vs, hv, rfl⟩

theorem playbackExpire_timer (h : s.playbackExpire = some s') : s' = { s with
    controller := { s.controller with playbackController := { s.controller.playbackController with
      playbackTimer := s.controller.playbackController.playbackTimer.expire } } } := by
  obtain ⟨-, h⟩ := Option.ite_none_right_eq_some.1 h
  cases h
  rfl

theorem playbackExpire_eq (h : s.playbackExpire = some s') :
    ∃ p, s' = { s with controller := { s.controller with playbackController := p } } :=
  ⟨_, playbackExpire_timer h⟩

/-- The handler that runs, which has not thrown. -/
theorem playbackHandler_reads {k : Nat} {sends : List (SessionId × Message)}
    (h : s.playbackHandler P k = some (s', sends)) :
    ∃ c, s.controller.playbackController.playbackTimer.queued[k]? = some c ∧
      s' = { s with controller := (s.controller.played
        (s.controller.playbackController.handler P k c)).self } ∧
      sends = (s.controller.played (s.controller.playbackController.handler P k c)).sends := by
  unfold StreamSystem.playbackHandler at h
  split at h
  · cases h
  · next c hc =>
    split at h
    · cases h
    · cases h
      exact ⟨c, hc, rfl, rfl⟩

theorem playbackHandler_eq {k : Nat} {sends : List (SessionId × Message)}
    (h : s.playbackHandler P k = some (s', sends)) :
    ∃ o, s' = { s with controller := (s.controller.played o).self } ∧
      sends = (s.controller.played o).sends := by
  obtain ⟨c, -, hs, hsends⟩ := playbackHandler_reads h
  exact ⟨_, hs, hsends⟩

end Events

/-! ## What a segment can do to the stream -/

/-- The stream of `c'` is that of `c`. -/
structure SameStream (c c' : StreamController) : Prop where
  isStreaming : c'.isStreaming = c.isStreaming
  stopRequested : c'.stopRequested = c.stopRequested
  videoSource : c'.videoSource = c.videoSource
  frameWidth : c'.frameWidth = c.frameWidth
  frameHeight : c'.frameHeight = c.frameHeight
  fps : c'.fps = c.fps

/-- `start_streaming` will get a stream going: there is none, the resolution parses, and the camera
and the converter accept. -/
structure Begins (c : StreamController) (resolution : Bytes) (env : CameraEnv) : Prop where
  idle : c.isStreaming = false
  width : ∃ w, stoi (StreamController.widthText resolution) = .ok w
  height : ∃ h, stoi (StreamController.heightText resolution) = .ok h
  opens : env.opens = true
  setResolution : env.setResolution = .ok ()
  setAsciiChars : env.setAsciiChars = .ok ()

/-- The camera once it has been opened, with the resolution asked for. -/
def VideoSource.opened (v : VideoSource) (cameraIndex width height : Int) : VideoSource :=
  { v.open' cameraIndex true |>.1 with width := width * 2, height := height * 2 }

/-- How far the `try` block of `start_streaming` comes, and what it has assigned by then. -/
inductive Opening (c : StreamController) (cameraIndex : Int) (resolution : Bytes) (fps : Int)
    (env : CameraEnv) : StreamController → Except Exn Unit → Prop
  | width (e : Exn) (width : stoi (StreamController.widthText resolution) = .error e) :
    Opening c cameraIndex resolution fps env c (.error e)
  | height (w : Int) (e : Exn) (width : stoi (StreamController.widthText resolution) = .ok w)
      (height : stoi (StreamController.heightText resolution) = .error e) :
    Opening c cameraIndex resolution fps env { c with frameWidth := w } (.error e)
  | camera (w h : Int) (width : stoi (StreamController.widthText resolution) = .ok w)
      (height : stoi (StreamController.heightText resolution) = .ok h) (opens : env.opens = false) :
    Opening c cameraIndex resolution fps env
      { c with
        frameWidth := w
        frameHeight := h
        fps := fps
        videoSource := (c.videoSource.open' cameraIndex false).1 }
      (.error (.runtimeError (lit "Could not open video source")))
  | throws (w h : Int) (e : Exn) (width : stoi (StreamController.widthText resolution) = .ok w)
      (height : stoi (StreamController.heightText resolution) = .ok h) (opens : env.opens = true)
      (throws : env.setResolution ≠ .ok () ∨ env.setAsciiChars ≠ .ok ()) :
    Opening c cameraIndex resolution fps env
      { c with
        frameWidth := w
        frameHeight := h
        fps := fps
        videoSource := c.videoSource.opened cameraIndex w h }
      (.error e)
  | started (w h : Int) (width : stoi (StreamController.widthText resolution) = .ok w)
      (height : stoi (StreamController.heightText resolution) = .ok h) (opens : env.opens = true)
      (setResolution : env.setResolution = .ok ()) (setAsciiChars : env.setAsciiChars = .ok ()) :
    Opening c cameraIndex resolution fps env
      { c with
        frameWidth := w
        frameHeight := h
        fps := fps
        videoSource := c.videoSource.opened cameraIndex w h
        asciiChars := lit "@%#*+=-:. "
        isStreaming := true
        stopRequested := false }
      (.ok ())

/-- What one segment of a method does. -/
inductive Effect (c : StreamController) (pc : Pc) (env : Env) (g : Segment) : Prop
  | started (cameraIndex : Int) (resolution : Bytes) (fps : Int)
      (call : pc = .dispatch (.startStreaming cameraIndex resolution fps))
      (begins : Begins c resolution env.camera) (spawned : g.spawned = true)
      (cleaned : g.cleaned = false) (isStreaming : g.self.isStreaming = true)
      (stopRequested : g.self.stopRequested = false)
      (opened : g.self.videoSource.capOpened = true) (next : g.next = .inr (.ok ()))
  /-- `start_streaming` threw. -/
  | failed (cameraIndex : Int) (resolution : Bytes) (fps : Int)
      (call : pc = .dispatch (.startStreaming cameraIndex resolution fps))
      (begins : ¬Begins c resolution env.camera) (idle : c.isStreaming = false)
      (spawned : g.spawned = false)
      (cleaned : g.cleaned = false) (isStreaming : g.self.isStreaming = false)
      (stopRequested : g.self.stopRequested = c.stopRequested) (next : ∃ e, g.next = .inr (.error e))
  | stopping (call : pc = .dispatch .stopStreaming) (streaming : c.isStreaming = true)
      (self : g.self = { c with stopRequested := true }) (spawned : g.spawned = false)
      (cleaned : g.cleaned = false) (next : g.next = .inl .polling)
  | waiting (call : pc = .polling) (streaming : c.isStreaming = true) (self : g.self = c)
      (spawned : g.spawned = false) (cleaned : g.cleaned = false) (next : g.next = .inl .polling)
  | cleaned (call : pc = .polling) (idle : c.isStreaming = false) (self : g.self = c.cleanup)
      (spawned : g.spawned = false) (cleaned : g.cleaned = true) (next : g.next = .inr (.ok ()))
  | quiet (other : pc ≠ .polling) (same : SameStream c g.self) (spawned : g.spawned = false)
      (cleaned : g.cleaned = false) (next : g.next ≠ .inl .polling)
      (begins : ∀ cameraIndex resolution fps,
        pc = .dispatch (.startStreaming cameraIndex resolution fps) → c.isStreaming = true)

/-- What `start_streaming` leaves alone. -/
structure SameRest (c c' : StreamController) : Prop where
  viewers : c'.viewers = c.viewers
  recorder : c'.recorder = c.recorder
  playbackController : c'.playbackController = c.playbackController
  playbackSession : c'.playbackSession = c.playbackSession

/-- The playback of `c'` is that of `c`. -/
structure KeepsPlayback (c c' : StreamController) : Prop where
  controller : c'.playbackController = c.playbackController
  session : c'.playbackSession = c.playbackSession

section Effects

variable {P : Platform} {c : StreamController}

/-- The stream is apart from the viewers, the recorder and the playback. -/
theorem SameStream.of_update (c : StreamController) (viewers : List SessionId)
    (recorder : Recorder) (p : PlaybackController) (session : Option SessionId) :
    SameStream c { c with
      viewers := viewers
      recorder := recorder
      playbackController := p
      playbackSession := session } := ⟨rfl, rfl, rfl, rfl, rfl, rfl⟩

theorem SameStream.refl (c : StreamController) : SameStream c c := .of_update c _ _ _ _

theorem SameStream.trans {c c' c'' : StreamController} (h : SameStream c c')
    (h' : SameStream c' c'') : SameStream c c'' :=
  ⟨h'.isStreaming.trans h.isStreaming, h'.stopRequested.trans h.stopRequested,
    h'.videoSource.trans h.videoSource, h'.frameWidth.trans h.frameWidth,
    h'.frameHeight.trans h.frameHeight, h'.fps.trans h.fps⟩

/-- And they are apart from the stream. -/
theorem SameRest.of_update (c : StreamController) (v : VideoSource) (asciiChars : Bytes)
    (width height fps : Int) (isStreaming stopRequested : Bool) :
    SameRest c { c with
      videoSource := v
      asciiChars := asciiChars
      frameWidth := width
      frameHeight := height
      fps := fps
      isStreaming := isStreaming
      stopRequested := stopRequested } := ⟨rfl, rfl, rfl, rfl⟩

/-- **What the `try` block of `start_streaming` can do.** -/
theorem openStream_opening (c : StreamController) (cameraIndex : Int) (resolution : Bytes)
    (fps : Int) (env : CameraEnv) : Opening c cameraIndex resolution fps env
      (c.openStream cameraIndex resolution fps env).1
      (c.openStream cameraIndex resolution fps env).2 := by
  unfold StreamController.openStream
  cases hw : stoi (StreamController.widthText resolution) with
  | error e => exact .width e hw
  | ok w =>
    cases hh : stoi (StreamController.heightText resolution) with
    | error e => exact .height w e hw hh
    | ok h =>
      cases ho : env.opens with
      | false => exact .camera w h hw hh ho
      | true =>
        cases hr : env.setResolution with
        | error e => exact .throws w h e hw hh ho (Or.inl (by rw [hr]; exact nofun))
        | ok u =>
          cases ha : env.setAsciiChars with
          | error e => exact .throws w h e hw hh ho (Or.inr (by rw [ha]; exact nofun))
          | ok u => exact .started w h hw hh ho hr ha

/-- Everything works, or something throws and neither flag has been touched. -/
theorem openStream_cases (c : StreamController) (cameraIndex : Int) (resolution : Bytes)
    (fps : Int) (env : CameraEnv) (hidle : c.isStreaming = false) :
    (Begins c resolution env ∧ ∃ c', c.openStream cameraIndex resolution fps env = (c', .ok ()) ∧
        c'.isStreaming = true ∧ c'.stopRequested = false ∧ c'.videoSource.capOpened = true ∧
        SameRest c c') ∨
      (¬Begins c resolution env ∧ ∃ c' e,
        c.openStream cameraIndex resolution fps env = (c', .error e) ∧
        c'.stopRequested = c.stopRequested ∧ SameRest c c') := by
  have hopening := openStream_opening c cameraIndex resolution fps env
  generalize c.openStream cameraIndex resolution fps env = x at hopening ⊢
  obtain ⟨c', r⟩ := x
  cases hopening with
  | width e width =>
    refine Or.inr ⟨fun hb => ?_, _, e, rfl, rfl, .of_update _ _ _ _ _ _ _ _⟩
    obtain ⟨w, hw⟩ := hb.width
    cases hw.symm.trans width
  | height w e width height =>
    refine Or.inr ⟨fun hb => ?_, _, e, rfl, rfl, .of_update c _ _ _ _ _ _ _⟩
    obtain ⟨h, hh⟩ := hb.height
    cases hh.symm.trans height
  | camera w h width height opens =>
    refine Or.inr ⟨fun hb => ?_, _, _, rfl, rfl, .of_update c _ _ _ _ _ _ _⟩
    cases hb.opens.symm.trans opens
  | throws w h e width height opens throws =>
    refine Or.inr ⟨fun hb => ?_, _, e, rfl, rfl, .of_update c _ _ _ _ _ _ _⟩
    rcases throws with hr | ha
    · exact hr hb.setResolution
    · exact ha hb.setAsciiChars
  | started w h width height opens setResolution setAsciiChars =>
    exact Or.inl ⟨⟨hidle, ⟨w, width⟩, ⟨h, height⟩, opens, setResolution, setAsciiChars⟩, _, rfl, rfl,
      rfl, rfl, .of_update c _ _ _ _ _ _ _⟩

theorem SameRest.refl (c : StreamController) : SameRest c c := ⟨rfl, rfl, rfl, rfl⟩

theorem SameRest.playback {c c' : StreamController} (h : SameRest c c') : KeepsPlayback c c' :=
  ⟨h.playbackController, h.playbackSession⟩

theorem startStreaming_rest (c : StreamController) (cameraIndex : Int) (resolution : Bytes)
    (fps : Int) (env : CameraEnv) :
    SameRest c (c.startStreaming cameraIndex resolution fps env).self := by
  unfold StreamController.startStreaming
  cases hs : c.isStreaming with
  | true => exact .refl c
  | false =>
    rcases openStream_cases c cameraIndex resolution fps env hs with
      ⟨-, c', hopen, -, -, -, hrest⟩ | ⟨-, c', e, hopen, -, hrest⟩
    · simp only [hopen, Bool.false_eq_true, ↓reduceIte]
      exact hrest
    · simp only [hopen, Bool.false_eq_true, ↓reduceIte]
      exact ⟨hrest.viewers, hrest.recorder, hrest.playbackController, hrest.playbackSession⟩

/-- The stop does not clean up in its first segment. -/
theorem stopStreaming_rest (c : StreamController) : SameRest c c.stopStreaming.self := by
  unfold StreamController.stopStreaming StreamController.poll
  cases hs : c.isStreaming with
  | true => exact ⟨rfl, rfl, rfl, rfl⟩
  | false => exact .refl c

/-- Streaming sends nothing but what the capture loop broadcasts. -/
theorem startStreaming_sends (c : StreamController) (cameraIndex : Int) (resolution : Bytes)
    (fps : Int) (env : CameraEnv) : (c.startStreaming cameraIndex resolution fps env).sends = [] := by
  unfold StreamController.startStreaming
  split
  · rfl
  · split <;> rfl

theorem poll_sends (c : StreamController) : c.poll.sends = [] := by
  unfold StreamController.poll
  split <;> rfl

theorem stopStreaming_sends (c : StreamController) : c.stopStreaming.sends = [] := by
  unfold StreamController.stopStreaming
  split
  · rfl
  · exact poll_sends _

theorem played_next (c : StreamController) (o : Outcome) : ∃ r, (c.played o).next = .inr r := by
  unfold StreamController.played
  cases o.exn with
  | none => exact ⟨_, rfl⟩
  | some e => exact ⟨_, rfl⟩

/-- A segment that returns without touching the stream. -/
theorem Effect.of_same {pc : Pc} {env : Env} {g : Segment} (hpc : pc ≠ .polling)
    (hstart : ∀ cameraIndex resolution fps,
      pc ≠ .dispatch (.startStreaming cameraIndex resolution fps))
    (hsame : SameStream c g.self) (hs : g.spawned = false) (hc : g.cleaned = false)
    (hnext : g.next ≠ .inl .polling) : Effect c pc env g :=
  .quiet hpc hsame hs hc hnext fun i r f h => absurd h (hstart i r f)

theorem played_effect {pc : Pc} {env : Env} (hpc : pc ≠ .polling)
    (hstart : ∀ cameraIndex resolution fps,
      pc ≠ .dispatch (.startStreaming cameraIndex resolution fps))
    {c' : StreamController} (hsame : SameStream c c') (o : Outcome) :
    Effect c pc env (c'.played o) := by
  obtain ⟨r, hr⟩ := played_next c' o
  have hnext : (c'.played o).next ≠ .inl .polling := by
    rw [hr]
    exact nofun
  exact .of_same hpc hstart ⟨hsame.1, hsame.2, hsame.3, hsame.4, hsame.5, hsame.6⟩ rfl rfl hnext

/-- **What a segment of a method can do.** -/
theorem Pc.run_effect (P : Platform) (c : StreamController) (env : Env) (pc : Pc) :
    Effect c pc env (pc.run P c env) := by
  cases pc with
  | dispatch call =>
    cases call with
    | startStreaming cameraIndex resolution fps =>
      simp only [Pc.run, StreamController.startStreaming]
      cases hs : c.isStreaming with
      | true => exact .quiet nofun (.refl c) rfl rfl nofun fun _ _ _ _ => hs
      | false =>
        rcases openStream_cases c cameraIndex resolution fps env.camera hs with
          ⟨hb, c', hopen, hon, hstop, hcap, -⟩ | ⟨hb, c', e, hopen, hstop, -⟩
        · simp only [hopen, Bool.false_eq_true, ↓reduceIte]
          exact .started cameraIndex resolution fps rfl hb rfl rfl hon hstop hcap rfl
        · simp only [hopen, Bool.false_eq_true, ↓reduceIte]
          exact .failed cameraIndex resolution fps rfl hb hs rfl rfl rfl hstop ⟨e, rfl⟩
    | stopStreaming =>
      simp only [Pc.run, StreamController.stopStreaming, StreamController.poll]
      cases hs : c.isStreaming with
      | false => exact .of_same nofun nofun (.refl c) rfl rfl nofun
      | true =>
        simp only [Bool.not_true, Bool.false_eq_true, ↓reduceIte]
        exact .stopping rfl hs (by rw [hs]) rfl rfl rfl
    | removeViewerById id => exact .of_same nofun nofun (.of_update c _ _ _ _) rfl rfl nofun
    | startPlayback filename session => exact .of_same nofun nofun (.refl c) rfl rfl nofun
    | pausePlayback => exact .of_same nofun nofun (.of_update c _ _ _ _) rfl rfl nofun
    | resumePlayback =>
      refine played_effect ?_ ?_ (.refl c) _
      · exact nofun
      · exact nofun
    | stopPlayback => exact .of_same nofun nofun (.of_update c _ _ _ _) rfl rfl nofun
    | setPlaybackSpeed speed => exact .of_same nofun nofun (.of_update c _ _ _ _) rfl rfl nofun
  | polling =>
    simp only [Pc.run, StreamController.poll]
    cases hs : c.isStreaming with
    | true => exact .waiting rfl hs rfl rfl rfl rfl
    | false => exact .cleaned rfl hs rfl rfl rfl rfl
  | stoppingPlayback filename session =>
    simp only [Pc.run, StreamController.startPlayback]
    split
    · exact .of_same nofun nofun (.of_update c _ _ _ _) rfl rfl nofun
    · exact .of_same nofun nofun (.of_update c _ _ _ _) rfl rfl nofun
    · refine played_effect ?_ ?_ (.of_update c _ _ _ _) _
      · exact nofun
      · exact nofun

/-- What one segment of a capture loop does: it goes on, or it ends the stream. -/
inductive LoopEffect (c c' : StreamController) (next : Option LoopPc) : Prop
  | goesOn (pc : LoopPc) (next : next = some pc) (same : SameStream c c')
  | ends (next : next = none) (isStreaming : c'.isStreaming = false)
      (stopRequested : c'.stopRequested = c.stopRequested)
      (videoSource : c'.videoSource = c.videoSource)

theorem loopTest_effect {c c₀ c' : StreamController} {next : Option LoopPc}
    (h : c₀.loopTest = some (c', next)) (hs : SameStream c c₀) : LoopEffect c c' next := by
  unfold StreamController.loopTest at h
  split at h
  · split at h
    · cases h
    · simp only [Option.some.injEq, Prod.mk.injEq] at h
      obtain ⟨rfl, rfl⟩ := h
      exact .goesOn .sleeping rfl hs
  · simp only [Option.some.injEq, Prod.mk.injEq] at h
    obtain ⟨rfl, rfl⟩ := h
    exact .ends rfl rfl hs.stopRequested hs.videoSource

/-- **What a segment of a capture loop can do.** -/
theorem captureLoop_effect {capture : Capture P} {alive : SessionId → Bool} {pc : LoopPc}
    {c' : StreamController} {next : Option LoopPc} {sends : List (SessionId × Message)}
    (h : c.captureLoop P capture alive pc = some (c', next, sends)) : LoopEffect c c' next := by
  cases pc with
  | spawned =>
    obtain ⟨⟨c₁, n₁⟩, htest, heq⟩ := Option.map_eq_some_iff.1 h
    simp only [Prod.mk.injEq] at heq
    obtain ⟨rfl, rfl, -⟩ := heq
    exact loopTest_effect htest (.refl c)
  | sleeping =>
    cases capture with
    | throws e =>
      simp only [StreamController.captureLoop, Option.some.injEq, Prod.mk.injEq] at h
      obtain ⟨rfl, rfl, -⟩ := h
      exact .ends rfl rfl rfl rfl
    | empty =>
      obtain ⟨⟨c₁, n₁⟩, htest, heq⟩ := Option.map_eq_some_iff.1 h
      simp only [Prod.mk.injEq] at heq
      obtain ⟨rfl, rfl, -⟩ := heq
      exact loopTest_effect htest (.refl c)
    | frame frame now =>
      simp only [StreamController.captureLoop, Option.some.injEq, Prod.mk.injEq] at h
      obtain ⟨rfl, rfl, -⟩ := h
      exact .goesOn _ rfl (.of_update c _ _ _ _)
  | broadcasting frame =>
    obtain ⟨⟨c₁, n₁⟩, htest, heq⟩ := Option.map_eq_some_iff.1 h
    simp only [Prod.mk.injEq] at heq
    obtain ⟨rfl, rfl, -⟩ := heq
    exact loopTest_effect htest (.of_update c _ _ _ _)

theorem played_same (c : StreamController) (o : Outcome) : SameStream c (c.played o).self :=
  ⟨rfl, rfl, rfl, rfl, rfl, rfl⟩

/-- The events that run no coroutine leave the stream alone. -/
theorem startRecording_same (c : StreamController) (t : Tm) (now : Instant) (fileOpens : Bool) :
    SameStream c (c.startRecording t now fileOpens) := by
  unfold StreamController.startRecording
  split
  · exact .refl c
  · exact .of_update c _ _ _ _

theorem stopRecording_same (c : StreamController) (now : Instant) :
    SameStream c (c.stopRecording now) := by
  unfold StreamController.stopRecording
  split
  · exact .of_update c _ _ _ _
  · exact .refl c

theorem startRecording_playback (c : StreamController) (t : Tm) (now : Instant) (fileOpens : Bool) :
    KeepsPlayback c (c.startRecording t now fileOpens) := by
  unfold StreamController.startRecording
  split <;> exact ⟨rfl, rfl⟩

theorem stopRecording_playback (c : StreamController) (now : Instant) :
    KeepsPlayback c (c.stopRecording now) := by
  unfold StreamController.stopRecording
  split <;> exact ⟨rfl, rfl⟩

end Effects

end AsciiStreamer
