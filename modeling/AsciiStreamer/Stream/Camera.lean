import AsciiStreamer.Stream.CaptureLoop

/-!
# The camera

`open` is called by `start_streaming` and `close` only by `cleanup`, which only a stop that has
waited reaches. So a stream that fails while no stop waits leaves the camera open, and a later stop
returns before it gets there: `camera_released_iff` says that nothing else does.
-/

namespace AsciiStreamer

open Cxx

/-! ## The property and the condition -/

/-- No capture loop is live and no stop waits. -/
structure StreamSystem.Quiescent (s : StreamSystem) : Prop where
  loops : s.loops = []
  waiting : ¬s.Waiting

/-- Where no stream runs, the camera is closed, and a stop leaves it closed. -/
structure CameraReleased (s : StreamSystem) : Prop where
  closed : s.Quiescent → s.controller.videoSource.capOpened = false
  stop : s.Quiescent → s.controller.stopStreaming.self.videoSource.capOpened = false

/-- `start_streaming` gets the camera open and throws afterwards. -/
structure OpensThenThrows (resolution : Bytes) (env : CameraEnv) : Prop where
  width : ∃ w, stoi (StreamController.widthText resolution) = .ok w
  height : ∃ h, stoi (StreamController.heightText resolution) = .ok h
  opens : env.opens = true
  throws : env.setResolution ≠ .ok () ∨ env.setAsciiChars ≠ .ok ()

/-- No stream fails in this step, unless a stop waits: no start throws after the camera has been
opened, and no capture loop ends by an exception. -/
def FailsOnlyUnderStop {P : Platform} (s : StreamSystem) : StreamEvent P → Prop
  | .segment i env => ∀ t cameraIndex resolution fps, s.tasks[i]? = some t →
      t.pc = .dispatch (.startStreaming cameraIndex resolution fps) →
      s.controller.isStreaming = false → OpensThenThrows resolution env.camera → s.Waiting
  | .loop i capture _ => s.loops[i]? = some .sleeping → ∀ e, capture = .throws e → s.Waiting
  | _ => True

/-! ## What a failed start leaves -/

section Start

variable {c : StreamController}

theorem openStream_capOpened (hclosed : c.videoSource.capOpened = false) (cameraIndex : Int)
    (resolution : Bytes) (fps : Int) (env : CameraEnv) :
    (c.openStream cameraIndex resolution fps env).2 = .ok () ∨
      ((c.openStream cameraIndex resolution fps env).1.videoSource.capOpened = false ↔
        ¬OpensThenThrows resolution env) := by
  have hopening := openStream_opening c cameraIndex resolution fps env
  generalize c.openStream cameraIndex resolution fps env = x at hopening ⊢
  obtain ⟨c', r⟩ := x
  cases hopening with
  | width e width =>
    refine Or.inr (iff_of_true hclosed fun h => ?_)
    obtain ⟨w, hw⟩ := h.width
    cases hw.symm.trans width
  | height w e width height =>
    refine Or.inr (iff_of_true hclosed fun h => ?_)
    obtain ⟨h, hh⟩ := h.height
    cases hh.symm.trans height
  | camera w h width height opens =>
    refine Or.inr (iff_of_true rfl fun h => ?_)
    cases h.opens.symm.trans opens
  | throws w h e width height opens throws =>
    refine Or.inr (iff_of_false Bool.true_eq_false_eq_False fun hnot => ?_)
    exact hnot ⟨⟨w, width⟩, ⟨h, height⟩, opens, throws⟩
  | started => exact Or.inl rfl

/-- A start that fails with the camera closed before leaves it open only if it got it open. -/
theorem startStreaming_capOpened (hclosed : c.videoSource.capOpened = false)
    (hidle : c.isStreaming = false) (cameraIndex : Int) (resolution : Bytes) (fps : Int)
    (env : CameraEnv) (hb : ¬Begins c resolution env) :
    (c.startStreaming cameraIndex resolution fps env).self.videoSource.capOpened = false ↔
      ¬OpensThenThrows resolution env := by
  rcases openStream_cases c cameraIndex resolution fps env hidle with
    ⟨hb', -⟩ | ⟨-, c', e, hopen, -, -⟩
  · exact absurd hb' hb
  · rcases openStream_capOpened hclosed cameraIndex resolution fps env with hok | hiff
    · rw [hopen] at hok
      cases hok
    · rw [hopen] at hiff
      simp only [StreamController.startStreaming, hidle, Bool.false_eq_true, ↓reduceIte, hopen]
      exact hiff

theorem cleanup_capOpened (c : StreamController) : c.cleanup.videoSource.capOpened = false := by
  unfold StreamController.cleanup VideoSource.close
  cases hcap : c.videoSource.capOpened with
  | true => simp only [↓reduceIte]
  | false => simp only [Bool.false_eq_true, ↓reduceIte, hcap]

end Start

/-! ## One step -/

/-- There is at most one loop, and a stop that has been requested waits for it. -/
structure CameraInv (s : StreamSystem) : Prop where
  oneLoop : OneLoop s
  requested : s.controller.isStreaming = true → s.controller.stopRequested = true → s.Waiting

section Step

variable {P : Platform} {s s' : StreamSystem} {e : StreamEvent P}

theorem Waiting.of_append (hw : s.Waiting) (htasks : s'.tasks = s.tasks ∨
    ∃ caller call, s'.tasks = s.tasks ++ [⟨caller, .dispatch call⟩]) : s'.Waiting := by
  obtain ⟨x, hx, hxpc⟩ := hw
  rcases htasks with htasks | ⟨caller, call, htasks⟩
  · exact ⟨x, htasks ▸ hx, hxpc⟩
  · exact ⟨x, htasks ▸ List.mem_append_left _ hx, hxpc⟩

/-- A method that has reached the waiting loop waits. -/
theorem waiting_of_next {i : Nat} {t : Task} {next : Pc ⊕ Except Exn Unit}
    (ht : s.tasks[i]? = some t) (htasks : s'.tasks = proceed s.tasks i (t.after next))
    (hnext : next = .inl .polling) : s'.Waiting := by
  subst hnext
  refine ⟨{ t with pc := .polling }, ?_, rfl⟩
  rw [htasks]
  exact List.mem_set (List.getElem?_eq_some_iff.1 ht).1 _

theorem CameraInv.step (h : CameraInv s) (hs : (streaming P).step s e = some s') :
    CameraInv s' := by
  refine ⟨h.oneLoop.step hs, ?_⟩
  rcases streaming_step hs with
    ⟨i, env, t, g, -, ht, heff, hc, htasks, -, -⟩ | ⟨i, next, -, -, heff, htasks, -, -⟩ |
      ⟨-, hsame, htasks, -, -⟩
  · cases heff with
    | started cameraIndex resolution fps call begins hsp hnc hon hstop hopen hnext =>
      intro _ hreq
      rw [hc, hstop] at hreq
      cases hreq
    | failed cameraIndex resolution fps call begins idle hsp hnc hoff hstop hnext =>
      intro hon
      rw [hc, hoff] at hon
      cases hon
    | stopping call streaming self hsp hnc hnext =>
      intro _ _
      exact waiting_of_next ht htasks hnext
    | waiting call streaming self hsp hnc hnext =>
      intro _ _
      exact waiting_of_next ht htasks hnext
    | cleaned call idle self hsp hnc hnext =>
      intro hon
      rw [hc, self] at hon
      cases hon
    | quiet other same hsp hnc hnext begins =>
      intro hon hreq
      rw [hc, same.isStreaming] at hon
      rw [hc, same.stopRequested] at hreq
      exact waiting_proceed ht other (h.requested hon hreq) htasks
  · cases heff with
    | goesOn pc hnext same =>
      intro hon hreq
      rw [same.isStreaming] at hon
      rw [same.stopRequested] at hreq
      exact Waiting.of_append (h.requested hon hreq) (Or.inl htasks)
    | ends hnext hoff hstop hsource =>
      intro hon
      rw [hoff] at hon
      cases hon
  · intro hon hreq
    rw [hsame.isStreaming] at hon
    rw [hsame.stopRequested] at hreq
    exact Waiting.of_append (h.requested hon hreq) htasks

/-- Where no stream is on, a stop does nothing. -/
theorem cameraReleased_iff (h : CameraInv s) :
    CameraReleased s ↔ (s.Quiescent → s.controller.videoSource.capOpened = false) := by
  refine ⟨CameraReleased.closed, fun hclosed => ⟨hclosed, fun hq => ?_⟩⟩
  have hidle : s.controller.isStreaming = false := by
    cases hon : s.controller.isStreaming with
    | false => rfl
    | true =>
      have hlive := h.oneLoop.live
      rw [hq.loops, hon] at hlive
      cases hlive
  unfold StreamController.stopStreaming
  rw [hidle]
  exact hclosed hq

/-- A step that leaves no loop and no stop, from a state in which there was none. -/
theorem quiescent_of_segment {i : Nat} {t : Task} {next : Option Task} (ht : s.tasks[i]? = some t)
    (hpc : t.pc ≠ .polling) (htasks : s'.tasks = proceed s.tasks i next)
    (hloops : s'.loops = s.loops) (hq : s'.Quiescent) : s.Quiescent :=
  ⟨hloops ▸ hq.loops, fun hw => hq.waiting (waiting_proceed ht hpc hw htasks)⟩

/-- Where a loop is live or a stop waits, nothing is asked of the camera. -/
theorem cameraReleased_of_not_quiescent (h : ¬s.Quiescent) : CameraReleased s :=
  ⟨fun hq => absurd hq h, fun hq => absurd hq h⟩

theorem not_quiescent_of_waiting (h : s.Waiting) : ¬s.Quiescent := fun hq => hq.waiting h

/-- A start that throws is made up for only by a stop that waits. -/
theorem cameraReleased_failed {i : Nat} {env : Env} {t : Task} {next : Pc ⊕ Except Exn Unit}
    {cameraIndex fps : Int} {resolution : Bytes} (h : CameraInv s) (hp : CameraReleased s)
    (hinv : CameraInv s') (ht : s.tasks[i]? = some t)
    (call : t.pc = .dispatch (.startStreaming cameraIndex resolution fps))
    (idle : s.controller.isStreaming = false) (hb : ¬Begins s.controller resolution env.camera)
    (hc : s'.controller = (s.controller.startStreaming cameraIndex resolution fps env.camera).self)
    (htasks : s'.tasks = proceed s.tasks i (t.after next)) (hloops : s'.loops = s.loops)
    (hnext : ∃ e, next = .inr (.error e)) :
    CameraReleased s' ↔ (OpensThenThrows resolution env.camera → s.Waiting) := by
  have hnil := h.oneLoop.idle idle
  by_cases hw : s.Waiting
  · have hpc : t.pc ≠ .polling := by
      rw [call]
      exact nofun
    have hw' : s'.Waiting := waiting_proceed ht hpc hw htasks
    exact iff_of_true (cameraReleased_of_not_quiescent (not_quiescent_of_waiting hw')) fun _ => hw
  · have hclosed := hp.closed ⟨hnil, hw⟩
    have hq : s'.Quiescent := by
      refine ⟨hloops.trans hnil, fun hw' => hw (waiting_of_proceed hw' htasks fun x hx => ?_)⟩
      obtain ⟨e, he⟩ := hnext
      rw [he] at hx
      cases hx
    have hiff := startStreaming_capOpened hclosed idle cameraIndex resolution fps env.camera hb
    rw [cameraReleased_iff hinv, hc]
    constructor
    · intro hcap hthrows
      exact absurd hthrows (hiff.1 (hcap hq))
    · intro hwaits _
      exact hiff.2 fun hthrows => hw (hwaits hthrows)

/-- The step of a method: only a start can fail. -/
theorem cameraReleased_segment {i : Nat} {env : Env} (h : CameraInv s) (hp : CameraReleased s)
    (hs : (streaming P).step s (.segment i env) = some s') :
    CameraReleased s' ↔ FailsOnlyUnderStop s (.segment i env : StreamEvent P) := by
  have hinv := h.step hs
  obtain ⟨⟨s₁, t, g⟩, hseg, heq⟩ := Option.map_eq_some_iff.1 hs
  obtain ⟨ht, hg, hs₁⟩ := segment_eq hseg
  have hs' : s₁ = s' := heq
  rw [hs'] at hs₁
  have hc : s'.controller = g.self := by rw [hs₁]
  have htasks : s'.tasks = proceed s.tasks i (t.after g.next) := by rw [hs₁]
  have hloops : s'.loops = if g.spawned then s.loops ++ [.spawned] else s.loops := by rw [hs₁]
  -- the segment is no start that throws with the camera open
  have other : (∀ cameraIndex resolution fps,
      t.pc = .dispatch (.startStreaming cameraIndex resolution fps) →
        s.controller.isStreaming = false → ¬OpensThenThrows resolution env.camera) →
      FailsOnlyUnderStop s (.segment i env : StreamEvent P) := by
    intro hno t' cameraIndex resolution fps ht' hcall hidle hthrows
    obtain rfl : t = t' := Option.some.inj (ht.symm.trans ht')
    exact absurd hthrows (hno cameraIndex resolution fps hcall hidle)
  have heff := Pc.run_effect P s.controller env t.pc
  rw [← hg] at heff
  cases heff with
  | started cameraIndex resolution fps call begins hsp hnc hon hstop hopen hnext =>
    have hlive : ¬s'.Quiescent := by
      intro hq
      rw [hq.loops, hsp, if_pos rfl] at hloops
      exact absurd hloops.symm (List.append_ne_nil_of_right_ne_nil _ (List.cons_ne_nil _ _))
    refine iff_of_true (cameraReleased_of_not_quiescent hlive) (other ?_)
    intro cameraIndex' resolution' fps' hcall _ hthrows
    rw [call] at hcall
    cases hcall
    rcases hthrows.throws with hr | ha
    · exact hr begins.setResolution
    · exact ha begins.setAsciiChars
  | failed cameraIndex resolution fps call begins idle hsp hnc hoff hstop hnext =>
    have hself : g.self =
        (s.controller.startStreaming cameraIndex resolution fps env.camera).self := by
      rw [hg, call]
      rfl
    rw [hsp, if_neg (by decide)] at hloops
    rw [cameraReleased_failed h hp hinv ht call idle begins (hc.trans hself) htasks hloops hnext]
    constructor
    · intro hwaits t' cameraIndex' resolution' fps' ht' hcall _ hthrows
      obtain rfl : t = t' := Option.some.inj (ht.symm.trans ht')
      rw [call] at hcall
      cases hcall
      exact hwaits hthrows
    · intro hfail hthrows
      exact hfail t cameraIndex resolution fps ht call idle hthrows
  | stopping call streaming self hsp hnc hnext =>
    refine iff_of_true ?_ (other fun _ _ _ hcall => absurd (call.symm.trans hcall) nofun)
    exact cameraReleased_of_not_quiescent
      (not_quiescent_of_waiting (waiting_of_next ht htasks hnext))
  | waiting call streaming self hsp hnc hnext =>
    refine iff_of_true ?_ (other fun _ _ _ hcall => absurd (call.symm.trans hcall) nofun)
    exact cameraReleased_of_not_quiescent
      (not_quiescent_of_waiting (waiting_of_next ht htasks hnext))
  | cleaned call idle self hsp hnc hnext =>
    refine iff_of_true ?_ (other fun _ _ _ hcall => absurd (call.symm.trans hcall) nofun)
    rw [cameraReleased_iff hinv, hc, self]
    exact fun _ => cleanup_capOpened s.controller
  | quiet hpc same hsp hnc hnext begins =>
    refine iff_of_true ?_ (other fun _ _ _ hcall hidle => ?_)
    · rw [cameraReleased_iff hinv, hc, same.videoSource]
      rw [hsp, if_neg (by decide)] at hloops
      exact fun hq => hp.closed (quiescent_of_segment ht hpc htasks hloops hq)
    · rw [begins _ _ _ hcall] at hidle
      cases hidle

/-- How a loop ends: by an exception, or because the stream has been told to stop. -/
theorem captureLoop_ends {c c' : StreamController} {capture : Capture P} {alive : SessionId → Bool}
    {pc : LoopPc} {sends : List (SessionId × Message)} (hon : c.isStreaming = true)
    (h : c.captureLoop P capture alive pc = some (c', none, sends)) :
    (pc = .sleeping ∧ ∃ e, capture = .throws e) ∨ c.stopRequested = true := by
  have test : ∀ c₀ : StreamController, c₀.isStreaming = true → c₀.loopTest = some (c', none) →
      c₀.stopRequested = true := by
    intro c₀ hon₀ htest
    unfold StreamController.loopTest at htest
    rw [hon₀, Bool.and_true] at htest
    cases hreq : c₀.stopRequested with
    | true => rfl
    | false =>
      rw [hreq, Bool.not_false, if_pos rfl] at htest
      split at htest
      · cases htest
      · cases htest
  cases pc with
  | spawned =>
    obtain ⟨⟨c₁, n₁⟩, htest, heq⟩ := Option.map_eq_some_iff.1 h
    cases heq
    exact Or.inr (test c hon htest)
  | sleeping =>
    cases capture with
    | throws e => exact Or.inl ⟨rfl, e, rfl⟩
    | empty =>
      obtain ⟨⟨c₁, n₁⟩, htest, heq⟩ := Option.map_eq_some_iff.1 h
      cases heq
      exact Or.inr (test c hon htest)
    | frame frame now => cases h
  | broadcasting frame =>
    obtain ⟨⟨c₁, n₁⟩, htest, heq⟩ := Option.map_eq_some_iff.1 h
    cases heq
    exact Or.inr (test (c.broadcastFrame alive frame).1 hon htest)

/-- The step of a capture loop: it may end by an exception. -/
theorem cameraReleased_loop {i : Nat} {capture : Capture P} {alive : SessionId → Bool}
    (h : CameraInv s) (hs : (streaming P).step s (.loop i capture alive) = some s') :
    CameraReleased s' ↔ FailsOnlyUnderStop s (.loop i capture alive : StreamEvent P) := by
  have hinv := h.step hs
  obtain ⟨⟨s₁, sends⟩, hloop, heq⟩ := Option.map_eq_some_iff.1 hs
  obtain ⟨pc, c, next, hi, hc, hs₁⟩ := loop_eq hloop
  have hs' : s₁ = s' := heq
  rw [hs'] at hs₁
  have hlt : i < s.loops.length := (List.getElem?_eq_some_iff.1 hi).1
  obtain ⟨hon, hone, rfl⟩ := h.oneLoop.busy hlt
  have htasks : s'.tasks = s.tasks := by rw [hs₁]
  have hloops : s'.loops = proceed s.loops 0 next := by rw [hs₁]
  cases captureLoop_effect hc with
  | goesOn pc' hnext same =>
    subst hnext
    refine iff_of_true (cameraReleased_of_not_quiescent fun hq => ?_) fun hsleep x hx => ?_
    · have hlen := congrArg List.length hloops
      rw [hq.loops, length_proceed_some, hone] at hlen
      cases hlen
    · rw [hi, Option.some.injEq] at hsleep
      subst hsleep hx
      cases hc
  | ends hnext hoff hstop hsource =>
    subst hnext
    by_cases hw : s.Waiting
    · refine iff_of_true ?_ fun _ _ _ => hw
      exact cameraReleased_of_not_quiescent
        (not_quiescent_of_waiting (Waiting.of_append hw (Or.inl htasks)))
    · -- nobody has asked the loop to end, so it has thrown
      rcases captureLoop_ends hon hc with ⟨rfl, e, rfl⟩ | hreq
      · have hq : s'.Quiescent := by
          refine ⟨?_, fun hw' => hw (waiting_of_invoke hw' (Or.inl htasks))⟩
          apply List.length_eq_zero_iff.1
          rw [hloops, length_proceed_none hlt, hone]
        have hne : s.loops ≠ [] := List.ne_nil_of_length_pos (hone ▸ Nat.one_pos)
        refine iff_of_false (fun hrel => ?_) fun hfail => hw (hfail hi e rfl)
        have hclosed := hrel.closed hq
        have hcap : s'.controller = c := by rw [hs₁]
        rw [hcap, hsource, h.oneLoop.opened hne] at hclosed
        cases hclosed
      · exact absurd (h.requested hon hreq) hw

/-- Only methods and loops start and end loops. -/
theorem loops_of_other (hseg : ∀ i env, e ≠ .segment i env)
    (hloop : ∀ i capture alive, e ≠ .loop i capture alive)
    (hs : (streaming P).step s e = some s') : s'.loops = s.loops := by
  cases e with
  | segment i env => exact absurd rfl (hseg i env)
  | loop i capture alive => exact absurd rfl (hloop i capture alive)
  | runAddViewer =>
    obtain ⟨v, vs, -, rfl⟩ := runAddViewer_eq hs
    rfl
  | playbackExpire =>
    obtain ⟨p, rfl⟩ := playbackExpire_eq hs
    rfl
  | playbackHandler k =>
    obtain ⟨⟨s₁, sends⟩, hk, rfl⟩ := Option.map_eq_some_iff.1 hs
    obtain ⟨o, rfl, -⟩ := playbackHandler_eq hk
    rfl
  | _ =>
    cases hs
    rfl

/-- **One step**: the camera stays released exactly if no stream fails while no stop waits. -/
theorem cameraReleased_step (h : CameraInv s) (hp : CameraReleased s)
    (hs : (streaming P).step s e = some s') : CameraReleased s' ↔ FailsOnlyUnderStop s e := by
  -- the other events run no coroutine of the stream
  have quiet : (∀ i env, e ≠ .segment i env) → (∀ i capture alive, e ≠ .loop i capture alive) →
      CameraReleased s' := by
    intro hseg hloop
    rw [cameraReleased_iff (h.step hs)]
    intro hq
    rcases streaming_step hs with
      ⟨i, env, t, g, rfl, -, -, -, -, -, -⟩ | ⟨i, next, -, hlt, heff, -, hloops, -⟩ |
        ⟨-, hsame, htasks, hloops, -⟩
    · exact absurd rfl (hseg i env)
    · rw [← loops_of_other hseg hloop hs, hq.loops] at hlt
      exact absurd hlt (Nat.not_lt_zero i)
    · rw [hsame.videoSource]
      exact hp.closed ⟨hloops ▸ hq.loops, fun hw => hq.waiting (Waiting.of_append hw htasks)⟩
  cases e with
  | segment i env => exact cameraReleased_segment h hp hs
  | loop i capture alive => exact cameraReleased_loop h hs
  | _ => exact iff_of_true (quiet nofun nofun) trivial

/-- **When the camera is released**: in exactly the runs in which no stream fails, by a start that
throws with the camera open or by an exception in the loop, while no stop waits. -/
theorem camera_released_iff (P : Platform) (es : List (StreamEvent P)) (s : StreamSystem)
    (hrun : (streaming P).run {} es = some s) :
    (streaming P).AllStates CameraReleased {} es ↔
      (streaming P).AllSteps FailsOnlyUnderStop {} es := by
  have hinit : CameraInv {} := ⟨⟨rfl, nofun, nofun⟩, nofun⟩
  refine Machine.allStates_iff_allSteps (J := CameraInv) ?_ ?_ hinit ⟨fun _ => rfl, fun _ => rfl⟩
    hrun
  · intro s e s' h hs
    exact h.step hs
  · intro s e s' h hp hs
    exact cameraReleased_step h hp hs

theorem camera_released_iff_startStop :
    (streaming x86_64).AllStates CameraReleased {} startStop ↔
      (streaming x86_64).AllSteps FailsOnlyUnderStop {} startStop := by
  have hruns : ((streaming x86_64).run {} startStop).isSome = true := by decide +kernel
  obtain ⟨s, hs⟩ := Option.isSome_iff_exists.1 hruns
  exact camera_released_iff x86_64 startStop s hs

/-- A stream starts, its loop captures and throws, and a stop comes too late. -/
def failedStream : List (StreamEvent x86_64) :=
  [.invoke (.handler 1) (.startStreaming 0 (lit "120x90") 10), .segment 0 working,
    .loop 0 .empty fun _ => true, .loop 0 (.throws (.runtimeError [])) fun _ => true,
    .invoke (.handler 1) .stopStreaming, .segment 0 working]

/-- No loop is live, no stop waits, the last stop has returned, and the camera is open. -/
theorem camera_left_open : ∃ s, (streaming x86_64).run {} failedStream = some s ∧ s.loops = [] ∧
    s.tasks = [] ∧ s.controller.videoSource.capOpened = true :=
  ⟨_, rfl, rfl, rfl, rfl⟩

end Step

end AsciiStreamer
