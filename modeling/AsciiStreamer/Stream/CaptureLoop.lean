import AsciiStreamer.Stream.StreamSystem

/-!
# One capture loop, and the stops that wait for it

What the stream is for is a `lifecycle` of three phases, which every run of the controller follows
(`streaming_simulates_lifecycle`). A capture loop is live exactly while the stream is on, with the
camera open, and no cleanup runs under it (`one_capture_loop`). The waiting loop of
`stop_streaming` tests `is_streaming_` only, so a stream that begins while it waits keeps it
waiting; nothing else does (`stop_honoured_iff`).
-/

namespace AsciiStreamer

open Cxx

/-! ## The steps of the system, as far as the stream is concerned -/

/-- Some `stop_streaming` is suspended in its waiting loop. -/
def StreamSystem.Waiting (s : StreamSystem) : Prop := ∃ t ∈ s.tasks, t.pc = .polling

/-- What one event does to the stream and its coroutines. -/
inductive StreamStep {P : Platform} (s : StreamSystem) (e : StreamEvent P) (s' : StreamSystem) :
    Prop
  | segment (i : Nat) (env : Env) (t : Task) (g : Segment) (event : e = .segment i env)
      (task : s.tasks[i]? = some t) (effect : Effect s.controller t.pc env g)
      (controller : s'.controller = g.self)
      (tasks : s'.tasks = proceed s.tasks i (t.after g.next))
      (loops : s'.loops = if g.spawned then s.loops ++ [.spawned] else s.loops)
      (cleanups : s'.cleanups = if g.cleaned then s.cleanups ++ [s.loops.length] else s.cleanups)
  | loop (i : Nat) (next : Option LoopPc) (other : ∀ j env, e ≠ .segment j env)
      (live : i < s.loops.length)
      (effect : LoopEffect s.controller s'.controller next) (tasks : s'.tasks = s.tasks)
      (loops : s'.loops = proceed s.loops i next)
      (cleanups : s'.cleanups = s.cleanups)
  | other (other : ∀ j env, e ≠ .segment j env) (same : SameStream s.controller s'.controller)
      (tasks : s'.tasks = s.tasks ∨ ∃ caller call, s'.tasks = s.tasks ++ [⟨caller, .dispatch call⟩])
      (loops : s'.loops = s.loops) (cleanups : s'.cleanups = s.cleanups)

section Steps

variable {P : Platform} {s s' : StreamSystem} {e : StreamEvent P}

theorem streaming_step (h : (streaming P).step s e = some s') : StreamStep s e s' := by
  cases e with
  | invoke caller call =>
    cases h
    exact .other nofun (.refl _) (Or.inr ⟨caller, call, rfl⟩) rfl rfl
  | segment i env =>
    obtain ⟨⟨s₁, t, g⟩, hseg, rfl⟩ := Option.map_eq_some_iff.1 h
    obtain ⟨ht, rfl, rfl⟩ := segment_eq hseg
    exact .segment i env _ _ rfl ht (Pc.run_effect P _ env _) rfl rfl rfl rfl
  | loop i capture alive =>
    obtain ⟨⟨s₁, sends⟩, hloop, rfl⟩ := Option.map_eq_some_iff.1 h
    obtain ⟨pc, c, next, hi, hc, rfl⟩ := loop_eq hloop
    have hlt : i < s.loops.length := (List.getElem?_eq_some_iff.1 hi).1
    exact .loop i next nofun hlt (captureLoop_effect hc) rfl rfl rfl
  | addViewer viewer =>
    cases h
    exact .other nofun (.refl _) (Or.inl rfl) rfl rfl
  | runAddViewer =>
    obtain ⟨v, vs, -, rfl⟩ := runAddViewer_eq h
    exact .other nofun ⟨rfl, rfl, rfl, rfl, rfl, rfl⟩ (Or.inl rfl) rfl rfl
  | startRecording t now fileOpens =>
    cases h
    exact .other nofun (startRecording_same _ _ _ _) (Or.inl rfl) rfl rfl
  | stopRecording now =>
    cases h
    exact .other nofun (stopRecording_same _ _) (Or.inl rfl) rfl rfl
  | playbackExpire =>
    obtain ⟨p, rfl⟩ := playbackExpire_eq h
    exact .other nofun ⟨rfl, rfl, rfl, rfl, rfl, rfl⟩ (Or.inl rfl) rfl rfl
  | playbackHandler k =>
    obtain ⟨⟨s₁, sends⟩, hk, rfl⟩ := Option.map_eq_some_iff.1 h
    obtain ⟨o, rfl, -⟩ := playbackHandler_eq hk
    exact .other nofun (played_same _ _) (Or.inl rfl) rfl rfl

end Steps

/-! ## The lifecycle of a stream -/

inductive Phase
  | off
  | running
  | stopping
  deriving DecidableEq, Repr

inductive PhaseEvent
  | begin
  | requestStop
  | finish
  deriving DecidableEq, Repr

/-- A stream begins, may be asked to stop, and finishes; only then another can begin. -/
def lifecycle : Machine Phase PhaseEvent where
  step
    | .off, .begin => some .running
    | .running, .requestStop => some .stopping
    | .stopping, .requestStop => some .stopping
    | .running, .finish => some .off
    | .stopping, .finish => some .off
    | _, _ => none

def StreamController.phase (c : StreamController) : Phase :=
  if c.isStreaming then if c.stopRequested then .stopping else .running else .off

theorem SameStream.phase {c c' : StreamController} (h : SameStream c c') : c'.phase = c.phase := by
  simp only [StreamController.phase, h.isStreaming, h.stopRequested]

theorem StreamController.phase_off {c : StreamController} (h : c.isStreaming = false) :
    c.phase = .off := by
  simp only [StreamController.phase, h, Bool.false_eq_true, ↓reduceIte]

theorem lifecycle_stay {p q : Phase} (h : q = p) : ∃ ds, lifecycle.run p ds = some q :=
  ⟨[], by rw [h]; rfl⟩

/-- Whatever the phase, a stream that is off afterwards has finished or was off before. -/
theorem lifecycle_finish (p : Phase) : ∃ ds, lifecycle.run p ds = some .off := by
  cases p with
  | off => exact ⟨[], rfl⟩
  | running => exact ⟨[.finish], rfl⟩
  | stopping => exact ⟨[.finish], rfl⟩

/-- **Every run of the controller follows the lifecycle.** -/
theorem streaming_simulates_lifecycle (P : Platform) (es : List (StreamEvent P))
    (s s' : StreamSystem) (hrun : (streaming P).run s es = some s') :
    ∃ ds, lifecycle.run s.controller.phase ds = some s'.controller.phase := by
  refine Machine.run_simulation (I := fun _ => True) (f := fun s => s.controller.phase)
    (fun _ _ => trivial) ?_ es trivial hrun
  intro s e s' _ hs
  rcases streaming_step hs with
    ⟨i, env, t, g, -, -, heff, hc, -, -, -⟩ | ⟨i, next, -, -, heff, -, -, -⟩ | ⟨-, hsame, -, -, -⟩
  · simp only [hc]
    cases heff with
    | started i r f call begins hsp hcl hon hstop hopen hnext =>
      refine ⟨[.begin], ?_⟩
      rw [StreamController.phase_off begins.idle]
      simp only [StreamController.phase, hon, hstop, Bool.false_eq_true, ↓reduceIte]
      rfl
    | failed i r f call begins idle hsp hcl hoff hstop hnext =>
      rw [StreamController.phase_off hoff]
      exact lifecycle_finish _
    | stopping call streaming self hsp hcl hnext =>
      refine ⟨[.requestStop], ?_⟩
      simp only [self, StreamController.phase, streaming, ↓reduceIte]
      split <;> rfl
    | waiting call streaming self hsp hcl hnext => exact lifecycle_stay (by rw [self])
    | cleaned call idle self hsp hcl hnext =>
      rw [self, StreamController.phase_off (c := s.controller.cleanup) rfl]
      exact lifecycle_finish _
    | quiet other same hsp hcl hnext begins => exact lifecycle_stay same.phase
  · cases heff with
    | goesOn pc hnext same => exact lifecycle_stay same.phase
    | ends hnext hoff hstop hsource =>
      simp only [StreamController.phase_off hoff]
      exact lifecycle_finish _
  · exact lifecycle_stay hsame.phase

/-! ## One capture loop -/

structure OneLoop (s : StreamSystem) : Prop where
  live : s.loops.length = if s.controller.isStreaming then 1 else 0
  opened : s.loops ≠ [] → s.controller.videoSource.capOpened = true
  cleanups : ∀ n ∈ s.cleanups, n = 0

section OneLoopProofs

variable {P : Platform} {s s' : StreamSystem} {e : StreamEvent P}

theorem OneLoop.idle (h : OneLoop s) (hi : s.controller.isStreaming = false) : s.loops = [] := by
  have hlive := h.live
  simp only [hi, Bool.false_eq_true, ↓reduceIte] at hlive
  exact List.length_eq_zero_iff.1 hlive

/-- A live loop is the only one, and the stream is on. -/
theorem OneLoop.busy (h : OneLoop s) {i : Nat} (hi : i < s.loops.length) :
    s.controller.isStreaming = true ∧ s.loops.length = 1 ∧ i = 0 := by
  have hlive := h.live
  cases hs : s.controller.isStreaming with
  | false =>
    simp only [hs, Bool.false_eq_true, ↓reduceIte] at hlive
    omega
  | true =>
    simp only [hs, ↓reduceIte] at hlive
    exact ⟨rfl, hlive, by omega⟩

theorem OneLoop.of_same (h : OneLoop s) {c : StreamController} (hsame : SameStream s.controller c)
    (hc : s'.controller = c) (hl : s'.loops.length = s.loops.length)
    (hcl : s'.cleanups = s.cleanups) : OneLoop s' := by
  refine ⟨?_, ?_, by rw [hcl]; exact h.cleanups⟩
  · rw [hl, h.live, hc, hsame.isStreaming]
  · intro hne
    rw [hc, hsame.videoSource]
    refine h.opened fun he => hne (List.length_eq_zero_iff.1 ?_)
    rw [hl, he]
    rfl

theorem OneLoop.step (h : OneLoop s) (hs : (streaming P).step s e = some s') : OneLoop s' := by
  rcases streaming_step hs with
    ⟨i, env, t, g, -, -, heff, hc, -, hl, hcl⟩ | ⟨i, next, -, hlt, heff, -, hl, hcl⟩ |
      ⟨-, hsame, -, hl, hcl⟩
  · cases heff with
    | started i r f call begins hsp hnc hon hstop hopen hnext =>
      have hnil := h.idle begins.idle
      simp only [hsp, hnil, List.nil_append, ↓reduceIte] at hl
      simp only [hnc, Bool.false_eq_true, ↓reduceIte] at hcl
      refine ⟨?_, fun _ => by rw [hc, hopen], by rw [hcl]; exact h.cleanups⟩
      rw [hl, hc, hon]
      rfl
    | failed i r f call begins idle hsp hnc hoff hstop hnext =>
      have hnil := h.idle idle
      simp only [hsp, hnil, Bool.false_eq_true, ↓reduceIte] at hl
      simp only [hnc, Bool.false_eq_true, ↓reduceIte] at hcl
      refine ⟨?_, fun hne => absurd hl hne, by rw [hcl]; exact h.cleanups⟩
      rw [hl, hc, hoff]
      rfl
    | stopping call streaming self hsp hnc hnext =>
      simp only [hsp, Bool.false_eq_true, ↓reduceIte] at hl
      simp only [hnc, Bool.false_eq_true, ↓reduceIte] at hcl
      refine ⟨by rw [hl, h.live, hc, self], fun hne => ?_, by rw [hcl]; exact h.cleanups⟩
      rw [hc, self]
      exact h.opened (hl ▸ hne)
    | waiting call streaming self hsp hnc hnext =>
      simp only [hsp, Bool.false_eq_true, ↓reduceIte] at hl
      simp only [hnc, Bool.false_eq_true, ↓reduceIte] at hcl
      exact h.of_same (.refl _) (hc.trans self) (by rw [hl]) hcl
    | cleaned call idle self hsp hnc hnext =>
      -- the waiting loop is left only when the stream is off, and then no loop is live
      have hnil := h.idle idle
      simp only [hsp, hnil, Bool.false_eq_true, ↓reduceIte] at hl
      simp only [hnc, hnil, List.length_nil, ↓reduceIte] at hcl
      refine ⟨by rw [hl, hc, self]; rfl, fun hne => absurd hl hne, fun n hn => ?_⟩
      rw [hcl] at hn
      rcases List.mem_append.1 hn with hn | hn
      · exact h.cleanups n hn
      · exact List.mem_singleton.1 hn
    | quiet other same hsp hnc hnext begins =>
      simp only [hsp, Bool.false_eq_true, ↓reduceIte] at hl
      simp only [hnc, Bool.false_eq_true, ↓reduceIte] at hcl
      exact h.of_same same hc (by rw [hl]) hcl
  · cases heff with
    | goesOn pc hnext same =>
      subst hnext
      exact h.of_same same rfl (by rw [hl, length_proceed_some]) hcl
    | ends hnext hoff hstop hsource =>
      subst hnext
      obtain ⟨-, hone, -⟩ := h.busy hlt
      have hnil : s'.loops.length = 0 := by
        rw [hl, length_proceed_none hlt, hone]
      refine ⟨by rw [hnil, hoff]; rfl, fun hne => ?_, by rw [hcl]; exact h.cleanups⟩
      exact absurd (List.length_eq_zero_iff.1 hnil) hne
  · exact h.of_same hsame rfl (by rw [hl]) hcl

/-- **One capture loop**: in every run exactly one loop is live while the stream is on and none
otherwise, the camera is open under a live loop, and no cleanup has run under one. -/
theorem one_capture_loop (P : Platform) (es : List (StreamEvent P)) (s : StreamSystem)
    (hrun : (streaming P).run {} es = some s) :
    s.loops.length = (if s.controller.isStreaming then 1 else 0) ∧
      (s.loops ≠ [] → s.controller.videoSource.capOpened = true) ∧
      ∀ n ∈ s.cleanups, n = 0 := by
  have hinit : OneLoop {} := ⟨rfl, nofun, nofun⟩
  have h : OneLoop s := Machine.run_invariant (fun hi hs => hi.step hs) es hinit hrun
  exact ⟨h.live, h.opened, h.cleanups⟩

end OneLoopProofs

/-! ## Runs -/

/-- An environment in which every call works. -/
def working : Env := ⟨.working, none, fun _ => true⟩

/-- A stream starts, its loop goes to sleep, and a stop waits until the loop has ended. -/
def startStop : List (StreamEvent x86_64) :=
  [.invoke (.handler 1) (.startStreaming 0 (lit "120x90") 10), .segment 0 working,
    .loop 0 .empty fun _ => true, .invoke (.handler 2) .stopStreaming, .segment 0 working,
    .segment 0 working, .loop 0 (.throws (.runtimeError [])) fun _ => true, .segment 0 working]

theorem one_capture_loop_startStop :
    ∃ s, (streaming x86_64).run {} startStop = some s ∧
      s.loops.length = (if s.controller.isStreaming then 1 else 0) ∧
      (s.loops ≠ [] → s.controller.videoSource.capOpened = true) ∧ ∀ n ∈ s.cleanups, n = 0 := by
  have hruns : ((streaming x86_64).run {} startStop).isSome = true := by decide +kernel
  obtain ⟨s, hs⟩ := Option.isSome_iff_exists.1 hruns
  exact ⟨s, hs, one_capture_loop x86_64 startStop s hs⟩

/-! ## Stops that wait -/

/-- No stop waits for a stream that nobody has asked to stop. -/
def StopHonoured (s : StreamSystem) : Prop :=
  s.Waiting → s.controller.isStreaming = false ∨ s.controller.stopRequested = true

/-- The event is no start of a new stream while a stop waits. -/
def NoNewStream {P : Platform} (s : StreamSystem) (e : StreamEvent P) : Prop :=
  ∀ i env t cameraIndex resolution fps, e = .segment i env → s.tasks[i]? = some t →
    t.pc = .dispatch (.startStreaming cameraIndex resolution fps) →
    Begins s.controller resolution env.camera → ¬s.Waiting

section Stops

variable {P : Platform} {s s' : StreamSystem} {e : StreamEvent P}

/-- A segment of a method that does not wait leaves the waiting ones. -/
theorem waiting_proceed {i : Nat} {t : Task} {next : Option Task} (ht : s.tasks[i]? = some t)
    (hpc : t.pc ≠ .polling) (hw : s.Waiting) (htasks : s'.tasks = proceed s.tasks i next) :
    s'.Waiting := by
  obtain ⟨x, hx, hxpc⟩ := hw
  refine ⟨x, ?_, hxpc⟩
  rw [htasks]
  refine mem_proceed hx fun hxi => hpc ?_
  rw [ht, Option.some.injEq] at hxi
  rw [hxi, hxpc]

theorem waiting_of_proceed {i : Nat} {next : Option Task} (hw : s'.Waiting)
    (htasks : s'.tasks = proceed s.tasks i next) (hnext : ∀ t, next = some t → t.pc ≠ .polling) :
    s.Waiting := by
  obtain ⟨x, hx, hxpc⟩ := hw
  rw [htasks] at hx
  rcases mem_of_mem_proceed hx with hx | hx
  · exact ⟨x, hx, hxpc⟩
  · exact absurd hxpc (hnext x hx)

/-- A segment that gets no stream going. -/
theorem noNewStream_of_segment {i : Nat} {env : Env} {t : Task} (ht : s.tasks[i]? = some t)
    (h : ∀ cameraIndex resolution fps,
      t.pc = .dispatch (.startStreaming cameraIndex resolution fps) →
        ¬Begins s.controller resolution env.camera) :
    NoNewStream s (.segment i env : StreamEvent P) := by
  intro j env' t' cameraIndex resolution fps heq ht' hcall hb
  cases heq
  obtain rfl : t = t' := Option.some.inj (ht.symm.trans ht')
  exact absurd hb (h cameraIndex resolution fps hcall)

theorem noNewStream_of_other {i : Nat} {env : Env} {t : Task} {pc : Pc} (ht : s.tasks[i]? = some t)
    (call : t.pc = pc)
    (hpc : ∀ cameraIndex resolution fps,
      pc ≠ .dispatch (.startStreaming cameraIndex resolution fps)) :
    NoNewStream s (.segment i env : StreamEvent P) :=
  noNewStream_of_segment ht fun cameraIndex resolution fps hcall =>
    absurd (call.symm.trans hcall) (hpc cameraIndex resolution fps)

/-- A call that has just been made does not wait yet. -/
theorem waiting_of_invoke (hw : s'.Waiting)
    (htasks : s'.tasks = s.tasks ∨
      ∃ caller call, s'.tasks = s.tasks ++ [⟨caller, .dispatch call⟩]) : s.Waiting := by
  obtain ⟨x, hx, hxpc⟩ := hw
  rcases htasks with htasks | ⟨caller, call, htasks⟩
  · exact ⟨x, htasks ▸ hx, hxpc⟩
  · rw [htasks] at hx
    rcases List.mem_append.1 hx with hx | hx
    · exact ⟨x, hx, hxpc⟩
    · rw [List.mem_singleton.1 hx] at hxpc
      cases hxpc

/-- A new stream under a waiting stop is the only thing that can go wrong in one step. -/
theorem stopHonoured_step (h : StopHonoured s) (hs : (streaming P).step s e = some s') :
    StopHonoured s' ↔ NoNewStream s e := by
  rcases streaming_step hs with
    ⟨i, env, t, g, rfl, ht, heff, hc, htasks, -, -⟩ | ⟨i, next, hne, -, heff, htasks, -, -⟩ |
      ⟨hne, hsame, htasks, -, -⟩
  · cases heff with
    | started cameraIndex resolution fps call begins hsp hnc hon hstop hopen hnext =>
      rw [hnext] at htasks
      constructor
      · intro hp j env' t' i' r f heq ht' hcall hb hw
        have hw' : s'.Waiting := waiting_proceed ht (by rw [call]; exact nofun) hw htasks
        rcases hp hw' with hoff | hreq
        · rw [hc, hon] at hoff
          cases hoff
        · rw [hc, hstop] at hreq
          cases hreq
      · intro hno hw
        exact absurd (waiting_of_proceed hw htasks nofun)
          (hno i env t cameraIndex resolution fps rfl ht call begins)
    | failed cameraIndex resolution fps call begins idle hsp hnc hoff hstop hnext =>
      refine iff_of_true (fun _ => Or.inl (by rw [hc, hoff])) ?_
      apply noNewStream_of_segment ht
      intro cameraIndex' resolution' fps' hcall
      rw [call] at hcall
      cases hcall
      exact begins
    | stopping call streaming self hsp hnc hnext =>
      refine iff_of_true (fun _ => Or.inr (by rw [hc, self])) ?_
      exact noNewStream_of_other ht call nofun
    | waiting call streaming self hsp hnc hnext =>
      have hw : s.Waiting := ⟨t, List.mem_of_getElem? ht, call⟩
      refine iff_of_true (fun _ => by rw [hc, self]; exact h hw) ?_
      exact noNewStream_of_other ht call nofun
    | cleaned call idle self hsp hnc hnext =>
      refine iff_of_true (fun _ => Or.inl (by rw [hc, self]; rfl)) ?_
      exact noNewStream_of_other ht call nofun
    | quiet other same hsp hnc hnext begins =>
      refine iff_of_true (fun hw => ?_) ?_
      · have hw' : s.Waiting := by
          refine waiting_of_proceed hw htasks fun x hx hxpc => hnext ?_
          cases hg : g.next with
          | inl pc =>
            rw [hg, Task.after, Option.some.injEq] at hx
            rw [← hxpc, ← hx]
          | inr r =>
            rw [hg] at hx
            cases hx
        rw [hc, same.isStreaming, same.stopRequested]
        exact h hw'
      · apply noNewStream_of_segment ht
        intro _ _ _ hcall hb
        have hon := begins _ _ _ hcall
        rw [hb.idle] at hon
        cases hon
  · refine iff_of_true (fun hw => ?_) fun j env _ _ _ _ heq => absurd heq (hne j env)
    have hw' : s.Waiting := waiting_of_invoke hw (Or.inl htasks)
    cases heff with
    | goesOn pc hnext same =>
      rw [same.isStreaming, same.stopRequested]
      exact h hw'
    | ends hnext hoff hstop hsource => exact Or.inl hoff
  · refine iff_of_true (fun hw => ?_) fun j env _ _ _ _ heq => absurd heq (hne j env)
    rw [hsame.isStreaming, hsame.stopRequested]
    apply h
    exact waiting_of_invoke hw htasks

/-- **When every stop is honoured**: in exactly the runs in which no stream begins while a stop
waits. -/
theorem stop_honoured_iff (P : Platform) (es : List (StreamEvent P)) (s : StreamSystem)
    (hrun : (streaming P).run {} es = some s) :
    (streaming P).AllStates StopHonoured {} es ↔ (streaming P).AllSteps NoNewStream {} es := by
  have hinit : StopHonoured {} := fun ⟨_, hx, _⟩ => nomatch hx
  exact Machine.allStates_iff_allSteps (J := fun _ => True) (fun _ _ => trivial)
    (fun _ hp hs => stopHonoured_step hp hs) trivial hinit hrun

theorem stop_honoured_iff_startStop :
    (streaming x86_64).AllStates StopHonoured {} startStop ↔
      (streaming x86_64).AllSteps NoNewStream {} startStop := by
  have hruns : ((streaming x86_64).run {} startStop).isSome = true := by decide +kernel
  obtain ⟨s, hs⟩ := Option.isSome_iff_exists.1 hruns
  exact stop_honoured_iff x86_64 startStop s hs

/-- A stop waits, the loop ends, and another client starts a stream before the stop wakes up. -/
def lostStop : List (StreamEvent x86_64) :=
  [.invoke (.handler 1) (.startStreaming 0 (lit "120x90") 10), .segment 0 working,
    .invoke (.handler 1) .stopStreaming, .segment 0 working, .loop 0 .empty fun _ => true,
    .invoke (.handler 2) (.startStreaming 0 (lit "80x60") 5), .segment 1 working]

/-- The stop then waits for the new stream. -/
theorem stop_lost : ∃ s, (streaming x86_64).run {} lostStop = some s ∧ s.Waiting ∧
    ¬(s.controller.isStreaming = false ∨ s.controller.stopRequested = true) := by
  refine ⟨_, rfl, ⟨⟨.handler 1, .polling⟩, ?_, rfl⟩, ?_⟩
  · exact List.mem_cons_self
  · rintro (h | h) <;> cases h

end Stops

end AsciiStreamer
