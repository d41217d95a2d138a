import AsciiStreamer.Server.Ending
import AsciiStreamer.Server.Stops
import AsciiStreamer.Server.Subscription

/-!
# A stream that goes on

While a stream is on and nobody asks it to stop, the only way out of the capture loop is an exception
(`OnAir.step`). So on a scheduler that attends to the loop, with a camera that delivers, the loop
comes round to a broadcast for ever, and whoever watches and stays connected is handed a frame again
and again (`viewers_served`), whoever else comes and goes and whatever they call.
-/

namespace AsciiStreamer

open Cxx Machine

/-- The stream is on, and has not been asked to stop. -/
structure OnAir (c : StreamController) : Prop where
  streaming : c.isStreaming = true
  unstopped : c.stopRequested = false

/-- In this step nobody stops the stream, and neither the camera nor the converter throws. -/
def StaysOnAir {P : Platform} (s : Server) : ServerEvent P → Prop
  | .segment i _ _ => ∀ t, s.stream.tasks[i]? = some t → t.pc ≠ .dispatch .stopStreaming
  | .loop i (.throws _) => s.stream.loops[i]? ≠ some .sleeping
  | _ => True

/-- The camera delivers a frame to the capture loop, and it is converted. -/
def Delivers {P : Platform} (_ : Server) (e : ServerEvent P) : Prop :=
  ∃ i frame now, e = .loop i (.frame frame now)

/-- What a segment of a loop that goes on does. -/
inductive Turn {P : Platform} (c : StreamController) (capture : Capture P)
    (alive : SessionId → Bool) (pc : LoopPc) (sends : List (SessionId × Message)) : LoopPc → Prop
  | converts (frame : Str P) (now : Instant) (sleeping : pc = .sleeping)
      (converted : capture = .frame frame now) : Turn c capture alive pc sends (.broadcasting frame.bytes)
  | sleeps (noFrame : pc = .sleeping → ∀ frame now, capture ≠ .frame frame now)
      (broadcast : ∀ frame, pc = .broadcasting frame →
        sends = (c.viewers.filter alive).map fun v => (v, .live frame)) :
    Turn c capture alive pc sends .sleeping

section Loop

variable {P : Platform} {c c' : StreamController} {capture : Capture P} {alive : SessionId → Bool}
  {pc : LoopPc} {next : Option LoopPc} {sends : List (SessionId × Message)}

theorem OnAir.of_same (h : OnAir c) (hs : SameStream c c') : OnAir c' :=
  ⟨hs.isStreaming.trans h.streaming, hs.stopRequested.trans h.unstopped⟩

/-- The condition of the loop holds. -/
theorem loopTest_onAir (h : OnAir c) (ht : c.loopTest = some (c', next)) :
    next = some .sleeping ∧ c' = c := by
  unfold StreamController.loopTest at ht
  rw [h.streaming, h.unstopped, Bool.not_false, Bool.true_and, if_pos rfl] at ht
  split at ht
  · cases ht
  · cases ht
    exact ⟨rfl, rfl⟩

/-- **A loop on the air goes on**, from the sleep to a frame and back by way of a broadcast. -/
theorem captureLoop_onAir (h : OnAir c) (hno : pc = .sleeping → ∀ e, capture ≠ .throws e)
    (hc : c.captureLoop P capture alive pc = some (c', next, sends)) :
    OnAir c' ∧ ∃ pc', next = some pc' ∧ Turn c capture alive pc sends pc' := by
  cases pc with
  | spawned =>
    obtain ⟨⟨c₁, n₁⟩, htest, heq⟩ := Option.map_eq_some_iff.1 hc
    cases heq
    obtain ⟨rfl, rfl⟩ := loopTest_onAir h htest
    exact ⟨h, .sleeping, rfl, .sleeps nofun nofun⟩
  | sleeping =>
    cases capture with
    | throws e => exact absurd rfl (hno rfl e)
    | empty =>
      obtain ⟨⟨c₁, n₁⟩, htest, heq⟩ := Option.map_eq_some_iff.1 hc
      cases heq
      obtain ⟨rfl, rfl⟩ := loopTest_onAir h htest
      exact ⟨h, .sleeping, rfl, .sleeps (fun _ => nofun) nofun⟩
    | frame frame now =>
      cases hc
      exact ⟨⟨h.streaming, h.unstopped⟩, _, rfl, .converts frame now rfl rfl⟩
  | broadcasting frame =>
    obtain ⟨⟨c₁, n₁⟩, htest, heq⟩ := Option.map_eq_some_iff.1 hc
    cases heq
    have h' : OnAir (c.broadcastFrame alive frame).1 := ⟨h.streaming, h.unstopped⟩
    obtain ⟨rfl, rfl⟩ := loopTest_onAir h' htest
    refine ⟨h', .sleeping, rfl, .sleeps nofun fun frame' hpc => ?_⟩
    cases hpc
    rfl

end Loop

/-! ## Every step -/

section Steps

variable {P : Platform} {api : Api} {s s' : Server} {e : ServerEvent P}

/-- A session is sent what is sent to it. -/
theorem sendAll_sends {id : SessionId} {m : Message} (sends : List (SessionId × Message)) :
    ∀ s : Server, (id, m) ∈ sends → ∃ ms,
      ((s.sendAll sends).sessions id).posted = (s.sessions id).posted ++ ms ∧ m ∈ ms := by
  induction sends with
  | nil => exact fun _ => nofun
  | cons x xs ih =>
    intro s hmem
    obtain ⟨ms, hms, -⟩ := sendAll_posted id xs (s.sendTo x.1 x.2)
    rcases List.mem_cons.1 hmem with rfl | hmem
    · refine ⟨m :: ms, hms.trans ?_, List.mem_cons_self⟩
      rw [Server.sendTo_sessions, Server.setSession_self, List.append_cons]
      rfl
    · obtain ⟨ms', hms', hm⟩ := ih (s.sendTo x.1 x.2) hmem
      obtain ⟨before, hbefore, -⟩ := Server.sendTo_posts s x.1 x.2 id
      refine ⟨before ++ ms', hms'.trans ?_, List.mem_append_right _ hm⟩
      rw [hbefore, List.append_assoc]

/-- Who watches and stays connected keeps watching while the stream is on the air. -/
theorem viewer_stays {v : SessionId} (hm : Members s) (h : OnAir s.stream.controller)
    (hv : v ∈ s.stream.controller.viewers) (hopen : (s.sessions v).isOpen = true)
    (hs : (server P api).step s e = some s') : v ∈ s'.stream.controller.viewers := by
  have hadded := hm.viewers v hv
  have hent : s.Entitled v := ⟨hopen, hm.added v hadded, hadded⟩
  cases watchStep_of_step hm hs with
  | quiet keeps frame => exact frame.kept v hv hent
  | granted id σ keeps granted => exact granted.viewers ▸ hv
  | subscribed w ws keeps adding runs =>
    subst runs
    exact List.mem_append_left _ hv
  | cleared cleared forgets =>
    -- `cleanup` does not run while a stream is on
    have hkeeps : KeepsViewers s e := by
      cases e with
      | segment i camera content =>
        intro t _ _ hoff
        cases h.streaming.symm.trans hoff
      | _ => trivial
    cases hopen.symm.trans (forgets.1 hkeeps v hv)
  | ended id keeps ended => exact ended.viewers ▸ hv

/-- A step other than the loop's leaves the loop where it is. -/
theorem OnAir.other (h : OnAir s.stream.controller) (hone : OneLoop s.stream)
    (hstays : StaysOnAir s e) (hs : (server P api).step s e = some s') (hno : ¬RunsLoop s e) :
    OnAir s'.stream.controller ∧ s'.stream.loops = s.stream.loops := by
  by_cases hsegment : ∃ i camera content, e = .segment i camera content
  · obtain ⟨i, camera, content, rfl⟩ := hsegment
    obtain ⟨t, g, hseg⟩ := Server.methodSegment_stream (segmentOf_of_step hs)
    obtain ⟨ht, rfl, hstream⟩ := segment_eq hseg
    rw [hstream]
    cases Pc.run_effect P s.stream.controller ⟨camera, content, s.alive⟩ t.pc with
    | started cameraIndex resolution fps call begins =>
      cases h.streaming.symm.trans begins.idle
    | failed cameraIndex resolution fps call begins idle =>
      cases h.streaming.symm.trans idle
    | stopping call => exact absurd call (hstays t ht)
    | waiting call streaming self spawned =>
      rw [self, spawned]
      exact ⟨h, rfl⟩
    | cleaned call idle => cases h.streaming.symm.trans idle
    | quiet other same spawned =>
      rw [spawned]
      exact ⟨h.of_same same, rfl⟩
  · have hquiet := runsNoMethod_of_step hs fun i camera content he =>
      hsegment ⟨i, camera, content, he⟩
    have hloops := hquiet.loops fun i capture he => hno ⟨i, capture, he⟩
    refine ⟨?_, hloops⟩
    rcases hquiet.stream with hoff | hsame
    · have hlive := (hone.server_step hs).live
      rw [hoff, if_neg Bool.false_ne_true, hloops, hone.live, h.streaming] at hlive
      cases hlive
    · exact h.of_same hsame

/-- A step of the loop takes it one turn further. -/
theorem OnAir.loop (h : OnAir s.stream.controller) (hone : OneLoop s.stream)
    (hstays : StaysOnAir s e) (hs : (server P api).step s e = some s') (hrun : RunsLoop s e) :
    OnAir s'.stream.controller ∧ ∃ capture pc sends pc', e = .loop 0 capture ∧
      s.stream.loops = [pc] ∧ s'.stream.loops = [pc'] ∧
      Turn s.stream.controller capture s.alive pc sends pc' ∧
      ∃ stream, s' = (s.setStream stream).sendAll sends := by
  obtain ⟨i, capture, rfl⟩ := hrun
  obtain ⟨⟨stream, sends⟩, hloop, rfl⟩ := Option.map_eq_some_iff.1 (segmentOf_of_step hs)
  obtain ⟨pc, c, next, hi, hc, rfl⟩ := loop_eq hloop
  obtain ⟨-, hlen, rfl⟩ := hone.busy (List.getElem?_eq_some_iff.1 hi).1
  obtain ⟨pc', hloops⟩ := List.length_eq_one_iff.1 hlen
  rw [hloops] at hi
  obtain rfl : pc' = pc := Option.some.inj hi
  have hno : pc' = .sleeping → ∀ e, capture ≠ .throws e := by
    rintro rfl e rfl
    refine hstays ?_
    rw [hloops]
    rfl
  obtain ⟨hon, pc₁, rfl, hturn⟩ := captureLoop_onAir h hno hc
  rw [Server.sendAll_stream]
  refine ⟨hon, capture, pc', sends, pc₁, rfl, hloops, ?_, hturn, _, rfl⟩
  simp only [Server.setStream, hloops]
  rfl

theorem OnAir.step (h : OnAir s.stream.controller) (hone : OneLoop s.stream)
    (hstays : StaysOnAir s e) (hs : (server P api).step s e = some s') :
    OnAir s'.stream.controller := by
  by_cases hrun : RunsLoop s e
  · exact (h.loop hone hstays hs hrun).1
  · exact (h.other hone hstays hs hrun).1

/-- The loop is only moved by its own segments. -/
theorem runsLoop_of_loops (h : OnAir s.stream.controller) (hone : OneLoop s.stream)
    (hstays : StaysOnAir s e) (hs : (server P api).step s e = some s')
    (hmoved : s'.stream.loops ≠ s.stream.loops) : RunsLoop s e := by
  by_contra hno
  exact hmoved (h.other hone hstays hs hno).2

end Steps

/-! ## Executions -/

/-- What is the case as long as the stream is on the air. -/
structure Serves (s : Server) (v : SessionId) : Prop where
  onAir : OnAir s.stream.controller
  oneLoop : OneLoop s.stream
  members : Members s
  viewer : v ∈ s.stream.controller.viewers
  isOpen : (s.sessions v).isOpen = true

section Executions

variable {P : Platform} {api : Api} {x : (server P api).Execution} {v : SessionId}

theorem Serves.always {n : Nat} (h : Serves (x.state n) v)
    (hstays : ∀ m, n ≤ m → StaysOnAir (x.state m) (x.event m))
    (hopen : ∀ m, n ≤ m → ((x.state m).sessions v).isOpen = true) :
    ∀ m, n ≤ m → Serves (x.state m) v := by
  intro m hnm
  induction m, hnm using Nat.le_induction with
  | base => exact h
  | succ m hnm ih =>
    have hs := x.step m
    exact ⟨ih.onAir.step ih.oneLoop (hstays m hnm) hs, ih.oneLoop.server_step hs,
      ih.members.step hs, viewer_stays ih.members ih.onAir ih.viewer ih.isOpen hs,
      hopen (m + 1) (Nat.le_succ_of_le hnm)⟩

theorem Serves.alive {s : Server} (h : Serves s v) : s.alive v = true := by
  have hadded := h.members.viewers v h.viewer
  exact h.members.alive ⟨h.isOpen, h.members.added v hadded, hadded⟩

theorem Serves.loops {s : Server} (h : Serves s v) : ∃ pc, s.stream.loops = [pc] := by
  have hlive := h.oneLoop.live
  rw [h.onAir.streaming, if_pos rfl] at hlive
  exact List.length_eq_one_iff.1 hlive

/-- **The loop turns**: wherever it is suspended, it takes its next segment some time. -/
theorem Serves.turns {n : Nat} (h : ∀ m, n ≤ m → Serves (x.state m) v)
    (hstays : ∀ m, n ≤ m → StaysOnAir (x.state m) (x.event m))
    (hloops : x.Fair (fun s => s.stream.loops ≠ []) RunsLoop) {pc : LoopPc}
    (hpc : (x.state n).stream.loops = [pc]) : ∃ m, n ≤ m ∧ ∃ capture sends pc',
      x.event m = .loop 0 capture ∧ (x.state (m + 1)).stream.loops = [pc'] ∧
      Turn (x.state m).stream.controller capture (x.state m).alive pc sends pc' ∧
      ∃ stream, x.state (m + 1) = ((x.state m).setStream stream).sendAll sends := by
  have hfair : x.Fair (fun s => s.stream.loops = [pc]) RunsLoop :=
    hloops.mono fun m hm => hm ▸ List.cons_ne_nil _ _
  obtain ⟨m, hnm, hm, hrun⟩ := hfair.exists_step hpc
  have hserves := h m hnm
  have hruns : RunsLoop (x.state m) (x.event m) := by
    rcases hrun with hrun | hmoved
    · exact hrun
    · refine runsLoop_of_loops hserves.onAir hserves.oneLoop (hstays m hnm) (x.step m) ?_
      rw [hm]
      exact hmoved
  obtain ⟨-, capture, pc₀, sends, pc', he, hpc₀, hpc', hturn, hsends⟩ :=
    hserves.onAir.loop hserves.oneLoop (hstays m hnm) (x.step m) hruns
  rw [hm] at hpc₀
  cases hpc₀
  exact ⟨m, hnm, capture, sends, pc', he, hpc', hturn, hsends⟩

/-- From the sleep the loop comes to a broadcast, once the camera delivers. -/
theorem Serves.converts {n : Nat} (h : ∀ m, n ≤ m → Serves (x.state m) v)
    (hstays : ∀ m, n ≤ m → StaysOnAir (x.state m) (x.event m))
    (hcamera : x.Fair (fun s => s.stream.loops = [.sleeping]) Delivers)
    (hpc : (x.state n).stream.loops = [.sleeping]) :
    ∃ m, n ≤ m ∧ ∃ frame, (x.state m).stream.loops = [.broadcasting frame] := by
  obtain ⟨m, hnm, hm, hstep⟩ := hcamera.exists_step hpc
  have hserves := h m hnm
  have hruns : RunsLoop (x.state m) (x.event m) := by
    rcases hstep with ⟨i, frame, now, he⟩ | hmoved
    · exact ⟨i, _, he⟩
    · refine runsLoop_of_loops hserves.onAir hserves.oneLoop (hstays m hnm) (x.step m) ?_
      rw [hm]
      exact hmoved
  obtain ⟨-, capture, pc, sends, pc', he, hpc₀, hpc', hturn, -⟩ :=
    hserves.onAir.loop hserves.oneLoop (hstays m hnm) (x.step m) hruns
  rw [hm] at hpc₀
  cases hpc₀
  cases hturn with
  | converts frame now => exact ⟨m + 1, Nat.le_succ_of_le hnm, frame.bytes, hpc'⟩
  | sleeps noFrame =>
    rcases hstep with ⟨i, frame, now, he'⟩ | hmoved
    · cases he.symm.trans he'
      exact absurd rfl (noFrame rfl frame now)
    · exact absurd hpc' hmoved

/-- And by the broadcast the viewer is sent the frame. -/
theorem Serves.broadcasts {n : Nat} (h : ∀ m, n ≤ m → Serves (x.state m) v)
    (hstays : ∀ m, n ≤ m → StaysOnAir (x.state m) (x.event m))
    (hloops : x.Fair (fun s => s.stream.loops ≠ []) RunsLoop) {frame : Bytes}
    (hpc : (x.state n).stream.loops = [.broadcasting frame]) :
    ∃ m, n ≤ m ∧ Sent (x.state m) (x.state (m + 1)) v (.live frame) := by
  obtain ⟨m, hnm, capture, sends, pc', -, -, hturn, stream, hsends⟩ := turns h hstays hloops hpc
  refine ⟨m, hnm, ?_⟩
  cases hturn with
  | converts frame' now sleeping => cases sleeping
  | sleeps noFrame broadcast =>
    have hmem : (v, Message.live frame) ∈ sends := by
      rw [broadcast frame rfl]
      refine List.mem_map_of_mem ?_
      exact List.mem_filter.2 ⟨(h m hnm).viewer, (h m hnm).alive⟩
    rw [hsends]
    exact sendAll_sends sends _ hmem

end Executions

/-- **Viewers are served.** From a moment on a stream is on the air, nobody asks it to stop, and
neither the camera nor the converter throws; the event loop attends to the capture loop, and the
camera delivers. Then whoever watches at that moment and stays connected is sent live frames for
ever. -/
theorem viewers_served (P : Platform) (api : Api) (x : (server P api).Execution)
    (hinit : x.state 0 = {}) (hloops : x.Fair (fun s => s.stream.loops ≠ []) RunsLoop)
    (hcamera : x.Fair (fun s => s.stream.loops = [.sleeping]) Delivers) (n : Nat)
    (honAir : OnAir (x.state n).stream.controller)
    (hstays : ∀ m, n ≤ m → StaysOnAir (x.state m) (x.event m)) (v : SessionId)
    (hviewer : v ∈ (x.state n).stream.controller.viewers)
    (hopen : ∀ m, n ≤ m → ((x.state m).sessions v).isOpen = true) :
    ∀ k, ∃ m, k ≤ m ∧ ∃ frame, Sent (x.state m) (x.state (m + 1)) v (.live frame) := by
  have hmembers : ∀ m, Members (x.state m) := by
    intro m
    induction m with
    | zero => exact hinit ▸ .init
    | succ m ih => exact ih.step (x.step m)
  have hserves : ∀ m, n ≤ m → Serves (x.state m) v :=
    Serves.always ⟨honAir, oneLoop_always hinit n, hmembers n, hviewer, hopen n (Nat.le_refl n)⟩
      hstays hopen
  -- from any later moment on, wherever the loop is suspended there
  have hlater : ∀ k, n ≤ k → ∃ m, k ≤ m ∧ ∃ frame,
      Sent (x.state m) (x.state (m + 1)) v (.live frame) := by
    intro k hnk
    have hfrom : ∀ l, k ≤ l → (∀ m, l ≤ m → Serves (x.state m) v) ∧
        ∀ m, l ≤ m → StaysOnAir (x.state m) (x.event m) := by
      intro l hkl
      exact ⟨fun m hlm => hserves m (by omega), fun m hlm => hstays m (by omega)⟩
    have hsleep : ∀ l, k ≤ l → (x.state l).stream.loops = [.sleeping] → ∃ m, k ≤ m ∧ ∃ frame,
        Sent (x.state m) (x.state (m + 1)) v (.live frame) := by
      intro l hkl hpc
      obtain ⟨m, hlm, frame, hm⟩ := Serves.converts (hfrom l hkl).1 (hfrom l hkl).2 hcamera hpc
      obtain ⟨hserves', hstays'⟩ := hfrom m (by omega)
      obtain ⟨j, hmj, hsent⟩ := Serves.broadcasts hserves' hstays' hloops hm
      exact ⟨j, by omega, frame, hsent⟩
    obtain ⟨pc, hpc⟩ := (hserves k hnk).loops
    obtain ⟨m, hkm, capture, sends, pc', -, hpc', hturn, -⟩ :=
      Serves.turns (hfrom k (Nat.le_refl k)).1 (hfrom k (Nat.le_refl k)).2 hloops hpc
    cases hturn with
    | sleeps noFrame broadcast => exact hsleep (m + 1) (by omega) hpc'
    | converts frame now =>
      obtain ⟨hserves', hstays'⟩ := hfrom (m + 1) (by omega)
      obtain ⟨j, hmj, hsent⟩ := Serves.broadcasts hserves' hstays' hloops hpc'
      exact ⟨j, by omega, frame.bytes, hsent⟩
  intro k
  obtain ⟨m, hkm, hsent⟩ := hlater (max n k) (Nat.le_max_left n k)
  exact ⟨m, Nat.le_trans (Nat.le_max_right n k) hkm, hsent⟩

/-! ### A camera that delivers for ever -/

/-- A stream is on the air, and its controller is the only client. -/
structure Alone (s : Server) : Prop where
  onAir : OnAir s.stream.controller
  fps : s.stream.controller.fps = 10
  loops : s.stream.loops = [.sleeping] ∨ ∃ frame, s.stream.loops = [.broadcasting frame]
  nextId : s.nextId = 2
  reader : (s.sessions 1).reader = .reading
  isOpen : (s.sessions 1).isOpen = true

/-- The camera delivers, or what it has delivered is broadcast. -/
def delivered : ServerEvent x86_64 := .loop 0 (.frame sampleFrame 0)

theorem Alone.quiescent {s : Server} (h : Alone s) : s.quiescent = true := by
  have hzero : s.due 0 = false := rfl
  have hone : s.due 1 = false := by
    have hreading : (Reader.reading != Reader.finished) = true := rfl
    simp only [Server.due, Server.referenced, h.reader, hreading, Bool.true_or, Bool.not_true,
      Bool.and_false]
  simp only [Server.quiescent, h.nextId, List.all_eq_true, List.mem_range, Bool.not_eq_true']
  intro id hid
  obtain rfl | rfl : id = 0 ∨ id = 1 := by omega
  · exact hzero
  · exact hone

/-- The segment of the only loop. -/
theorem loop_of_captureLoop {P : Platform} {s : StreamSystem} {capture : Capture P}
    {alive : SessionId → Bool} {pc pc' : LoopPc} {c : StreamController}
    {sends : List (SessionId × Message)} (hpc : s.loops = [pc])
    (hc : s.controller.captureLoop P capture alive pc = some (c, some pc', sends)) :
    s.loop P 0 capture alive = some ({ s with controller := c, loops := [pc'] }, sends) := by
  simp only [StreamSystem.loop, hpc, List.getElem?_cons_zero, hc, Option.map_some]
  rfl

theorem Alone.turn {s : Server} (h : Alone s) : ∃ c pc sends,
    s.stream.loop x86_64 0 (.frame sampleFrame 0) s.alive =
      some ({ s.stream with controller := c, loops := [pc] }, sends) ∧ OnAir c ∧ c.fps = 10 ∧
      (pc = .sleeping ∨ ∃ frame, pc = .broadcasting frame) := by
  rcases h.loops with hloops | ⟨frame, hloops⟩
  · exact ⟨_, _, _, loop_of_captureLoop hloops rfl, ⟨h.onAir.streaming, h.onAir.unstopped⟩, h.fps,
      Or.inr ⟨_, rfl⟩⟩
  · have htest : (s.stream.controller.broadcastFrame s.alive frame).1.loopTest =
        some ((s.stream.controller.broadcastFrame s.alive frame).1, some .sleeping) := by
      simp [StreamController.loopTest, StreamController.broadcastFrame, h.onAir.streaming,
        h.onAir.unstopped, h.fps]
    have hc : s.stream.controller.captureLoop x86_64 (.frame sampleFrame 0) s.alive
        (.broadcasting frame) = some ((s.stream.controller.broadcastFrame s.alive frame).1,
          some .sleeping, (s.stream.controller.broadcastFrame s.alive frame).2) := by
      simp only [StreamController.captureLoop, htest, Option.map_some]
    exact ⟨_, _, _, loop_of_captureLoop hloops hc, ⟨h.onAir.streaming, h.onAir.unstopped⟩, h.fps,
      Or.inl rfl⟩

theorem Alone.step {s : Server} (h : Alone s) :
    ∃ s', (server x86_64 sampleApi).step s delivered = some s' ∧ Alone s' := by
  obtain ⟨c, pc, sends, hloop, honAir, hfps, hpc⟩ := h.turn
  let turned := s.setStream { s.stream with controller := c, loops := [pc] }
  have hsame : SameHandler (turned.sessions 1) ((turned.sendAll sends).sessions 1) :=
    sendAll_handler sends turned
  have hcalm := sendAll_calm turned sends 1
  refine ⟨_, (if_pos h.quiescent).trans (congrArg (Option.map _) hloop), ?_, ?_, ?_, ?_, ?_, ?_⟩
  · rw [Server.sendAll_stream]
    exact honAir
  · rw [Server.sendAll_stream]
    exact hfps
  · rw [Server.sendAll_stream]
    rcases hpc with rfl | ⟨frame, rfl⟩
    · exact Or.inl rfl
    · exact Or.inr ⟨frame, rfl⟩
  · exact (Server.sendAll_population _ sends).1.trans h.nextId
  · exact hsame.reader.trans h.reader
  · exact hcalm.isOpen.trans h.isOpen

/-- A controller starts a stream. -/
def goesOnAir : List (ServerEvent x86_64) :=
  joins 1 ++ [tells 1 "controller", .runAddViewer, tells 1 "config", .segment 0 .working none,
    .loop 0 .empty]

theorem viewers_served_goesOnAir : ∃ x : (server x86_64 sampleApi).Execution,
    x.state 0 = {} ∧ (∃ n, OnAir (x.state n).stream.controller ∧
      1 ∈ (x.state n).stream.controller.viewers) ∧
    ∀ k, ∃ m, k ≤ m ∧ ∃ frame, Sent (x.state m) (x.state (m + 1)) 1 (.live frame) := by
  have hfacts : ((server x86_64 sampleApi).run {} goesOnAir).any (fun s =>
      s.stream.controller.isStreaming && !s.stream.controller.stopRequested &&
        s.stream.controller.fps == 10 && s.stream.loops == [.sleeping] && s.nextId == 2 &&
        (s.sessions 1).reader == .reading && (s.sessions 1).isOpen &&
        s.stream.controller.viewers == [1]) = true := by decide +kernel
  obtain ⟨s, hrun, hfacts⟩ := (Option.any_eq_true _ _).1 hfacts
  simp only [Bool.and_eq_true, beq_iff_eq, Bool.not_eq_true'] at hfacts
  obtain ⟨⟨⟨⟨⟨⟨⟨hon, hstop⟩, hfps⟩, hloops⟩, hnext⟩, hreader⟩, hopen⟩, hviewers⟩ := hfacts
  have halone : Alone s := ⟨⟨hon, hstop⟩, hfps, Or.inl hloops, hnext, hreader, hopen⟩
  obtain ⟨y, hy, hyalone⟩ := Execution.exists_of_invariant Alone.step halone
  obtain ⟨x, hx, -, -, hxend⟩ := Execution.exists_extension (C := fun _ _ => True) y (hy ▸ hrun)
    (.of_forall (fun _ _ => trivial) _ _) fun _ => trivial
  have hlater : ∀ m, goesOnAir.length ≤ m → Alone (x.state m) ∧ x.event m = delivered := by
    intro m hm
    obtain ⟨k, rfl⟩ := Nat.exists_eq_add_of_le hm
    rw [(hxend k).1, (hxend k).2]
    exact hyalone k
  have hevent : ∀ n, ∃ m, n ≤ m ∧ x.event m = delivered := fun n =>
    ⟨max goesOnAir.length n, Nat.le_max_right _ _, (hlater _ (Nat.le_max_left _ _)).2⟩
  have hstate : x.state goesOnAir.length = s := (hxend 0).1.trans hy
  have hviewer : 1 ∈ (x.state goesOnAir.length).stream.controller.viewers := by
    rw [hstate, hviewers]
    exact List.mem_singleton_self 1
  refine ⟨x, hx, ⟨goesOnAir.length, hstate ▸ halone.onAir, hviewer⟩, ?_⟩
  refine viewers_served x86_64 sampleApi x hx ?_ ?_ goesOnAir.length (hstate ▸ halone.onAir)
    (fun m hm => ?_) 1 hviewer fun m hm => (hlater m hm).1.isOpen
  · intro n _
    obtain ⟨m, hm, he⟩ := hevent n
    exact ⟨m, hm, 0, _, he⟩
  · intro n _
    obtain ⟨m, hm, he⟩ := hevent n
    exact ⟨m, hm, 0, sampleFrame, 0, he⟩
  · rw [(hlater m hm).2]
    trivial

end AsciiStreamer
