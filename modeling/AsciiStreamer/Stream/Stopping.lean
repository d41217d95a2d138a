import AsciiStreamer.Stream.CaptureLoop

/-!
# What a capture loop still does once it has been asked to stop

`capture_loop` tests `stop_requested_` at the top of its iteration only, and the stop does not touch
the timer the loop sleeps on. So a loop that sleeps when it is stopped takes one more frame, and no
loop takes another: from each of its three places it comes back to the test once, and until then
nobody can start a stream and reset the flag (`accepted_stop_honoured`).
-/

namespace AsciiStreamer

open Cxx

/-- What a live capture loop has done since some point. -/
structure LoopTally where
  live : Bool := true
  captured : Nat := 0
  recorded : Nat := 0
  broadcast : Nat := 0
  deriving DecidableEq, Repr

/-- The calls of `capture_frame`, `write_frame` and `broadcast_frame` in a segment of the loop. -/
def LoopTally.segment {P : Platform} (r : LoopTally) (isRecording : Bool) (capture : Capture P) :
    LoopPc → LoopTally
  | .spawned => r
  | .sleeping => match capture with
    | .frame _ _ => { r with
        captured := r.captured + 1
        recorded := r.recorded + if isRecording then 1 else 0 }
    | _ => { r with captured := r.captured + 1 }
  | .broadcasting _ => { r with broadcast := r.broadcast + 1 }

/-- The tally is kept until the loop has finished. -/
def LoopTally.step {P : Platform} (s : StreamSystem) (e : StreamEvent P) (s' : StreamSystem)
    (r : LoopTally) : LoopTally :=
  if r.live then
    let r := match e with
      | .loop i capture _ => match s.loops[i]? with
        | some pc => r.segment s.controller.recorder.controller.isRecording capture pc
        | none => r
      | _ => r
    { r with live := !s'.loops.isEmpty }
  else r

/-! ## The invariant -/

/-- Where a stopped loop is, and what it can have done by then. -/
inductive Winding : LoopPc → LoopTally → Prop
  | untouched (pc : LoopPc) : Winding pc {}
  | last (frame : Bytes) (recorded : Nat) (once : recorded ≤ 1) :
    Winding (.broadcasting frame) { captured := 1, recorded := recorded }

/-- A live loop that has been stopped is on its way out, and it has done at most one of each. -/
structure WindingUp (s : StreamSystem) (r : LoopTally) : Prop where
  oneLoop : OneLoop s
  stopping : r.live = true → s.controller.stopRequested = true ∧
    ∃ pc, s.loops = [pc] ∧ Winding pc r
  captured : r.captured ≤ 1
  recorded : r.recorded ≤ 1
  broadcast : r.broadcast ≤ 1

section Steps

variable {P : Platform} {s s' : StreamSystem} {e : StreamEvent P} {r : LoopTally}

/-- A loop that has been asked to stop ends at its test. -/
theorem loopTest_of_stopRequested {c : StreamController} (h : c.stopRequested = true) :
    c.loopTest = some ({ c with isStreaming := false }, none) := by
  unfold StreamController.loopTest
  rw [h, Bool.not_true, Bool.false_and, if_neg Bool.false_ne_true]

/-- The next segment of a loop that has been asked to stop: its last, unless it has a frame to
broadcast. -/
theorem captureLoop_of_stopRequested {c c' : StreamController} {capture : Capture P}
    {alive : SessionId → Bool} {pc : LoopPc} {next : Option LoopPc}
    {sends : List (SessionId × Message)} (hstop : c.stopRequested = true)
    (h : c.captureLoop P capture alive pc = some (c', next, sends)) :
    next = none ∨ c'.stopRequested = true ∧ pc = .sleeping ∧
      ∃ frame now, capture = .frame frame now ∧ next = some (.broadcasting frame.bytes) := by
  cases pc with
  | spawned =>
    rw [StreamController.captureLoop, loopTest_of_stopRequested hstop] at h
    cases h
    exact Or.inl rfl
  | sleeping =>
    cases capture with
    | throws e =>
      cases h
      exact Or.inl rfl
    | empty =>
      rw [StreamController.captureLoop, loopTest_of_stopRequested hstop] at h
      cases h
      exact Or.inl rfl
    | frame frame now =>
      cases h
      exact Or.inr ⟨hstop, rfl, frame, now, rfl, rfl⟩
  | broadcasting frame =>
    have hstop' : (c.broadcastFrame alive frame).1.stopRequested = true := hstop
    simp only [StreamController.captureLoop, loopTest_of_stopRequested hstop'] at h
    cases h
    exact Or.inl rfl

/-- While a loop is live, no method resets the flag or ends the loop. -/
theorem segment_keeps_stop {i : Nat} {env : Env} (h : OneLoop s) (hlive : s.loops ≠ [])
    (hstop : s.controller.stopRequested = true)
    (hs : (streaming P).step s (.segment i env) = some s') :
    s'.controller.stopRequested = true ∧ s'.loops = s.loops := by
  have hon : s.controller.isStreaming = true := by
    obtain ⟨pc, pcs, hcons⟩ := List.exists_cons_of_ne_nil hlive
    have hlt : 0 < s.loops.length := by rw [hcons]; exact Nat.succ_pos _
    exact (h.busy hlt).1
  obtain ⟨⟨s₁, t, g⟩, hseg, heq⟩ := Option.map_eq_some_iff.1 hs
  obtain ⟨-, hg, hs₁⟩ := segment_eq hseg
  obtain rfl : s₁ = s' := heq
  have hc : s₁.controller = g.self := by rw [hs₁]
  have hl : s₁.loops = if g.spawned then s.loops ++ [.spawned] else s.loops := by rw [hs₁]
  have heff := Pc.run_effect P s.controller env t.pc
  rw [← hg] at heff
  rw [hc, hl]
  cases heff with
  | started cameraIndex resolution fps call begins hsp hnc hon' hstop' hopen hnext =>
    cases hon.symm.trans begins.idle
  | failed cameraIndex resolution fps call begins idle hsp hnc hoff hstop' hnext =>
    cases hon.symm.trans idle
  | stopping call streaming self hsp hnc hnext =>
    rw [self, hsp]
    exact ⟨rfl, rfl⟩
  | waiting call streaming self hsp hnc hnext =>
    rw [self, hsp]
    exact ⟨hstop, rfl⟩
  | cleaned call idle self hsp hnc hnext => cases hon.symm.trans idle
  | quiet other same hsp hnc hnext begins =>
    rw [same.stopRequested, hsp]
    exact ⟨hstop, rfl⟩

/-- Nothing but methods and loops touches the flag and the loops. -/
theorem other_keeps_stop (hsegment : ∀ i env, e ≠ .segment i env)
    (hloop : ∀ i capture alive, e ≠ .loop i capture alive)
    (hs : (streaming P).step s e = some s') :
    s'.controller.stopRequested = s.controller.stopRequested ∧ s'.loops = s.loops := by
  cases e with
  | segment i env => exact absurd rfl (hsegment i env)
  | loop i capture alive => exact absurd rfl (hloop i capture alive)
  | invoke caller call =>
    cases hs
    exact ⟨rfl, rfl⟩
  | addViewer viewer =>
    cases hs
    exact ⟨rfl, rfl⟩
  | runAddViewer =>
    obtain ⟨v, vs, -, rfl⟩ := runAddViewer_eq hs
    exact ⟨rfl, rfl⟩
  | startRecording t now fileOpens =>
    cases hs
    exact ⟨(startRecording_same _ t now fileOpens).stopRequested, rfl⟩
  | stopRecording now =>
    cases hs
    exact ⟨(stopRecording_same _ now).stopRequested, rfl⟩
  | playbackExpire =>
    obtain ⟨p, rfl⟩ := playbackExpire_eq hs
    exact ⟨rfl, rfl⟩
  | playbackHandler k =>
    obtain ⟨⟨s₁, sends⟩, hk, rfl⟩ := Option.map_eq_some_iff.1 hs
    obtain ⟨o, rfl, -⟩ := playbackHandler_eq hk
    exact ⟨rfl, rfl⟩

end Steps

/-! ## Every step, every run -/

section Runs

variable {P : Platform} {s s' : StreamSystem} {e : StreamEvent P} {r : LoopTally}

/-- What is counted for a segment of a loop that is on its way out. -/
theorem Winding.segment {pc : LoopPc} (h : Winding pc r) (isRecording : Bool)
    (capture : Capture P) : (r.segment isRecording capture pc).captured ≤ 1 ∧
      (r.segment isRecording capture pc).recorded ≤ 1 ∧
      (r.segment isRecording capture pc).broadcast ≤ 1 := by
  cases h with
  | untouched =>
    cases pc with
    | spawned => exact ⟨Nat.zero_le 1, Nat.zero_le 1, Nat.zero_le 1⟩
    | sleeping =>
      cases capture with
      | throws e => exact ⟨Nat.le_refl 1, Nat.zero_le 1, Nat.zero_le 1⟩
      | empty => exact ⟨Nat.le_refl 1, Nat.zero_le 1, Nat.zero_le 1⟩
      | frame frame now =>
        refine ⟨Nat.le_refl 1, ?_, Nat.zero_le 1⟩
        cases isRecording with
        | false => exact Nat.zero_le 1
        | true => exact Nat.le_refl 1
    | broadcasting frame => exact ⟨Nat.zero_le 1, Nat.zero_le 1, Nat.le_refl 1⟩
  | last frame recorded once => exact ⟨Nat.le_refl 1, once, Nat.le_refl 1⟩

/-- A step that is none of the loop leaves the tally. -/
theorem tally_of_other (hlive : r.live = true) (hloops : s'.loops ≠ [])
    (hloop : ∀ i capture alive, e ≠ .loop i capture alive) : r.step s e s' = r := by
  have hempty : (!s'.loops.isEmpty) = r.live := by
    rw [hlive, Bool.not_eq_true', List.isEmpty_eq_false_iff]
    exact hloops
  unfold LoopTally.step
  rw [if_pos hlive, hempty]
  cases e with
  | loop i capture alive => exact absurd rfl (hloop i capture alive)
  | _ => rfl

/-- The tally of a segment of the loop. -/
theorem tally_of_loop {i : Nat} {capture : Capture P} {alive : SessionId → Bool} {pc : LoopPc}
    (hlive : r.live = true) (hpc : s.loops[i]? = some pc) :
    r.step s (.loop i capture alive) s' =
      { r.segment s.controller.recorder.controller.isRecording capture pc with
        live := !s'.loops.isEmpty } := by
  unfold LoopTally.step
  rw [if_pos hlive]
  simp only [hpc]

/-- Where the loop is not moved, its tally and the flag stay as they are. -/
theorem WindingUp.of_same (h : WindingUp s r) (hone : OneLoop s')
    (hstop : r.live = true → s'.controller.stopRequested = true) (hloops : s'.loops = s.loops) :
    WindingUp s' r := by
  refine ⟨hone, fun hlive => ?_, h.captured, h.recorded, h.broadcast⟩
  obtain ⟨-, pc, hpc, hw⟩ := h.stopping hlive
  exact ⟨hstop hlive, pc, hloops.trans hpc, hw⟩

/-- A segment of the loop is its last, or it takes the one frame that is still to be broadcast. -/
theorem WindingUp.loop {i : Nat} {capture : Capture P} {alive : SessionId → Bool}
    (h : WindingUp s r) (hlive : r.live = true)
    (hs : (streaming P).step s (.loop i capture alive) = some s') :
    WindingUp s' (r.step s (.loop i capture alive) s') := by
  have hone := h.oneLoop.step hs
  obtain ⟨hstop, pc, hpc, hw⟩ := h.stopping hlive
  obtain ⟨⟨s₁, sends⟩, hloop, heq⟩ := Option.map_eq_some_iff.1 hs
  obtain rfl : s₁ = s' := heq
  obtain ⟨pc', c, next, hi, hc, hs₁⟩ := loop_eq hloop
  have hlt : i < s.loops.length := (List.getElem?_eq_some_iff.1 hi).1
  obtain ⟨-, -, rfl⟩ := h.oneLoop.busy hlt
  have hloops : s₁.loops = proceed s.loops 0 next := by rw [hs₁]
  have hcontroller : s₁.controller = c := by rw [hs₁]
  rw [hpc] at hi hloops
  obtain rfl : pc = pc' := Option.some.inj hi
  have hcounts := hw.segment s.controller.recorder.controller.isRecording capture
  rw [tally_of_loop hlive (by rw [hpc]; rfl)]
  refine ⟨hone, fun hlive' => ?_, hcounts.1, hcounts.2.1, hcounts.2.2⟩
  rcases captureLoop_of_stopRequested hstop hc with
    hnone | ⟨hstop', hsleeping, frame, now, hcapture, hsome⟩
  · -- the loop has finished
    subst hnone
    rw [hloops] at hlive'
    cases hlive'
  · subst hsome hsleeping hcapture
    refine ⟨hcontroller ▸ hstop', .broadcasting frame.bytes, hloops, ?_⟩
    cases hw with
    | untouched =>
      rw [hloops]
      refine .last frame.bytes _ ?_
      cases s.controller.recorder.controller.isRecording with
      | false => exact Nat.zero_le 1
      | true => exact Nat.le_refl 1

theorem WindingUp.step (h : WindingUp s r) (hs : (streaming P).step s e = some s') :
    WindingUp s' (r.step s e s') := by
  have hone := h.oneLoop.step hs
  cases hlive : r.live with
  | false =>
    have hr : r.step s e s' = r := by
      unfold LoopTally.step
      rw [hlive, if_neg Bool.false_ne_true]
    rw [hr]
    refine ⟨hone, fun hon => ?_, h.captured, h.recorded, h.broadcast⟩
    cases hlive.symm.trans hon
  | true =>
    obtain ⟨hstop, pc, hpc, -⟩ := h.stopping hlive
    have hne : s.loops ≠ [] := by
      rw [hpc]
      exact List.cons_ne_nil _ _
    by_cases hloop : ∃ i capture alive, e = .loop i capture alive
    · obtain ⟨i, capture, alive, rfl⟩ := hloop
      exact h.loop hlive hs
    · have hloop' : ∀ i capture alive, e ≠ .loop i capture alive :=
        fun i capture alive he => hloop ⟨i, capture, alive, he⟩
      have hsame : s'.controller.stopRequested = true ∧ s'.loops = s.loops := by
        by_cases hsegment : ∃ i env, e = .segment i env
        · obtain ⟨i, env, rfl⟩ := hsegment
          exact segment_keeps_stop h.oneLoop hne hstop hs
        · have hother := other_keeps_stop (fun i env he => hsegment ⟨i, env, he⟩) hloop' hs
          exact ⟨hother.1.trans hstop, hother.2⟩
      rw [tally_of_other hlive (hsame.2 ▸ hne) hloop']
      exact h.of_same hone (fun _ => hsame.1) hsame.2

theorem stopStreaming_of_streaming {c : StreamController} (hon : c.isStreaming = true) :
    c.stopStreaming = { self := { c with stopRequested := true }, next := .inl .polling } := by
  simp only [StreamController.stopStreaming, StreamController.poll, hon, Bool.not_true,
    Bool.false_eq_true, ↓reduceIte]

/-- A stop that finds a live loop sets the flag and leaves the loop to itself. -/
theorem windingUp_of_stop {i : Nat} {env : Env} {t : Task} (h : OneLoop s)
    (hlive : s.loops ≠ []) (ht : s.tasks[i]? = some t) (hpc : t.pc = .dispatch .stopStreaming)
    (hs : (streaming P).step s (.segment i env) = some s') : WindingUp s' {} := by
  have hone := h.step hs
  obtain ⟨pc, hloops⟩ : ∃ pc, s.loops = [pc] := by
    obtain ⟨pc, pcs, hcons⟩ := List.exists_cons_of_ne_nil hlive
    have hlt : 0 < s.loops.length := by
      rw [hcons]
      exact Nat.succ_pos _
    exact List.length_eq_one_iff.1 (h.busy hlt).2.1
  have hon : s.controller.isStreaming = true := by
    refine (h.busy (i := 0) ?_).1
    rw [hloops]
    exact Nat.one_pos
  obtain ⟨⟨s₁, t', g⟩, hseg, heq⟩ := Option.map_eq_some_iff.1 hs
  obtain ⟨ht', hg, hs₁⟩ := segment_eq hseg
  obtain rfl : s₁ = s' := heq
  obtain rfl : t = t' := Option.some.inj (ht.symm.trans ht')
  have hc : s₁.controller = g.self := by rw [hs₁]
  have hl : s₁.loops = if g.spawned then s.loops ++ [.spawned] else s.loops := by rw [hs₁]
  rw [hpc, Pc.run, stopStreaming_of_streaming hon] at hg
  refine ⟨hone, fun _ => ⟨?_, pc, ?_, .untouched pc⟩, Nat.zero_le 1, Nat.zero_le 1, Nat.zero_le 1⟩
  · rw [hc, hg]
  · rw [hl, hg, if_neg Bool.false_ne_true, hloops]

/-- **An accepted stop is honoured**: in every run in which a stop finds a capture loop live, the
flag stays set until that loop has finished, and until then it captures, records and broadcasts at
most one more frame. -/
theorem accepted_stop_honoured (P : Platform) (es es' : List (StreamEvent P))
    (s s₁ s₂ : StreamSystem) (i : Nat) (env : Env) (t : Task)
    (hrun : (streaming P).run {} es = some s) (hlive : s.loops ≠ [])
    (ht : s.tasks[i]? = some t) (hpc : t.pc = .dispatch .stopStreaming)
    (hstop : (streaming P).step s (.segment i env) = some s₁)
    (hrest : (streaming P).run s₁ es' = some s₂) :
    (((streaming P).record LoopTally.step s₁ es' {}).live = true →
        s₂.controller.stopRequested = true ∧ s₂.loops ≠ []) ∧
      ((streaming P).record LoopTally.step s₁ es' {}).captured ≤ 1 ∧
      ((streaming P).record LoopTally.step s₁ es' {}).recorded ≤ 1 ∧
      ((streaming P).record LoopTally.step s₁ es' {}).broadcast ≤ 1 := by
  have hinit : OneLoop {} := ⟨rfl, nofun, nofun⟩
  have hone : OneLoop s := Machine.run_invariant (fun hi hs => hi.step hs) es hinit hrun
  have h : WindingUp s₂ ((streaming P).record LoopTally.step s₁ es' {}) :=
    Machine.record_invariant (C := fun _ _ => True) (I := WindingUp) (fun h _ hs => h.step hs)
      (windingUp_of_stop hone hlive ht hpc hstop) (.of_forall (fun _ _ => trivial) es' s₁) hrest
  refine ⟨fun hon => ?_, h.captured, h.recorded, h.broadcast⟩
  obtain ⟨hflag, pc, hloops, -⟩ := h.stopping hon
  exact ⟨hflag, hloops ▸ List.cons_ne_nil _ _⟩

/-! ### A stop while the loop sleeps -/

/-- A stream starts and its loop goes to sleep. -/
def asleep : List (StreamEvent x86_64) :=
  [.invoke (.handler 1) (.startStreaming 0 (lit "120x90") 10), .segment 0 working,
    .loop 0 .empty fun _ => true, .invoke (.handler 2) .stopStreaming]

/-- The loop takes a frame, and another start finds the stream still on. -/
def lastFrame : List (StreamEvent x86_64) :=
  [.invoke (.handler 3) (.startStreaming 1 (lit "80x60") 5),
    .loop 0 (.frame ⟨lit "@", by decide⟩ 0) fun _ => true, .segment 1 working,
    .loop 0 .empty fun _ => true]

theorem accepted_stop_honoured_lastFrame : ∃ s s₁ s₂,
    (streaming x86_64).run {} asleep = some s ∧ s.loops ≠ [] ∧
      (streaming x86_64).step s (.segment 0 working) = some s₁ ∧
      (streaming x86_64).run s₁ lastFrame = some s₂ ∧
      (((streaming x86_64).record LoopTally.step s₁ lastFrame {}).live = true →
        s₂.controller.stopRequested = true ∧ s₂.loops ≠ []) ∧
      ((streaming x86_64).record LoopTally.step s₁ lastFrame {}).captured ≤ 1 ∧
      ((streaming x86_64).record LoopTally.step s₁ lastFrame {}).recorded ≤ 1 ∧
      ((streaming x86_64).record LoopTally.step s₁ lastFrame {}).broadcast ≤ 1 := by
  have hruns : ((streaming x86_64).run {} (asleep ++ .segment 0 working :: lastFrame)).isSome =
      true := by decide +kernel
  have hplaces : ((streaming x86_64).run {} asleep).map (fun s => (s.loops, s.tasks)) =
      some ([.sleeping], [⟨.handler 2, .dispatch .stopStreaming⟩]) := by decide +kernel
  obtain ⟨s₂, hs₂⟩ := Option.isSome_iff_exists.1 hruns
  obtain ⟨s, hs, hs₂⟩ := Option.bind_eq_some_iff.1 ((Machine.run_append ..).symm.trans hs₂)
  obtain ⟨s₁, hs₁, hs₂⟩ := Machine.run_cons_some.1 hs₂
  rw [hs, Option.map_some, Option.some.injEq, Prod.mk.injEq] at hplaces
  have hlive : s.loops ≠ [] := hplaces.1 ▸ List.cons_ne_nil _ _
  refine ⟨s, s₁, s₂, hs, hlive, hs₁, hs₂, ?_⟩
  exact accepted_stop_honoured x86_64 asleep lastFrame s s₁ s₂ 0 working
    ⟨.handler 2, .dispatch .stopStreaming⟩ hs hlive (by rw [hplaces.2]; rfl) rfl hs₁ hs₂

end Runs

end AsciiStreamer
