import AsciiStreamer.Lib.Liveness
import AsciiStreamer.Server.Order
import AsciiStreamer.Server.Sessions
import AsciiStreamer.Stream.Stopping

/-!
# A stream that is asked to stop ends

The flag that `stop_streaming` sets stays set while the stream is on (`Stopping`), and a capture loop
that comes to its test with the flag set ends. So the stream ends on a scheduler that attends to the
method and to the loop, whatever else is called meanwhile; in particular it ends after the session of
a controller is gone, by the call of its destructor (`stream_ends_after_controller`).
-/

namespace AsciiStreamer

open Cxx Machine

/-- A segment of the capture loop. -/
def RunsLoop {P : Platform} (_ : Server) (e : ServerEvent P) : Prop := ∃ i capture, e = .loop i capture

/-- The next segment of the method. -/
def RunsTask {P : Platform} (t : Task) (s : Server) (e : ServerEvent P) : Prop :=
  ∃ i camera content, e = .segment i camera content ∧ s.stream.tasks[i]? = some t

/-- How many segments a loop that has been asked to stop still has before it, but for the first. -/
def LoopPc.remaining : LoopPc → Nat
  | .sleeping => 1
  | _ => 0

def Server.remaining (s : Server) : Nat := (s.stream.loops.map LoopPc.remaining).sum

/-- The stream is on, and has been asked to stop. -/
structure Stopping (s : Server) : Prop where
  streaming : s.stream.controller.isStreaming = true
  stopRequested : s.stream.controller.stopRequested = true

section Steps

variable {P : Platform} {api : Api} {s s' : Server} {e : ServerEvent P}

theorem segment_stream {i : Nat} {camera : CameraEnv} {content : Option Bytes}
    (hs : (server P api).step s (.segment i camera content) = some s') :
    (streaming P).step s.stream (.segment i ⟨camera, content, s.alive⟩) = some s'.stream := by
  obtain ⟨t, g, hseg⟩ := Server.methodSegment_stream (segmentOf_of_step hs)
  exact Option.map_eq_some_iff.2 ⟨_, hseg, rfl⟩

/-- A method stays where it is until its next segment. -/
theorem task_stays {t : Task} (ht : t ∈ s.stream.tasks) (hs : (server P api).step s e = some s')
    (hno : ¬RunsTask t s e) : t ∈ s'.stream.tasks := by
  by_cases hsegment : ∃ i camera content, e = .segment i camera content
  · obtain ⟨i, camera, content, rfl⟩ := hsegment
    obtain ⟨t', g, hseg⟩ := Server.methodSegment_stream (segmentOf_of_step hs)
    obtain ⟨-, -, hstream⟩ := segment_eq hseg
    rw [hstream]
    exact mem_proceed ht fun heq => hno ⟨i, camera, content, rfl, heq⟩
  · have hquiet := runsNoMethod_of_step hs fun i camera content he =>
      hsegment ⟨i, camera, content, he⟩
    exact hquiet.tasks.subset ht

/-! ## While the stream stops -/

theorem Stopping.loops (h : Stopping s) (hone : OneLoop s.stream) : ∃ pc, s.stream.loops = [pc] := by
  have hlive := hone.live
  rw [h.streaming, if_pos rfl] at hlive
  exact List.length_eq_one_iff.1 hlive

theorem streaming_of_loops (hone : OneLoop s.stream) (h : s.stream.loops ≠ []) :
    s.stream.controller.isStreaming = true := by
  have hlt : 0 < s.stream.loops.length := List.length_pos_iff.2 h
  exact (hone.busy hlt).1

/-- A segment of the loop: the stream is over, or it has one less before it. -/
theorem Stopping.loop (h : Stopping s) (hone : OneLoop s.stream)
    (hs : (server P api).step s e = some s') (hrun : RunsLoop s e) :
    s'.stream.controller.isStreaming = false ∨ Stopping s' ∧ s'.remaining < s.remaining := by
  have hone' := hone.server_step hs
  obtain ⟨pc, hloops⟩ := h.loops hone
  obtain ⟨i, capture, rfl⟩ := hrun
  obtain ⟨⟨stream, sends⟩, hloop, rfl⟩ := Option.map_eq_some_iff.1 (segmentOf_of_step hs)
  obtain ⟨pc', c, next, hi, hc, rfl⟩ := loop_eq hloop
  obtain ⟨-, -, rfl⟩ := hone.busy (List.getElem?_eq_some_iff.1 hi).1
  rw [hloops] at hi
  obtain rfl : pc = pc' := Option.some.inj hi
  have hstream : ((s.setStream { s.stream with
      controller := c, loops := proceed s.stream.loops 0 next }).sendAll sends).stream =
        { s.stream with controller := c, loops := next.toList } := by
    rw [Server.sendAll_stream, Server.setStream]
    simp only [hloops]
    cases next <;> rfl
  rcases captureLoop_of_stopRequested h.stopRequested hc with rfl | ⟨hstop, rfl, frame, now, -, rfl⟩
  · left
    have hlive := hone'.live
    rw [hstream] at hlive ⊢
    refine Bool.eq_false_of_not_eq_true fun hon => ?_
    rw [if_pos hon] at hlive
    cases hlive
  · refine Or.inr ⟨⟨streaming_of_loops hone' ?_, ?_⟩, ?_⟩
    · rw [hstream]
      exact List.cons_ne_nil _ _
    · rw [hstream]
      exact hstop
    · unfold Server.remaining
      rw [hstream, hloops]
      exact Nat.one_pos

/-- Another step leaves the loop where it is, and the flag set. -/
theorem Stopping.other (h : Stopping s) (hone : OneLoop s.stream)
    (hs : (server P api).step s e = some s') (hno : ¬RunsLoop s e) :
    Stopping s' ∧ s'.remaining = s.remaining := by
  obtain ⟨pc, hpc⟩ := h.loops hone
  have hne : s.stream.loops ≠ [] := by
    rw [hpc]
    exact List.cons_ne_nil _ _
  have hkeeps : s'.stream.loops = s.stream.loops ∧
      (s'.stream.controller.isStreaming = true → s'.stream.controller.stopRequested = true) := by
    by_cases hsegment : ∃ i camera content, e = .segment i camera content
    · obtain ⟨i, camera, content, rfl⟩ := hsegment
      obtain ⟨hstop, hloops⟩ := segment_keeps_stop hone hne h.stopRequested (segment_stream hs)
      exact ⟨hloops, fun _ => hstop⟩
    · have hquiet := runsNoMethod_of_step hs fun i camera content he =>
        hsegment ⟨i, camera, content, he⟩
      refine ⟨hquiet.loops fun i capture he => hno ⟨i, capture, he⟩, fun hon => ?_⟩
      rcases hquiet.stream with hoff | hsame
      · cases hoff.symm.trans hon
      · rw [hsame.stopRequested]
        exact h.stopRequested
  obtain ⟨hloops, hstop⟩ := hkeeps
  have hon := streaming_of_loops (hone.server_step hs) (hloops ▸ hne)
  refine ⟨⟨hon, hstop hon⟩, ?_⟩
  unfold Server.remaining
  rw [hloops]

/-- A stop that finds the stream on sets the flag. -/
theorem stopping_of_stop {t : Task} (ht : t.pc = .dispatch .stopStreaming)
    (hon : s.stream.controller.isStreaming = true) (hs : (server P api).step s e = some s')
    (hrun : RunsTask t s e) : Stopping s' := by
  obtain ⟨i, camera, content, rfl, hi⟩ := hrun
  obtain ⟨t', g, hseg⟩ := Server.methodSegment_stream (segmentOf_of_step hs)
  obtain ⟨hi', rfl, hstream⟩ := segment_eq hseg
  obtain rfl : t = t' := Option.some.inj (hi.symm.trans hi')
  have hself : (t.pc.run P s.stream.controller ⟨camera, content, s.alive⟩).self =
      { s.stream.controller with stopRequested := true } := by
    rw [ht]
    simp only [Pc.run, StreamController.stopStreaming, StreamController.poll, hon, Bool.not_true,
      Bool.false_eq_true, ↓reduceIte]
  refine ⟨?_, ?_⟩
  · rw [hstream, hself]
    exact hon
  · rw [hstream, hself]

/-- The destructor of a controller's session calls `stop_streaming`. -/
theorem destroy_stops {id : SessionId} (hcon : (s.sessions id).isController = true)
    (hs : (server P api).step s (.destroy id) = some s') :
    ⟨.destructor id, .dispatch .stopStreaming⟩ ∈ s'.stream.tasks := by
  cases serverStep_of_step hs with
  | destroy _ due =>
    simp only [Server.destroy, hcon, ↓reduceIte, Server.invoke_stream, StreamSystem.invoke]
    exact List.mem_append_right _ (List.mem_singleton_self _)

end Steps

/-! ## Executions -/

section Executions

variable {P : Platform} {api : Api} {x : (server P api).Execution}

theorem oneLoop_always (hinit : x.state 0 = {}) (n : Nat) : OneLoop (x.state n).stream := by
  induction n with
  | zero => exact hinit ▸ ⟨rfl, nofun, nofun⟩
  | succ n ih => exact ih.server_step (x.step n)

/-- A stream that has been asked to stop ends. -/
theorem stopping_leadsTo (hinit : x.state 0 = {})
    (hloops : x.Fair (fun s => s.stream.loops ≠ []) RunsLoop) :
    x.LeadsTo Stopping (·.stream.controller.isStreaming = false) := by
  refine Execution.LeadsTo.of_fair Server.remaining (hloops.mono fun n h => ?_) fun n h => ?_
  · obtain ⟨pc, hpc⟩ := h.loops (oneLoop_always hinit n)
    rw [hpc]
    exact List.cons_ne_nil _ _
  · by_cases hrun : RunsLoop (x.state n) (x.event n)
    · refine (h.loop (oneLoop_always hinit n) (x.step n) hrun).imp_right fun ⟨hstop, hlt⟩ => ?_
      exact ⟨hstop, Nat.le_of_lt hlt, fun _ => hlt⟩
    · obtain ⟨hstop, heq⟩ := h.other (oneLoop_always hinit n) (x.step n) hrun
      exact Or.inr ⟨hstop, Nat.le_of_eq heq, fun h => absurd h hrun⟩

/-- A stop that has been called is taken notice of. -/
theorem stop_leadsTo {t : Task} (ht : t.pc = .dispatch .stopStreaming)
    (hmethod : x.Fair (fun s => t ∈ s.stream.tasks) (RunsTask t)) :
    x.LeadsTo (fun s => t ∈ s.stream.tasks)
      fun s => s.stream.controller.isStreaming = false ∨ Stopping s := by
  have hon : x.LeadsTo (fun s => t ∈ s.stream.tasks ∧ s.stream.controller.isStreaming = true)
      fun s => s.stream.controller.isStreaming = false ∨ Stopping s := by
    refine Execution.LeadsTo.of_fair (fun _ => 0) (hmethod.mono fun n h => h.1) fun n h => ?_
    by_cases hrun : RunsTask t (x.state n) (x.event n)
    · exact Or.inl (Or.inr (stopping_of_stop ht h.2 (x.step n) hrun))
    · rcases Bool.eq_false_or_eq_true (x.state (n + 1)).stream.controller.isStreaming with hon | hoff
      · exact Or.inr ⟨⟨task_stays h.1 (x.step n) hrun, hon⟩, Nat.le_refl 0, fun h => absurd h hrun⟩
      · exact Or.inl (Or.inl hoff)
  refine (Execution.LeadsTo.of_imp fun n h => ?_).trans (hon.or (.refl _))
  rcases Bool.eq_false_or_eq_true (x.state n).stream.controller.isStreaming with hon | hoff
  · exact Or.inl ⟨h, hon⟩
  · exact Or.inr (Or.inl hoff)

/-- **A stream ends after its controller is gone.** Where the event loop attends to the methods that
destructors call and to the capture loop, the stream is off at some time after the session of a
controller has been destroyed, whatever the other sessions do. -/
theorem stream_ends_after_controller (P : Platform) (api : Api) (x : (server P api).Execution)
    (hinit : x.state 0 = {})
    (hmethods : ∀ id pc, x.Fair (fun s => ⟨.destructor id, pc⟩ ∈ s.stream.tasks)
      (RunsTask ⟨.destructor id, pc⟩))
    (hloops : x.Fair (fun s => s.stream.loops ≠ []) RunsLoop) (n : Nat) (id : SessionId)
    (hgone : x.event n = .destroy id) (hcon : ((x.state n).sessions id).isController = true) :
    ∃ m, n < m ∧ (x.state m).stream.controller.isStreaming = false := by
  have hstep := x.step n
  rw [hgone] at hstep
  have hends := (stop_leadsTo (t := ⟨.destructor id, .dispatch .stopStreaming⟩) rfl
    (hmethods id _)).trans ((Execution.LeadsTo.refl _).or (stopping_leadsTo hinit hloops))
  exact hends (n + 1) (destroy_stops hcon hstep)

/-! ### A controller that disconnects -/

/-- A controller starts a stream and disconnects, while another client has connected. -/
def leaves : List (ServerEvent x86_64) :=
  joins 1 ++ [.connect, tells 1 "controller", .runAddViewer, tells 1 "config",
    .segment 0 .working none, .session 1 .disconnected ⟨noon, 0, true⟩,
    .session 1 (.readFailed true) ⟨noon, 0, true⟩, .session 1 .runPosted ⟨noon, 0, true⟩,
    .session 1 .runPosted ⟨noon, 0, true⟩]

/-- Its session is destroyed, and the stream stops. -/
def streamStops : List (ServerEvent x86_64) :=
  [.destroy 1, .loop 0 .empty, .segment 0 .working none, .loop 0 .empty, .segment 0 .working none]

theorem stream_ends_after_controller_leaves : ∃ x : (server x86_64 sampleApi).Execution,
    x.state 0 = {} ∧ ∃ n, x.event n = .destroy 1 ∧ ((x.state n).sessions 1).isController = true ∧
      (x.state n).stream.controller.isStreaming = true ∧
      ∃ m, n < m ∧ (x.state m).stream.controller.isStreaming = false := by
  have hfacts : (((server x86_64 sampleApi).run {} leaves).bind fun t =>
      ((server x86_64 sampleApi).run t streamStops).map fun u => (t, u)).any (fun x =>
        (x.1.sessions 1).isController && x.1.stream.controller.isStreaming &&
        x.2.stream.tasks == [] && x.2.stream.loops == [] && x.2.quiescent && x.2.alive 2 &&
        !(x.2.sessions 2).isOpen) = true := by decide +kernel
  obtain ⟨⟨t, u⟩, htu, hfacts⟩ := (Option.any_eq_true _ _).1 hfacts
  obtain ⟨t', hleaves, hstops⟩ := Option.bind_eq_some_iff.1 htu
  obtain ⟨u', hstops, heq⟩ := Option.map_eq_some_iff.1 hstops
  cases heq
  simp only [Bool.and_eq_true, beq_iff_eq, Bool.not_eq_true'] at hfacts
  obtain ⟨⟨⟨⟨⟨⟨hcon, hstreaming⟩, htasks⟩, hloops⟩, hquiet⟩, halive⟩, hclosed⟩ := hfacts
  have hagain : (server x86_64 sampleApi).step u (.session 2 .disconnected ⟨noon, 0, true⟩) = some u :=
    disconnected_again _ hquiet halive hclosed
  obtain ⟨x, hx, -, hstart, hfollow, hend⟩ := Execution.exists_settled (C := fun _ _ => True) hleaves
    hstops (.of_forall (fun _ _ => trivial) _ _) (.of_forall (fun _ _ => trivial) _ _) hagain trivial
  have hgone : x.event leaves.length = .destroy 1 := hfollow 0 (Nat.succ_pos _)
  refine ⟨x, hx, leaves.length, hgone, hstart ▸ hcon, hstart ▸ hstreaming, ?_⟩
  refine stream_ends_after_controller x86_64 sampleApi x hx (fun id pc n hlasts => ?_)
    (fun n hlasts => ?_) _ 1 hgone (hstart ▸ hcon)
  · obtain ⟨m, hnm, hm⟩ := hend n
    have hmem := hlasts m hnm
    rw [hm, htasks] at hmem
    cases hmem
  · obtain ⟨m, hnm, hm⟩ := hend n
    exact absurd (hm ▸ hloops) (hlasts m hnm)

end Executions

end AsciiStreamer
