import AsciiStreamer.Stream.StreamSystem

/-!
# Who is a viewer, and who is handed what

What the segments of the stream controller do to `viewers_`, to the recorder and to the messages
they send: only `broadcast_frame` sends live frames, to the viewers that are still there, and
viewers leave by `remove_viewer_by_id`, by `cleanup`, or by being gone.
-/

namespace AsciiStreamer

open Cxx

/-- What a segment of a method does to the viewers. -/
inductive ViewerEffect (c : StreamController) (pc : Pc) (env : Env) (g : Segment) : Prop
  | same (other : pc ≠ .polling ∨ c.isStreaming = true) (viewers : g.self.viewers = c.viewers)
  | removed (id : SessionId) (call : pc = .dispatch (.removeViewerById id))
      (viewers : g.self.viewers = c.viewers.filter fun v => env.alive v && v != id)
  | cleared (call : pc = .polling) (idle : c.isStreaming = false) (viewers : g.self.viewers = [])

/-- The methods that start and stop the stream. -/
def Pc.controls : Pc → Bool
  | .dispatch call => call.operation.isSome
  | .polling => true
  | .stoppingPlayback .. => false

/-- A method that suspends: where it was, what it leaves, and where it is. -/
inductive Suspends (c : StreamController) : Pc → StreamController → Pc → Prop
  | stopping : Suspends c (.dispatch .stopStreaming) { c with stopRequested := true } .polling
  | waiting : Suspends c .polling c .polling
  | loading (filename : Bytes) (session : SessionId) :
    Suspends c (.dispatch (.startPlayback filename session)) c (.stoppingPlayback filename session)

section Methods

variable {P : Platform} {c : StreamController} {env : Env}

theorem Pc.run_viewers (P : Platform) (c : StreamController) (env : Env) (pc : Pc) :
    ViewerEffect c pc env (pc.run P c env) := by
  cases pc with
  | dispatch call =>
    cases call with
    | startStreaming cameraIndex resolution fps =>
      have hrest := startStreaming_rest c cameraIndex resolution fps env.camera
      exact .same (Or.inl (by simp)) hrest.viewers
    | stopStreaming => exact .same (Or.inl (by simp)) (stopStreaming_rest c).viewers
    | removeViewerById id => exact .removed id rfl rfl
    | _ => exact .same (Or.inl (by simp)) rfl
  | polling =>
    simp only [Pc.run, StreamController.poll]
    cases hs : c.isStreaming with
    | true => exact .same (Or.inr hs) rfl
    | false => exact .cleared rfl hs rfl
  | stoppingPlayback filename session =>
    refine .same (Or.inl (by simp)) ?_
    simp only [Pc.run, StreamController.startPlayback]
    split <;> rfl

/-- No method but `start_recording` and `stop_recording`, which are no coroutines, records. -/
theorem Pc.run_recorder (P : Platform) (c : StreamController) (env : Env) (pc : Pc) :
    (pc.run P c env).self.recorder = c.recorder := by
  cases pc with
  | dispatch call =>
    cases call with
    | startStreaming cameraIndex resolution fps =>
      exact (startStreaming_rest c cameraIndex resolution fps env.camera).recorder
    | stopStreaming => exact (stopStreaming_rest c).recorder
    | _ => rfl
  | polling =>
    simp only [Pc.run, StreamController.poll]
    cases hs : c.isStreaming <;> rfl
  | stoppingPlayback filename session =>
    simp only [Pc.run, StreamController.startPlayback]
    split <;> rfl

theorem played_sends {o : Outcome} {x : SessionId × Message} (hx : x ∈ (c.played o).sends) :
    ∃ frame, x.2 = .playback frame := by
  unfold StreamController.played at hx
  simp only at hx
  split at hx
  · next frame session _ _ =>
    rw [List.mem_singleton] at hx
    subst hx
    exact ⟨frame, rfl⟩
  · cases hx

/-- The methods send recorded frames only. -/
theorem Pc.run_sends {pc : Pc} {x : SessionId × Message} (hx : x ∈ (pc.run P c env).sends) :
    ∃ frame, x.2 = .playback frame := by
  cases pc with
  | dispatch call =>
    cases call with
    | startStreaming cameraIndex resolution fps =>
      have hnone : x ∈ ([] : List (SessionId × Message)) :=
        startStreaming_sends c cameraIndex resolution fps env.camera ▸ hx
      cases hnone
    | stopStreaming =>
      have hnone : x ∈ ([] : List (SessionId × Message)) := stopStreaming_sends c ▸ hx
      cases hnone
    | resumePlayback => exact played_sends hx
    | _ => cases hx
  | polling =>
    have hnone : x ∈ ([] : List (SessionId × Message)) := poll_sends c ▸ hx
    cases hnone
  | stoppingPlayback filename session =>
    simp only [Pc.run, StreamController.startPlayback] at hx
    split at hx
    · cases hx
    · cases hx
    · exact played_sends hx

/-- **Where a method suspends**: it has done nothing but, for `stop_streaming`, asked the loop to
stop. -/
theorem Pc.run_suspends {pc pc' : Pc} (h : (pc.run P c env).next = .inl pc') :
    Suspends c pc (pc.run P c env).self pc' := by
  cases pc with
  | dispatch call =>
    cases call with
    | startStreaming cameraIndex resolution fps =>
      exfalso
      simp only [Pc.run, StreamController.startStreaming] at h
      split at h
      · cases h
      · split at h <;> cases h
    | stopStreaming =>
      simp only [Pc.run, StreamController.stopStreaming, StreamController.poll] at h ⊢
      split
      · next hidle =>
        rw [if_pos hidle] at h
        cases h
      · next hactive =>
        rw [if_neg hactive] at h
        split
        · next hs =>
          rw [if_pos hs] at h
          cases h
          exact .stopping
        · next hs =>
          rw [if_neg hs] at h
          cases h
    | startPlayback filename session =>
      cases h
      exact .loading filename session
    | resumePlayback =>
      obtain ⟨r, hr⟩ := played_next c (c.playbackController.resumePlayback P)
      rw [Pc.run, hr] at h
      cases h
    | _ => cases h
  | polling =>
    simp only [Pc.run, StreamController.poll] at h ⊢
    split
    · next hs =>
      rw [if_pos hs] at h
      cases h
      exact .waiting
    · next hs =>
      rw [if_neg hs] at h
      cases h
  | stoppingPlayback filename session =>
    exfalso
    simp only [Pc.run, StreamController.startPlayback] at h
    split at h
    · cases h
    · cases h
    · next p hp =>
      obtain ⟨r, hr⟩ := played_next { c.stopPlayback with
        playbackController := p, playbackSession := some session } (p.startPlayback P)
      rw [hr] at h
      cases h

/-- A method that goes on to control the stream did so before. -/
theorem Suspends.controls {c' : StreamController} {pc pc' : Pc} (h : Suspends c pc c' pc')
    (hc : pc'.controls = true) : pc.controls = true := by
  cases h with
  | stopping => rfl
  | waiting => rfl
  | loading filename session => cases hc

theorem Suspends.ne_dispatch {c' : StreamController} {pc pc' : Pc} (h : Suspends c pc c' pc')
    (call : Call) : pc' ≠ .dispatch call := by
  cases h <;> exact nofun

end Methods

section Loop

variable {P : Platform} {c c' : StreamController} {capture : Capture P} {alive : SessionId → Bool}
  {pc : LoopPc} {next : Option LoopPc} {sends : List (SessionId × Message)}

theorem loopTest_rest {c₀ : StreamController} (h : c₀.loopTest = some (c', next)) :
    SameRest c₀ c' := by
  unfold StreamController.loopTest at h
  split at h
  · split at h
    · cases h
    · simp only [Option.some.injEq, Prod.mk.injEq] at h
      obtain ⟨rfl, -⟩ := h
      exact .refl _
  · simp only [Option.some.injEq, Prod.mk.injEq] at h
    obtain ⟨rfl, -⟩ := h
    exact ⟨rfl, rfl, rfl, rfl⟩

/-- The segments of a capture loop: the broadcast reaches the viewers that are there and forgets
the others, the rest leaves the viewers alone. -/
theorem captureLoop_viewers (h : c.captureLoop P capture alive pc = some (c', next, sends)) :
    ((∀ frame, pc ≠ .broadcasting frame) ∧ c'.viewers = c.viewers ∧ sends = []) ∨
      ∃ frame, pc = .broadcasting frame ∧ c'.viewers = c.viewers.filter alive ∧
        sends = (c.viewers.filter alive).map fun v => (v, .live frame) := by
  cases pc with
  | spawned =>
    obtain ⟨⟨c₁, n₁⟩, htest, heq⟩ := Option.map_eq_some_iff.1 h
    simp only [Prod.mk.injEq] at heq
    obtain ⟨rfl, rfl, rfl⟩ := heq
    exact Or.inl ⟨by simp, (loopTest_rest htest).viewers, rfl⟩
  | sleeping =>
    left
    cases capture with
    | throws e =>
      simp only [StreamController.captureLoop, Option.some.injEq, Prod.mk.injEq] at h
      obtain ⟨rfl, rfl, rfl⟩ := h
      exact ⟨by simp, rfl, rfl⟩
    | empty =>
      obtain ⟨⟨c₁, n₁⟩, htest, heq⟩ := Option.map_eq_some_iff.1 h
      simp only [Prod.mk.injEq] at heq
      obtain ⟨rfl, rfl, rfl⟩ := heq
      exact ⟨by simp, (loopTest_rest htest).viewers, rfl⟩
    | frame frame now =>
      simp only [StreamController.captureLoop, Option.some.injEq, Prod.mk.injEq] at h
      obtain ⟨rfl, rfl, rfl⟩ := h
      exact ⟨by simp, rfl, rfl⟩
  | broadcasting frame =>
    obtain ⟨⟨c₁, n₁⟩, htest, heq⟩ := Option.map_eq_some_iff.1 h
    simp only [Prod.mk.injEq] at heq
    obtain ⟨rfl, rfl, rfl⟩ := heq
    exact Or.inr ⟨frame, rfl, (loopTest_rest htest).viewers, rfl⟩

/-- A capture loop sends nothing but live frames. -/
theorem captureLoop_sends (h : c.captureLoop P capture alive pc = some (c', next, sends))
    {x : SessionId × Message} (hx : x ∈ sends) : ∃ frame, x.2 = .live frame := by
  rcases captureLoop_viewers h with ⟨-, -, rfl⟩ | ⟨frame, -, -, rfl⟩
  · cases hx
  · obtain ⟨v, -, rfl⟩ := List.mem_map.1 hx
    exact ⟨frame, rfl⟩

end Loop

/-- Recording leaves the viewers alone. -/
theorem startRecording_viewers (c : StreamController) (t : Tm) (now : Instant)
    (fileOpens : Bool) : (c.startRecording t now fileOpens).viewers = c.viewers := by
  unfold StreamController.startRecording
  split <;> rfl

theorem stopRecording_viewers (c : StreamController) (now : Instant) :
    (c.stopRecording now).viewers = c.viewers := by
  unfold StreamController.stopRecording
  split <;> rfl

end AsciiStreamer
