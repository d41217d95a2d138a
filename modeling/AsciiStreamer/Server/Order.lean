import AsciiStreamer.Server.Subscription
import AsciiStreamer.Session.Frames
import AsciiStreamer.Stream.CaptureLoop

/-!
# The order of the live frames

A frame goes from a capture loop through the broadcast, the posted handlers and the queue of each
viewer to its socket. A `Film` numbers the streams of a run and keeps the frames converted since the
`add_viewer` of a session has run. One loop at a time converts, a session that has authenticated
once is one viewer, and what is on the way to its socket keeps its order: so what is written is the
film with frames left out (`live_frames_in_order`).
-/

namespace AsciiStreamer

open Cxx

/-! ## Authentications -/

/-- The text is an `auth` message with the server's key. -/
def authenticates (P : Platform) (api : Api) (text : Bytes) : Bool :=
  match decode P api false text with
  | .ok (.auth apiKey _) => apiKey == api.apiKey
  | _ => false

/-- How often the session has authenticated. -/
def authentications (P : Platform) (api : Api) (trace : List Obs) (id : SessionId) : Nat :=
  trace.countP fun
    | .received j text => j == id && authenticates P api text
    | _ => false

/-! ## The film -/

/-- The frame that a capture loop has converted and has still to broadcast. -/
def LoopPc.frame : LoopPc → Option Bytes
  | .broadcasting frame => some frame
  | _ => none

/-- How many streams have begun, which of them each live capture loop belongs to, and the frames
converted since the `add_viewer` of the session has run, each with its stream. -/
structure Film where
  begun : Nat := 0
  owners : List Nat := []
  converted : List (Nat × Bytes) := []

namespace Server

/-- The frames that have been converted and are still to be broadcast. -/
def underway (s : Server) : List Bytes := s.stream.loops.filterMap LoopPc.frame

/-- The frame a segment of a capture loop converts. -/
def converts {P : Platform} (s : Server) (i : Nat) : Capture P → Option Bytes
  | .frame frame _ => if s.stream.loops[i]? = some .sleeping then some frame.bytes else none
  | _ => none

end Server

/-- The film after a step. -/
def Film.step {P : Platform} (id : SessionId) (s : Server) (e : ServerEvent P) (s' : Server)
    (film : Film) : Film :=
  match e with
  | .segment .. =>
    if s.stream.loops.length < s'.stream.loops.length then
      { film with begun := film.begun + 1, owners := film.owners ++ [film.begun + 1] }
    else film
  | .loop i capture => { film with
      owners := if s'.stream.loops.length < s.stream.loops.length then film.owners.eraseIdx i
        else film.owners
      converted := match film.owners[i]?, s.converts i capture with
        | some stream, some frame =>
          if id ∈ s.stream.added then film.converted ++ [(stream, frame)] else film.converted
        | _, _ => film.converted }
  | _ => film

/-- `broadcast_frame` dispatches to the strand on which its loop already runs, so it goes on at
once: no handler posted to the strand runs between the conversion of a frame and its broadcast. -/
def DispatchesAtOnce {P : Platform} (s : Server) : ServerEvent P → Prop
  | .runAddViewer => s.underway = []
  | _ => True

/-! ## A session that authenticates once is one viewer -/

/-- The posted and the executed `add_viewer` of a session come from its authentications, and its
entries among the viewers from the executed ones. -/
structure Counted (P : Platform) (api : Api) (id : SessionId) (s : Server) : Prop where
  added : (s.stream.added ++ s.stream.adding).count id ≤ authentications P api s.trace id
  viewers : s.stream.controller.viewers.count id ≤ s.stream.added.count id

section Counting

variable {P : Platform} {api : Api} {s s' : Server} {id : SessionId}

theorem authentications_mono {trace trace' : List Obs} (h : trace <+: trace') :
    authentications P api trace id ≤ authentications P api trace' id :=
  h.sublist.countP_le

theorem authenticates_of_auth {text role : Bytes} (h : AuthMessage api text role) :
    authenticates P api text = true := by
  obtain ⟨j, hj, htype, hkey, hrole⟩ := h
  have hdecode : decode P api false text = .ok (.auth api.apiKey role) := by
    obtain ⟨f, hf, htype⟩ := bind_ok.1 htype
    obtain ⟨k, hk, hkey⟩ := bind_ok.1 hkey
    refine bind_ok.2 ⟨j, hj, bind_ok.2 ⟨f, hf, bind_ok.2 ⟨lit "auth", htype, ?_⟩⟩⟩
    simp only [command, ↓reduceIte]
    refine bind_ok.2 ⟨k, hk, bind_ok.2 ⟨api.apiKey, hkey, bind_ok.2 ⟨role, hrole, rfl⟩⟩⟩
  simp only [authenticates, hdecode, beq_self_eq_true]

theorem authentications_received {trace : List Obs} {text role : Bytes} (j : SessionId)
    (h : AuthMessage api text role) : authentications P api (trace ++ [.received j text]) id =
      authentications P api trace id + if j = id then 1 else 0 := by
  unfold authentications
  rw [List.countP_append]
  by_cases hj : j = id
  · simp [hj, authenticates_of_auth (P := P) h]
  · simp [hj]

namespace Counted

theorem init : Counted P api id {} := ⟨Nat.zero_le _, Nat.zero_le _⟩

/-- A step that adds nobody. -/
theorem of_still (h : Counted P api id s) (htrace : s.trace <+: s'.trace)
    (hadding : s'.stream.adding = s.stream.adding) (hadded : s'.stream.added = s.stream.added)
    (hviewers : s'.stream.controller.viewers.Sublist s.stream.controller.viewers) :
    Counted P api id s' := by
  refine ⟨?_, ?_⟩
  · rw [hadding, hadded]
    exact Nat.le_trans h.added (authentications_mono htrace)
  · rw [hadded]
    exact Nat.le_trans (hviewers.count_le id) h.viewers

theorem posted (h : Counted P api id s) {j : SessionId} {text role : Bytes}
    (hauth : AuthMessage api text role) (htrace : s'.trace = s.trace ++ [.received j text])
    (hadding : s'.stream.adding = s.stream.adding ++ [j])
    (hadded : s'.stream.added = s.stream.added)
    (hviewers : s'.stream.controller.viewers = s.stream.controller.viewers) :
    Counted P api id s' := by
  refine ⟨?_, by rw [hviewers, hadded]; exact h.viewers⟩
  have hcount : (s.stream.added ++ (s.stream.adding ++ [j])).count id =
      (s.stream.added ++ s.stream.adding).count id + if j = id then 1 else 0 := by
    rw [← List.append_assoc, List.count_append, List.count_singleton]
    simp only [beq_iff_eq]
  rw [hadding, hadded, htrace]
  calc (s.stream.added ++ (s.stream.adding ++ [j])).count id
      = (s.stream.added ++ s.stream.adding).count id + if j = id then 1 else 0 := hcount
    _ ≤ authentications P api s.trace id + if j = id then 1 else 0 :=
      Nat.add_le_add_right h.added _
    _ = authentications P api (s.trace ++ [.received j text]) id :=
      (authentications_received j hauth).symm

theorem runs (h : Counted P api id s) {v : SessionId} {vs : List SessionId}
    (htrace : s'.trace = s.trace) (hbefore : s.stream.adding = v :: vs)
    (hadding : s'.stream.adding = vs) (hadded : s'.stream.added = s.stream.added ++ [v])
    (hviewers : s'.stream.controller.viewers = s.stream.controller.viewers ++ [v]) :
    Counted P api id s' := by
  refine ⟨?_, ?_⟩
  · have hpending := h.added
    rw [hbefore] at hpending
    rw [hadding, hadded, htrace, List.append_assoc]
    exact hpending
  · rw [hviewers, hadded, List.count_append, List.count_append]
    exact Nat.add_le_add_right h.viewers _

theorem step {e : ServerEvent P} (h : Counted P api id s)
    (hs : (server P api).step s e = some s') : Counted P api id s' := by
  cases subscriptionStep_of_step hs with
  | still other still =>
    exact h.of_still (Server.step_trace hs) still.adding still.added still.viewers
  | posted j text role isStreaming clock event exist auth trace adding added viewers =>
    exact h.posted auth trace adding added viewers
  | runs v vs event trace before adding added viewers =>
    exact h.runs trace before adding added viewers

end Counted

end Counting

/-! ## The streams of a run follow each other -/

/-- The live capture loop is that of the last stream, and the film is in the order of the
streams. -/
structure Numbered (s : Server) (film : Film) : Prop where
  loop : OneLoop s.stream
  owners : film.owners.length = s.stream.loops.length
  latest : ∀ n ∈ film.owners, n = film.begun
  begun : ∀ x ∈ film.converted, x.1 ≤ film.begun
  ordered : film.converted.Pairwise fun x y => x.1 ≤ y.1

section Numbering

variable {P : Platform} {api : Api} {s s' : Server} {id : SessionId} {film : Film}

theorem OneLoop.server_step {e : ServerEvent P} (h : OneLoop s.stream)
    (hs : (server P api).step s e = some s') : OneLoop s'.stream := by
  obtain ⟨ds, hds⟩ := server_simulates_streaming P api [e] s s'
    (Machine.run_cons_some.2 ⟨s', hs, rfl⟩)
  exact Machine.run_invariant (fun hi hd => hi.step hd) ds h hds

/-- A segment of a method leaves the loops alone or begins the only one. -/
theorem segment_loops (h : OneLoop s.stream) {i : Nat} {camera : CameraEnv}
    {content : Option Bytes} (hs : s.methodSegment P api i camera content = some s') :
    s'.stream.loops = s.stream.loops ∨ s.stream.loops = [] ∧ s'.stream.loops = [.spawned] := by
  obtain ⟨t, g, hseg⟩ := Server.methodSegment_stream hs
  obtain ⟨-, rfl, hstream⟩ := segment_eq hseg
  have hloops := congrArg StreamSystem.loops hstream
  simp only at hloops
  have same : (t.pc.run P s.stream.controller ⟨camera, content, s.alive⟩).spawned = false →
      s'.stream.loops = s.stream.loops := by
    intro hno
    rw [hloops, hno]
    simp only [Bool.false_eq_true, ↓reduceIte]
  cases Pc.run_effect P s.stream.controller ⟨camera, content, s.alive⟩ t.pc with
  | started cameraIndex resolution fps call begins spawned =>
    have hnil := h.idle begins.idle
    right
    rw [hloops, spawned, hnil]
    exact ⟨rfl, rfl⟩
  | failed cameraIndex resolution fps call begins idle spawned => exact Or.inl (same spawned)
  | stopping call streaming self spawned => exact Or.inl (same spawned)
  | waiting call streaming self spawned => exact Or.inl (same spawned)
  | cleaned call idle self spawned => exact Or.inl (same spawned)
  | quiet other hsame spawned => exact Or.inl (same spawned)

namespace Numbered

theorem init : Numbered {} {} := ⟨⟨rfl, nofun, nofun⟩, rfl, nofun, nofun, .nil⟩

/-- The capture loop that runs is the only one, and that of the last stream. -/
theorem only (h : Numbered s film) {i : Nat} {capture : Capture P} {stream : StreamSystem}
    {sends : List (SessionId × Message)}
    (hs : s.stream.loop P i capture s.alive = some (stream, sends)) :
    ∃ pc c next, i = 0 ∧ s.stream.loops = [pc] ∧ film.owners = [film.begun] ∧
      s.stream.controller.captureLoop P capture s.alive pc = some (c, next, sends) ∧
      stream.loops = next.toList ∧ stream.added = s.stream.added := by
  obtain ⟨pc, c, next, hpc, hc, rfl⟩ := loop_eq hs
  obtain ⟨-, hlen, rfl⟩ := h.loop.busy (List.getElem?_eq_some_iff.1 hpc).1
  obtain ⟨pc', hloops⟩ := List.length_eq_one_iff.1 hlen
  obtain ⟨n, howners⟩ := List.length_eq_one_iff.1 (h.owners.trans hlen)
  rw [hloops, List.getElem?_cons_zero, Option.some.injEq] at hpc
  refine ⟨pc, c, next, rfl, hpc ▸ hloops, ?_, hc, ?_, rfl⟩
  · rw [howners, h.latest n (howners ▸ List.mem_cons_self)]
  · rw [hloops]
    cases next <;> rfl

theorem step {e : ServerEvent P} (h : Numbered s film) (hs : (server P api).step s e = some s') :
    Numbered s' (film.step id s e s') := by
  have hone := h.loop.server_step hs
  -- where the film stays as it is
  have keeps : film.step id s e s' = film → s'.stream.loops = s.stream.loops →
      Numbered s' (film.step id s e s') := by
    intro hfilm hloops
    rw [hfilm]
    exact ⟨hone, hloops ▸ h.owners, h.latest, h.begun, h.ordered⟩
  cases serverStep_of_step hs with
  | segment i camera content _ hseg =>
    rcases segment_loops h.loop hseg with hloops | ⟨hnil, hloops⟩
    · refine keeps ?_ hloops
      simp only [Film.step, hloops, Nat.lt_irrefl, ↓reduceIte]
    · have howners : film.owners = [] := by
        rw [← List.length_eq_zero_iff, h.owners, hnil]
        rfl
      have hfilm : film.step id s (.segment i camera content : ServerEvent P) s' =
          { film with begun := film.begun + 1, owners := [film.begun + 1] } := by
        simp only [Film.step, hloops, hnil, howners, List.length_nil, List.length_singleton,
          Nat.zero_lt_one, ↓reduceIte, List.nil_append]
      rw [hfilm]
      refine ⟨hone, by rw [hloops]; rfl, ?_, ?_, h.ordered⟩
      · intro n hn
        exact List.mem_singleton.1 hn
      · intro x hx
        exact Nat.le_succ_of_le (h.begun x hx)
  | loop i capture stream sends hloop =>
    obtain ⟨pc, c, next, rfl, hloops, howners, -, hnext, -⟩ := h.only hloop
    have hlive : ((s.setStream stream).sendAll sends).stream.loops = next.toList := by
      rw [Server.sendAll_stream]
      exact hnext
    have hlen : ∀ n ∈ film.owners.eraseIdx 0, n = film.begun := by
      rw [howners]
      exact nofun
    refine ⟨hone, ?_, ?_, ?_, ?_⟩
    · simp only [Film.step, hlive, hloops, howners]
      cases next <;> rfl
    · simp only [Film.step]
      split
      · exact hlen
      · exact h.latest
    · simp only [Film.step, howners, List.getElem?_cons_zero]
      split
      · next n frame hn _ =>
        obtain rfl := Option.some.inj hn
        split
        · intro x hx
          rcases List.mem_append.1 hx with hx | hx
          · exact h.begun x hx
          · rw [List.mem_singleton.1 hx]
        · exact h.begun
      · exact h.begun
    · simp only [Film.step, howners, List.getElem?_cons_zero]
      split
      · next n frame hn _ =>
        obtain rfl := Option.some.inj hn
        split
        · refine List.pairwise_append.2 ⟨h.ordered, List.pairwise_singleton _ _, ?_⟩
          intro x hx y hy
          rw [List.mem_singleton.1 hy]
          exact h.begun x hx
        · exact h.ordered
      · exact h.ordered
  | _ => exact keeps rfl ((runsNoMethod_of_step hs nofun).loops nofun)

end Numbered

end Numbering

/-! ## What is on the way to a socket is on the film -/

/-- What a broadcast that is under way will hand to the session. -/
def Server.awaited (s : Server) (id : SessionId) : List Bytes :=
  if id ∈ s.stream.added then s.underway else []

/-- The live frames among the messages for the session. -/
def framesFor (id : SessionId) (sends : List (SessionId × Message)) : List Bytes :=
  sends.filterMap fun x => if x.1 = id then x.2.liveFrame else none

section Sending

variable {P : Platform} {api : Api} {s s' : Server} {id : SessionId}

theorem framesFor_cons (x : SessionId × Message) (xs : List (SessionId × Message)) :
    framesFor id (x :: xs) = framesFor id [x] ++ framesFor id xs := by
  unfold framesFor
  rw [← List.filterMap_append]
  rfl

theorem framesFor_self (m : Message) : framesFor id [(id, m)] = m.liveFrame.toList := by
  simp only [framesFor, List.filterMap_cons, ↓reduceIte, List.filterMap_nil]
  cases m.liveFrame <;> rfl

theorem framesFor_other {j : SessionId} (h : j ≠ id) (m : Message) : framesFor id [(j, m)] = [] := by
  simp only [framesFor, List.filterMap_cons, h, ↓reduceIte, List.filterMap_nil]

theorem sendTo_liveFrames (s : Server) (j : SessionId) (m : Message) :
    ((s.sendTo j m).sessions id).liveFrames =
      (s.sessions id).liveFrames ++ framesFor id [(j, m)] := by
  rw [Server.sendTo_sessions]
  by_cases h : j = id
  · rw [h, framesFor_self, Server.setSession_self, sendFrame_liveFrames]
  · rw [framesFor_other h, List.append_nil, Server.setSession_other (Ne.symm h)]

theorem sendAll_liveFrames (id : SessionId) (sends : List (SessionId × Message)) :
    ∀ s : Server, ((s.sendAll sends).sessions id).liveFrames =
      (s.sessions id).liveFrames ++ framesFor id sends := by
  induction sends with
  | nil => exact fun s => (List.append_nil _).symm
  | cons x xs ih =>
    intro s
    calc ((s.sendAll (x :: xs)).sessions id).liveFrames
        = ((s.sendTo x.1 x.2).sessions id).liveFrames ++ framesFor id xs := ih _
      _ = (s.sessions id).liveFrames ++ framesFor id (x :: xs) := by
        rw [sendTo_liveFrames, framesFor_cons x xs, List.append_assoc]

theorem framesFor_of_playback {sends : List (SessionId × Message)}
    (h : ∀ x ∈ sends, ∃ frame, x.2 = .playback frame) : framesFor id sends = [] := by
  apply List.filterMap_eq_nil_iff.2
  intro x hx
  obtain ⟨frame, hframe⟩ := h x hx
  rw [hframe]
  exact ite_self none

/-- A broadcast has the frame once for each entry among the viewers. -/
theorem framesFor_broadcast (viewers : List SessionId) (frame : Bytes) :
    framesFor id (viewers.map fun v => (v, .live frame)) =
      List.replicate (viewers.count id) frame := by
  induction viewers with
  | nil => rfl
  | cons v vs ih =>
    rw [List.map_cons, framesFor_cons, ih, List.count_cons]
    by_cases hv : v = id
    · rw [hv, framesFor_self]
      simp only [beq_self_eq_true, ↓reduceIte, List.replicate_succ]
      rfl
    · rw [framesFor_other hv]
      simp only [beq_iff_eq, hv, ↓reduceIte, Nat.add_zero, List.nil_append]

theorem resume_liveFrames (s : Server) (caller : Caller) (result : Except Exn Unit) :
    ((s.resume P api caller result).sessions id).liveFrames.Sublist
      (s.sessions id).liveFrames := by
  unfold Server.resume
  split
  · exact List.Sublist.refl _
  · next j =>
    split
    · next σ rs hσ =>
      by_cases h : id = j
      · subst h
        rw [Server.setSession_self]
        have hsub := liveFrames_step hσ
        rwa [show SessionEvent.liveFrame (.returned result) = none from rfl, Option.toList_none,
          List.append_nil] at hsub
      · rw [Server.setSession_other h]
    · exact List.Sublist.refl _

theorem methodSegment_liveFrames {i : Nat} {camera : CameraEnv} {content : Option Bytes}
    (hs : s.methodSegment P api i camera content = some s') :
    (s'.sessions id).liveFrames.Sublist (s.sessions id).liveFrames := by
  obtain ⟨⟨stream, t, g⟩, hseg, rfl⟩ := Option.map_eq_some_iff.1 hs
  obtain ⟨-, rfl, -⟩ := segment_eq hseg
  have hnone : framesFor id (t.pc.run P s.stream.controller ⟨camera, content, s.alive⟩).sends =
      [] := framesFor_of_playback fun x hx => Pc.run_sends hx
  have hsend := sendAll_liveFrames id
    (t.pc.run P s.stream.controller ⟨camera, content, s.alive⟩).sends (s.setStream stream)
  rw [hnone, List.append_nil] at hsend
  simp only
  split
  · rw [hsend]
    exact List.Sublist.refl _
  · exact (resume_liveFrames _ _ _).trans (hsend ▸ List.Sublist.refl _)

/-- A session hands itself no live frame. -/
theorem external_liveFrame {e : SessionEvent} (h : s.external e = true) : e.liveFrame = none := by
  cases e with
  | sendFrame m => cases h
  | _ => rfl

/-- No step but that of a capture loop brings live frames into a session. -/
theorem liveFrames_of_quiet {e : ServerEvent P} (hs : (server P api).step s e = some s')
    (hloop : ∀ i capture, e ≠ .loop i capture) :
    (s'.sessions id).liveFrames.Sublist (s.sessions id).liveFrames := by
  cases serverStep_of_step hs with
  | connect => exact List.Sublist.refl _
  | session j e clock σ rs exist hstep =>
    rw [Server.requestAll_sessions]
    by_cases h : id = j
    · subst h
      rw [Server.setSession_self]
      have hsub := liveFrames_step hstep
      rwa [external_liveFrame (external_of_step hs), Option.toList_none, List.append_nil] at hsub
    · rw [Server.setSession_other h, Server.note_sessions]
  | segment i camera content _ hseg => exact methodSegment_liveFrames hseg
  | loop i capture => exact absurd rfl (hloop i capture)
  | runAddViewer stream => exact List.Sublist.refl _
  | playbackExpire stream => exact List.Sublist.refl _
  | playbackHandler k stream sends hk =>
    obtain ⟨o, -, rfl⟩ := playbackHandler_eq hk
    rw [sendAll_liveFrames, framesFor_of_playback fun x hx => played_sends hx,
      List.append_nil]
    exact List.Sublist.refl _
  | destroy j =>
    obtain ⟨isOpen, heq⟩ := Server.destroy_isOpen s j id
    rw [heq]
    exact List.Sublist.refl _

end Sending

/-- What is on the way to a socket, with the frame that is being broadcast, is the film of its
session with frames left out. -/
structure Filmed (P : Platform) (api : Api) (id : SessionId) (s : Server) (film : Film) : Prop where
  counted : Counted P api id s
  numbered : Numbered s film
  frames : authentications P api s.trace id ≤ 1 →
    ((s.sessions id).liveFrames ++ s.awaited id).Sublist (film.converted.map Prod.snd)

section Filming

variable {P : Platform} {api : Api} {s s' : Server} {id : SessionId} {film : Film}

/-- What a segment of a capture loop does with frames: it converts one, or the one it held is
gone. -/
theorem captureLoop_frame {c c' : StreamController} {capture : Capture P}
    {alive : SessionId → Bool} {pc : LoopPc} {next : Option LoopPc}
    {sends : List (SessionId × Message)}
    (h : c.captureLoop P capture alive pc = some (c', next, sends)) :
    (∃ frame now, pc = .sleeping ∧ capture = .frame frame now ∧
        next = some (.broadcasting frame.bytes) ∧ sends = []) ∨
      (pc = .sleeping → ∀ frame now, capture ≠ .frame frame now) ∧
        next.toList.filterMap LoopPc.frame = [] := by
  have tested : ∀ {c₀ c₁ : StreamController} {n : Option LoopPc}, c₀.loopTest = some (c₁, n) →
      n.toList.filterMap LoopPc.frame = [] := by
    intro c₀ c₁ n htest
    unfold StreamController.loopTest at htest
    split at htest
    · split at htest
      · cases htest
      · cases htest
        rfl
    · cases htest
      rfl
  cases pc with
  | spawned =>
    obtain ⟨⟨c₁, n₁⟩, htest, heq⟩ := Option.map_eq_some_iff.1 h
    cases heq
    exact Or.inr ⟨nofun, tested htest⟩
  | sleeping =>
    cases capture with
    | throws e =>
      cases h
      exact Or.inr ⟨fun _ => nofun, rfl⟩
    | empty =>
      obtain ⟨⟨c₁, n₁⟩, htest, heq⟩ := Option.map_eq_some_iff.1 h
      cases heq
      exact Or.inr ⟨fun _ => nofun, tested htest⟩
    | frame frame now =>
      cases h
      exact Or.inl ⟨frame, now, rfl, rfl, rfl, rfl⟩
  | broadcasting frame =>
    obtain ⟨⟨c₁, n₁⟩, htest, heq⟩ := Option.map_eq_some_iff.1 h
    cases heq
    exact Or.inr ⟨nofun, tested htest⟩

namespace Filmed

theorem init : Filmed P api id {} {} := ⟨.init, .init, fun _ => List.nil_sublist _⟩

/-- A step that brings no frame to the session and begins no broadcast. -/
theorem of_quiet (h : Filmed P api id s film) {film' : Film} (hcounted : Counted P api id s')
    (hnumbered : Numbered s' film') (htrace : s.trace <+: s'.trace)
    (hframes : (s'.sessions id).liveFrames.Sublist (s.sessions id).liveFrames)
    (hawaited : (s'.awaited id).Sublist (s.awaited id))
    (hfilm : film'.converted = film.converted) : Filmed P api id s' film' := by
  refine ⟨hcounted, hnumbered, fun honce => ?_⟩
  rw [hfilm]
  have hpast := h.frames (Nat.le_trans (authentications_mono htrace) honce)
  exact (hframes.append hawaited).trans hpast

/-- Only a posted `add_viewer` that runs is executed. -/
theorem added_of_quiet {e : ServerEvent P} (hs : (server P api).step s e = some s')
    (hadd : e ≠ .runAddViewer) : s'.stream.added = s.stream.added := by
  cases subscriptionStep_of_step hs with
  | still other still => exact still.added
  | posted j text role isStreaming clock event exist auth trace adding added => exact added
  | runs v vs event => exact absurd event hadd

theorem awaited_of_same (hloops : s'.stream.loops = s.stream.loops)
    (hadded : s'.stream.added = s.stream.added) : s'.awaited id = s.awaited id := by
  unfold Server.awaited Server.underway
  rw [hloops, hadded]

/-- The entries of the session among the viewers that a broadcast reaches. -/
theorem broadcast_count (h : Counted P api id s) (honce : authentications P api s.trace id ≤ 1)
    (alive : SessionId → Bool) :
    (s.stream.controller.viewers.filter alive).count id ≤ if id ∈ s.stream.added then 1 else 0 := by
  have hfilter := (List.filter_sublist (p := alive)
    (l := s.stream.controller.viewers)).count_le id
  have hviewers := h.viewers
  split
  · have hadded := h.added
    rw [List.count_append] at hadded
    omega
  · next hnot =>
    rw [List.count_eq_zero_of_not_mem hnot] at hviewers
    omega

/-- A broadcast hands the session what it awaits, at most. -/
theorem broadcast_awaited (h : Counted P api id s) (honce : authentications P api s.trace id ≤ 1)
    {frame : Bytes} (hloops : s.stream.loops = [.broadcasting frame]) (alive : SessionId → Bool) :
    (framesFor id ((s.stream.controller.viewers.filter alive).map fun v =>
      (v, .live frame))).Sublist (s.awaited id) := by
  have hcount := broadcast_count h honce alive
  have hone : List.replicate 1 frame = s.underway := by
    rw [Server.underway, hloops]
    rfl
  rw [framesFor_broadcast]
  unfold Server.awaited
  split at hcount
  · next hadded =>
    rw [if_pos hadded, ← hone]
    exact List.replicate_sublist_replicate frame |>.2 hcount
  · next hnot =>
    rw [if_neg hnot, Nat.le_zero.1 hcount]
    exact List.Sublist.refl _

theorem loop (h : Filmed P api id s film) {i : Nat} {capture : Capture P} {stream : StreamSystem}
    {sends : List (SessionId × Message)}
    (hloop : s.stream.loop P i capture s.alive = some (stream, sends))
    (hs : (server P api).step s (.loop i capture) = some ((s.setStream stream).sendAll sends)) :
    Filmed P api id ((s.setStream stream).sendAll sends)
      (film.step id s (.loop i capture : ServerEvent P) ((s.setStream stream).sendAll sends)) := by
  refine ⟨h.counted.step hs, h.numbered.step hs, fun honce' => ?_⟩
  have honce := Nat.le_trans (authentications_mono (Server.step_trace hs)) honce'
  have hpast := h.frames honce
  obtain ⟨pc, c, next, rfl, hloops, howners, hc, hnext, hadded⟩ := h.numbered.only hloop
  have hlive : (((s.setStream stream).sendAll sends).sessions id).liveFrames =
      (s.sessions id).liveFrames ++ framesFor id sends := sendAll_liveFrames id sends _
  have hawaited : ((s.setStream stream).sendAll sends).awaited id =
      if id ∈ s.stream.added then next.toList.filterMap LoopPc.frame else [] := by
    unfold Server.awaited Server.underway
    rw [Server.sendAll_stream]
    simp only [Server.setStream, hadded, hnext]
  rw [hlive, hawaited]
  rcases captureLoop_frame hc with ⟨frame, now, rfl, rfl, rfl, rfl⟩ | ⟨hno, hgone⟩
  · -- a conversion
    have hbefore : s.awaited id = [] := by
      unfold Server.awaited Server.underway
      rw [hloops]
      exact ite_self _
    rw [hbefore, List.append_nil] at hpast
    have hnone : framesFor id [] = [] := rfl
    rw [hnone, List.append_nil]
    simp only [Film.step, Server.converts, howners, hloops, List.getElem?_cons_zero, ↓reduceIte]
    split
    · rw [List.map_append]
      exact hpast.append_right _
    · rw [List.append_nil]
      exact hpast
  · -- the film stays as it is, and what was awaited is handed over
    have hfilm : (film.step id s (.loop 0 capture : ServerEvent P)
        ((s.setStream stream).sendAll sends)).converted = film.converted := by
      have hnothing : s.converts 0 capture = none := by
        cases capture with
        | frame frame now =>
          simp only [Server.converts, hloops, List.getElem?_cons_zero, Option.some.injEq]
          exact if_neg fun hpc => hno hpc frame now rfl
        | throws e => rfl
        | empty => rfl
      simp only [Film.step, hnothing, howners, List.getElem?_cons_zero]
    rw [hfilm, hgone, ite_self, List.append_nil]
    refine List.Sublist.trans (List.Sublist.append_left ?_ _) hpast
    rcases captureLoop_viewers hc with ⟨-, -, rfl⟩ | ⟨frame, rfl, -, rfl⟩
    · exact List.nil_sublist _
    · exact broadcast_awaited h.counted honce hloops s.alive

theorem step {e : ServerEvent P} (h : Filmed P api id s film) (hatonce : DispatchesAtOnce s e)
    (hs : (server P api).step s e = some s') : Filmed P api id s' (film.step id s e s') := by
  have hcounted := h.counted.step hs
  have hnumbered : Numbered s' (film.step id s e s') := h.numbered.step hs
  have htrace := Server.step_trace hs
  -- the steps that leave the loops and the executed `add_viewer` alone
  have quiet : (∀ i capture, e ≠ .loop i capture) → (s'.awaited id).Sublist (s.awaited id) →
      (film.step id s e s').converted = film.converted →
      Filmed P api id s' (film.step id s e s') := by
    intro hloop hawaited hfilm
    exact h.of_quiet hcounted hnumbered htrace (liveFrames_of_quiet hs hloop) hawaited hfilm
  cases serverStep_of_step hs with
  | loop i capture stream sends hloop => exact h.loop hloop hs
  | segment i camera content _ hseg =>
    refine quiet nofun ?_ ?_
    · have hunderway : s'.underway = s.underway := by
        unfold Server.underway
        rcases segment_loops h.numbered.loop hseg with hloops | ⟨hnil, hloops⟩
        · rw [hloops]
        · rw [hloops, hnil]
          rfl
      unfold Server.awaited
      rw [added_of_quiet hs nofun, hunderway]
    · simp only [Film.step]
      split <;> rfl
  | runAddViewer stream hadd =>
    refine quiet nofun ?_ rfl
    have hempty : (s.setStream stream).underway = [] := by
      obtain ⟨v, vs, -, rfl⟩ := runAddViewer_eq hadd
      exact hatonce
    unfold Server.awaited
    rw [hempty, ite_self]
    exact List.nil_sublist _
  | _ =>
    refine quiet nofun ?_ rfl
    rw [awaited_of_same ((runsNoMethod_of_step hs nofun).loops nofun) (added_of_quiet hs nofun)]

end Filmed

/-- **Live frames reach each viewer in capture order.** The live frames written to the socket of a
session that has authenticated at most once are those converted since its `add_viewer` has run, with
frames left out: none is written twice, they are in the order of their conversion, and the frames of
a stream come before those of the streams after it. -/
theorem live_frames_in_order (P : Platform) (api : Api) (id : SessionId)
    (es : List (ServerEvent P)) (s : Server) (hrun : (server P api).run {} es = some s)
    (hatonce : (server P api).AllSteps DispatchesAtOnce {} es)
    (honce : authentications P api s.trace id ≤ 1) :
    ∃ fs : List (Nat × Bytes),
      (s.sessions id).written.filterMap Message.liveFrame = fs.map Prod.snd ∧
      fs.Sublist ((server P api).record (Film.step id) {} es {}).converted ∧
      fs.Pairwise fun x y => x.1 ≤ y.1 := by
  have hfilmed : Filmed P api id s ((server P api).record (Film.step id) {} es {}) := by
    refine Machine.record_invariant ?_ Filmed.init hatonce hrun
    intro s e s' film h hc hs
    exact h.step hc hs
  have hwritten : ((s.sessions id).written.filterMap Message.liveFrame).Sublist
      (s.sessions id).liveFrames := by
    unfold Session.liveFrames Session.onTheWay
    rw [List.filterMap_append, List.filterMap_append, List.append_assoc]
    exact List.sublist_append_left _ _
  have hall := hwritten.trans ((List.sublist_append_left _ _).trans (hfilmed.frames honce))
  obtain ⟨fs, hfs, heq⟩ := List.sublist_map_iff.1 hall
  exact ⟨fs, heq, hfs, hfilmed.numbered.ordered.sublist hfs⟩

instance : ∀ (s : Server) (e : ServerEvent x86_64), Decidable (DispatchesAtOnce s e)
  | s, .runAddViewer => inferInstanceAs (Decidable (s.underway = []))
  | _, .connect | _, .session _ _ _ | _, .segment _ _ _ | _, .loop _ _ | _, .playbackExpire
  | _, .playbackHandler _ | _, .destroy _ => .isTrue trivial

/-- A segment of the writer or of a posted handler of the session. -/
def runs (id : SessionId) (e : SessionEvent) : ServerEvent x86_64 := .session id e ⟨noon, 0, true⟩

def secondFrame : Str x86_64 := ⟨lit "second", by decide⟩

def thirdFrame : Str x86_64 := ⟨lit "third", by decide⟩

/-- A viewer, and a controller that starts a stream, and another one when the camera has failed; three
frames reach the viewer's socket. -/
def screening : List (ServerEvent x86_64) :=
  joins 1 ++ [tells 1 "good", .runAddViewer, runs 1 .runPosted, runs 1 (.startWriter 0)] ++
    joins 2 ++ [tells 2 "controller", .runAddViewer, tells 2 "config", .segment 0 .working none,
      .loop 0 .empty, .loop 0 (.frame sampleFrame 0), .loop 0 .empty, runs 1 .runPosted,
      runs 1 .runPosted, runs 1 (.writeDone 0 none), .loop 0 (.frame secondFrame 0),
      .loop 0 .empty, runs 1 .runPosted, runs 1 (.writeDone 0 none),
      .loop 0 (.throws (.runtimeError (lit "camera"))), tells 2 "config", .segment 0 .working none,
      .loop 0 .empty, .loop 0 (.frame thirdFrame 0), .loop 0 .empty, runs 1 .runPosted,
      runs 1 (.writeDone 0 none), runs 1 (.writeDone 0 none)]

theorem live_frames_in_order_screening :
    ∃ s, (server x86_64 sampleApi).run {} screening = some s ∧
      (s.sessions 1).written.filterMap Message.liveFrame =
        [lit "frame", lit "second", lit "third"] ∧
      ((server x86_64 sampleApi).record (Film.step 1) {} screening {}).converted =
        [(1, lit "frame"), (1, lit "second"), (2, lit "third")] ∧
      ∃ fs : List (Nat × Bytes),
        (s.sessions 1).written.filterMap Message.liveFrame = fs.map Prod.snd ∧
        fs.Sublist ((server x86_64 sampleApi).record (Film.step 1) {} screening {}).converted ∧
        fs.Pairwise fun x y => x.1 ≤ y.1 := by
  have hruns : (((server x86_64 sampleApi).restrict DispatchesAtOnce).run {} screening).map
      (fun s => ((s.sessions 1).written.filterMap Message.liveFrame,
        authentications x86_64 sampleApi s.trace 1)) =
          some ([lit "frame", lit "second", lit "third"], 1) := by
    decide +kernel
  have hfilm : ((server x86_64 sampleApi).record (Film.step 1) {} screening {}).converted =
      [(1, lit "frame"), (1, lit "second"), (2, lit "third")] := by decide +kernel
  obtain ⟨s, hs, heq⟩ := Option.map_eq_some_iff.1 hruns
  rw [Prod.mk.injEq] at heq
  obtain ⟨hatonce, hrun⟩ := Machine.run_restrict.1 hs
  exact ⟨s, hrun, heq.1, hfilm, live_frames_in_order x86_64 sampleApi 1 screening s hrun hatonce
    (Nat.le_of_eq heq.2)⟩

end Filming

end AsciiStreamer
