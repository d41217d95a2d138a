import AsciiStreamer.Server.Access
import AsciiStreamer.Server.Handlers
import AsciiStreamer.Session.Dialogue

/-!
# The server as one of its sessions sees it

A step of the server is, for a session, a segment of its own, or it is passive: frames are sent to it
and a method it awaits returns, or it is destroyed (`sessionView_of_step`). What a session does in
every environment it does in the server: it keeps up a conversation (`every_session_talks`).
-/

namespace AsciiStreamer

open Cxx

/-- The messages of a session in the trace. -/
def received (trace : List Obs) (id : SessionId) : List Bytes :=
  trace.filterMap fun o => match o with
    | .received j text => if j = id then some text else none
    | _ => none

/-- What the rest of the server does to a session. -/
def SessionEvent.Passive : SessionEvent → Prop
  | .sendFrame (.reply _) => False
  | .sendFrame _ | .returned _ => True
  | _ => False

/-- What a step of the server is for a session. -/
inductive SessionView {P : Platform} (api : Api) (s : Server) (e : ServerEvent P) (s' : Server)
    (id : SessionId) : Prop
  | own (d : SessionEvent) (clock : Clock) (rs : List Request) (event : e = .session id d clock)
      (external : s.external d = true)
      (step : (s.sessions id).step P api d = some (s'.sessions id, rs))
      (received : received s'.trace id = received s.trace id ++ d.text.toList)
  | passive (ds : List SessionEvent) (other : ∀ d clock, e ≠ .session id d clock)
      (passive : ∀ d ∈ ds, d.Passive)
      (live : ∀ frame, .sendFrame (.live frame) ∈ ds → .broadcasting frame ∈ s.stream.loops)
      (run : (session P api).run (s.sessions id) ds = some (s'.sessions id))
      (received : received s'.trace id = received s.trace id)
  | destroyed (due : s.due id = true) (event : e = .destroy id)
      (self : s'.sessions id = { s.sessions id with isOpen := false })
      (received : received s'.trace id = received s.trace id)

/-! ## The messages in the trace -/

section Received

variable {s : Server} {id : SessionId}

theorem received_append (trace trace' : List Obs) :
    received (trace ++ trace') id = received trace id ++ received trace' id :=
  List.filterMap_append

theorem received_other {trace : List Obs} {o : Obs} (h : ∀ text, o ≠ .received id text) :
    received (trace ++ [o]) id = received trace id := by
  have hnone : received [o] id = [] := by
    cases o with
    | received j text =>
      have hj : j ≠ id := by
        rintro rfl
        exact h text rfl
      simp [received, hj]
    | invoked j operation => rfl
    | handed j frame => rfl
  rw [received_append, hnone, List.append_nil]

theorem sendAll_received (id : SessionId) (sends : List (SessionId × Message)) :
    ∀ s : Server, received (s.sendAll sends).trace id = received s.trace id := by
  induction sends with
  | nil => exact fun s => rfl
  | cons x xs ih =>
    intro s
    have hone : received (s.sendTo x.1 x.2).trace id = received s.trace id := by
      cases hm : x.2 with
      | live frame => exact received_other nofun
      | reply text => rfl
      | playback frame => rfl
    exact (ih _).trans hone

theorem invoke_received (s : Server) (caller : Caller) (call : Call) :
    received (s.invoke caller call).trace id = received s.trace id := by
  unfold Server.invoke
  cases call.operation with
  | none => rfl
  | some operation => exact received_other nofun

theorem requestAll_received (j : SessionId) (clock : Clock) (rs : List Request) :
    ∀ s : Server, received (s.requestAll j clock rs).trace id = received s.trace id := by
  induction rs with
  | nil => exact fun s => rfl
  | cons r rs ih =>
    intro s
    have hone : received (s.request j clock r).trace id = received s.trace id := by
      cases r with
      | addViewer => rfl
      | call c => exact invoke_received s _ c
      | startRecording => exact received_other nofun
      | stopRecording => exact received_other nofun
    exact (ih _).trans hone

theorem note_received_self (s : Server) (d : SessionEvent) :
    received (s.note id d).trace id = received s.trace id ++ d.text.toList := by
  cases d with
  | message text isStreaming =>
    have hone : received [.received id text] id = [text] := by simp [received]
    exact (received_append _ _).trans (congrArg _ hone)
  | _ => exact (List.append_nil _).symm

theorem note_received_other {j : SessionId} (h : j ≠ id) (d : SessionEvent) :
    received (s.note j d).trace id = received s.trace id := by
  cases d with
  | message text isStreaming =>
    refine received_other fun text' heq => h ?_
    cases heq
    rfl
  | _ => rfl

theorem destroy_received (s : Server) (j : SessionId) :
    received (s.destroy j).trace id = received s.trace id := by
  unfold Server.destroy
  simp only
  split
  · rw [invoke_received]
    rfl
  · split
    · rw [invoke_received]
      rfl
    · rfl

end Received

/-! ## Every step -/

section Views

variable {P : Platform} {api : Api} {s s' : Server} {e : ServerEvent P} {id : SessionId}

variable (P) (api) (id)

/-- What is sent to a session is what happens to it. -/
theorem sendAll_events (sends : List (SessionId × Message)) : ∀ s : Server,
    ∃ ds : List SessionEvent, (∀ d ∈ ds, ∃ m, (id, m) ∈ sends ∧ d = .sendFrame m) ∧
      (session P api).run (s.sessions id) ds = some ((s.sendAll sends).sessions id) := by
  induction sends with
  | nil => exact fun s => ⟨[], nofun, rfl⟩
  | cons x xs ih =>
    intro s
    have hone : ∃ ds : List SessionEvent, (∀ d ∈ ds, ∃ m, (id, m) ∈ x :: xs ∧ d = .sendFrame m) ∧
        (session P api).run (s.sessions id) ds = some ((s.sendTo x.1 x.2).sessions id) := by
      rw [Server.sendTo_sessions]
      by_cases h : id = x.1
      · rw [← h, Server.setSession_self]
        refine ⟨[.sendFrame x.2], fun d hd => ⟨x.2, ?_, List.mem_singleton.1 hd⟩, rfl⟩
        rw [h]
        exact List.mem_cons_self
      · exact ⟨[], nofun, by rw [Server.setSession_other h]; rfl⟩
    obtain ⟨ds, hds, hrun⟩ := hone
    obtain ⟨ds', hds', hrun'⟩ := ih (s.sendTo x.1 x.2)
    refine ⟨ds ++ ds', fun d hd => ?_, ?_⟩
    · rcases List.mem_append.1 hd with hd | hd
      · exact hds d hd
      · obtain ⟨m, hm, hd⟩ := hds' d hd
        exact ⟨m, List.mem_cons_of_mem _ hm, hd⟩
    · rw [Machine.run_append, hrun]
      exact hrun'

/-- And the return of the method that it awaits. -/
theorem resume_events (s : Server) (caller : Caller) (result : Except Exn Unit) :
    ∃ ds : List SessionEvent, (∀ d ∈ ds, d = .returned result) ∧
      (session P api).run (s.sessions id) ds =
        some ((s.resume P api caller result).sessions id) := by
  unfold Server.resume
  split
  · exact ⟨[], nofun, rfl⟩
  · next j =>
    split
    · next σ rs hstep =>
      by_cases h : id = j
      · subst h
        rw [Server.setSession_self]
        refine ⟨[.returned result], fun d hd => List.mem_singleton.1 hd, ?_⟩
        exact Machine.run_cons_some.2 ⟨σ, Option.map_eq_some_iff.2 ⟨_, hstep, rfl⟩, rfl⟩
      · exact ⟨[], nofun, by rw [Server.setSession_other h]; rfl⟩
    · exact ⟨[], nofun, rfl⟩

variable {P} {api}

/-- A segment of a method sends a session frames of a recording, and returns to it. -/
theorem segment_events {i : Nat} {camera : CameraEnv} {content : Option Bytes}
    (hs : s.methodSegment P api i camera content = some s') :
    (∃ ds : List SessionEvent, (∀ d ∈ ds, d.Passive) ∧
      (∀ frame, .sendFrame (.live frame) ∉ ds) ∧
      (session P api).run (s.sessions id) ds = some (s'.sessions id)) ∧
      received s'.trace id = received s.trace id := by
  obtain ⟨stream, t, -, -, -, -, rfl⟩ := methodSegment_cases hs
  obtain ⟨ds, hds, hrun⟩ := sendAll_events P api id (t.pc.run P s.stream.controller
    ⟨camera, content, s.alive⟩).sends (s.setStream stream)
  have htrace := sendAll_received id (t.pc.run P s.stream.controller
    ⟨camera, content, s.alive⟩).sends (s.setStream stream)
  have hplayback : ∀ d ∈ ds, ∃ frame, d = .sendFrame (.playback frame) := by
    intro d hd
    obtain ⟨m, hm, rfl⟩ := hds d hd
    obtain ⟨frame, hframe⟩ := Pc.run_sends hm
    exact ⟨frame, congrArg _ hframe⟩
  have hpassive : ∀ d ∈ ds, d.Passive := by
    intro d hd
    obtain ⟨frame, rfl⟩ := hplayback d hd
    trivial
  have hlive : ∀ frame, .sendFrame (.live frame) ∉ ds := by
    intro frame hd
    obtain ⟨frame', heq⟩ := hplayback _ hd
    cases heq
  split
  · exact ⟨⟨ds, hpassive, hlive, hrun⟩, htrace⟩
  · next result hn =>
    obtain ⟨ds', hds', hrun'⟩ := resume_events P api id
      ((s.setStream stream).sendAll (t.pc.run P s.stream.controller
        ⟨camera, content, s.alive⟩).sends) t.caller result
    refine ⟨⟨ds ++ ds', fun d hd => ?_, fun frame hd => ?_, ?_⟩, ?_⟩
    · rcases List.mem_append.1 hd with hd | hd
      · exact hpassive d hd
      · rw [hds' d hd]
        trivial
    · rcases List.mem_append.1 hd with hd | hd
      · exact hlive frame hd
      · cases hds' _ hd
    · rw [Machine.run_append]
      exact Option.bind_eq_some_iff.2 ⟨_, hrun, hrun'⟩
    · rw [Server.resume_trace]
      exact htrace

variable {id}

/-- **What a step of the server is for a session.** -/
theorem sessionView_of_step (hs : (server P api).step s e = some s') (id : SessionId) :
    SessionView api s e s' id := by
  cases serverStep_of_step hs with
  | connect => exact .passive [] nofun nofun nofun rfl rfl
  | session j d clock σ rs _ hstep =>
    by_cases hj : id = j
    · subst hj
      refine .own d clock rs rfl (external_of_step hs) ?_ ?_
      · rw [Server.requestAll_sessions, Server.setSession_self]
        exact hstep
      · exact (requestAll_received _ clock rs _).trans (note_received_self s d)
    · refine .passive [] (fun d' clock' heq => ?_) nofun nofun ?_ ?_
      · cases heq
        exact hj rfl
      · rw [Server.requestAll_sessions, Server.setSession_other hj, Server.note_sessions]
        rfl
      · exact (requestAll_received _ clock rs _).trans (note_received_other (Ne.symm hj) d)
  | segment i camera content _ hseg =>
    obtain ⟨⟨ds, hds, hlive, hrun⟩, htrace⟩ := segment_events id hseg
    exact .passive ds nofun hds (fun frame hd => absurd hd (hlive frame)) hrun htrace
  | loop i capture stream sends hloop =>
    obtain ⟨pc, c, next, hi, hc, -⟩ := loop_eq hloop
    obtain ⟨ds, hds, hrun⟩ := sendAll_events P api id sends (s.setStream stream)
    have hframe : ∀ x ∈ sends, ∃ frame, x.2 = .live frame ∧ pc = .broadcasting frame := by
      intro x hx
      rcases captureLoop_viewers hc with ⟨-, -, rfl⟩ | ⟨frame, rfl, -, rfl⟩
      · cases hx
      · obtain ⟨v, -, rfl⟩ := List.mem_map.1 hx
        exact ⟨frame, rfl, rfl⟩
    refine .passive ds nofun (fun d hd => ?_) (fun frame hd => ?_) hrun
      (sendAll_received id sends (s.setStream stream))
    · obtain ⟨m, hm, rfl⟩ := hds d hd
      obtain ⟨frame, hframe, -⟩ := hframe _ hm
      obtain rfl : m = .live frame := hframe
      trivial
    · obtain ⟨m, hm, heq⟩ := hds _ hd
      obtain ⟨frame', hm', rfl⟩ := hframe _ hm
      cases heq
      cases hm'
      exact List.mem_of_getElem? hi
  | runAddViewer stream => exact .passive [] nofun nofun nofun rfl rfl
  | playbackExpire stream => exact .passive [] nofun nofun nofun rfl rfl
  | playbackHandler k stream sends hk =>
    obtain ⟨o, -, rfl⟩ := playbackHandler_eq hk
    obtain ⟨ds, hds, hrun⟩ := sendAll_events P api id
      (s.stream.controller.played o).sends (s.setStream stream)
    have hplayback : ∀ d ∈ ds, ∃ frame, d = .sendFrame (.playback frame) := by
      intro d hd
      obtain ⟨m, hm, rfl⟩ := hds d hd
      obtain ⟨frame, hframe⟩ := played_sends hm
      exact ⟨frame, congrArg _ hframe⟩
    refine .passive ds nofun (fun d hd => ?_) (fun frame hd => ?_) hrun
      (sendAll_received id _ (s.setStream stream))
    · obtain ⟨frame, rfl⟩ := hplayback d hd
      trivial
    · obtain ⟨frame', heq⟩ := hplayback _ hd
      cases heq
  | destroy j hdue =>
    by_cases hj : id = j
    · subst hj
      refine .destroyed hdue rfl ?_ (destroy_received s id)
      rw [Server.destroy_sessions, Function.update_self]
    · refine .passive [] nofun nofun nofun ?_ (destroy_received s j)
      rw [Server.destroy_sessions, Function.update_of_ne hj]
      rfl

/-- A connection that is closed can be told so again. -/
theorem disconnected_again (clock : Clock) (hquiet : s.quiescent = true)
    (halive : s.alive id = true) (hclosed : (s.sessions id).isOpen = false) :
    (server P api).step s (.session id .disconnected clock) = some s := by
  have hsame : ({ s.sessions id with isOpen := false } : Session) = s.sessions id := by
    rw [← hclosed]
  have hset : s.setSession id (s.sessions id) = s := by
    unfold Server.setSession
    rw [Function.update_eq_self]
  have hseg : s.segmentOf P api (.session id .disconnected clock) = some s := by
    simp only [Server.segmentOf, Server.sessionSegment, halive, Server.external, Bool.and_self,
      ↓reduceIte, Session.step, Option.map_some, Server.note, Server.requestAll, List.foldl_nil,
      hsame, hset]
  exact (if_pos hquiet).trans hseg

end Views

/-! ## The conversation -/

section Dialogue

variable {P : Platform} {api : Api} {σ σ' : Session} {texts : List Bytes}

theorem Talk.passive (ds : List SessionEvent) (h : Talk P api σ texts) (hds : ∀ d ∈ ds, d.Passive)
    (hrun : (session P api).run σ ds = some σ') : Talk P api σ' texts := by
  induction ds generalizing σ with
  | nil =>
    rw [Machine.run_nil, Option.some.injEq] at hrun
    exact hrun ▸ h
  | cons d ds ih =>
    obtain ⟨σ₁, hmap, hrun⟩ := Machine.run_cons_some.1 hrun
    obtain ⟨⟨σ₂, rs⟩, hstep, heq⟩ := Option.map_eq_some_iff.1 hmap
    obtain rfl : σ₂ = σ₁ := heq
    have hd := hds d List.mem_cons_self
    have hown : ∀ text, d ≠ .sendFrame (.reply text) := by
      rintro text rfl
      exact hd
    have hnone : d.text = none := by
      cases d with
      | message text isStreaming => exact absurd hd not_false
      | _ => rfl
    have htalk := h.step hstep hown
    rw [hnone, Option.toList_none, List.append_nil] at htalk
    exact ih htalk (fun d' hd' => hds d' (List.mem_cons_of_mem _ hd')) hrun

/-- Every session is in conversation with its client. -/
def Conversing (P : Platform) (api : Api) (s : Server) : Prop :=
  ∀ id, Talk P api (s.sessions id) (received s.trace id)

theorem Conversing.init (P : Platform) (api : Api) : Conversing P api {} := by
  intro id
  refine .idle [] .nil ?_ rfl rfl
  rintro (h | ⟨_, _, h⟩) <;> cases h

theorem Conversing.step {s s' : Server} {e : ServerEvent P} (h : Conversing P api s)
    (hs : (server P api).step s e = some s') : Conversing P api s' := by
  intro id
  cases sessionView_of_step hs id with
  | own d clock rs event external step received =>
    rw [received]
    refine (h id).step step ?_
    rintro text rfl
    cases external
  | passive ds other passive live run received =>
    rw [received]
    exact (h id).passive ds passive run
  | destroyed due event self received =>
    rw [received, self]
    exact (h id).of_same ⟨rfl, rfl, rfl⟩ rfl

/-- **Every session is in conversation with its client.** In every run of the server, whatever the
other sessions, the stream and the player do in between, the messages of a session are answered one
after the other, each as its command says under the rights gained so far; at most the last one is
still to be answered, by what the session awaits. -/
theorem every_session_talks (P : Platform) (api : Api) (es : List (ServerEvent P)) (s : Server)
    (hrun : (server P api).run {} es = some s) (id : SessionId) :
    Talk P api (s.sessions id) (received s.trace id) :=
  Machine.run_invariant (fun h hs => h.step hs) es (Conversing.init P api) hrun id

/-- A viewer joins with a wrong key first, becomes a controller and starts a stream. -/
def introductions : List (ServerEvent x86_64) :=
  [.connect, .session 1 (.accepted true) ⟨noon, 0, true⟩, tells 1 "bad",
    .session 1 (.authFailedWritten (.ok ())) ⟨noon, 0, true⟩, tells 1 "controller", tells 1 "config"]

theorem every_session_talks_introductions : ∃ s,
    (server x86_64 sampleApi).run {} introductions = some s ∧
      received s.trace 1 = [lit "bad", lit "controller", lit "config"] ∧
      Talk x86_64 sampleApi (s.sessions 1) (received s.trace 1) := by
  have hruns : ((server x86_64 sampleApi).run {} introductions).any (fun s =>
      received s.trace 1 == [lit "bad", lit "controller", lit "config"]) = true := by decide +kernel
  obtain ⟨s, hs, htexts⟩ := (Option.any_eq_true _ _).1 hruns
  exact ⟨s, hs, beq_iff_eq.1 htexts, every_session_talks x86_64 sampleApi introductions s hs 1⟩

end Dialogue

end AsciiStreamer
