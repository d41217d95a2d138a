import AsciiStreamer.Server.Acknowledged
import AsciiStreamer.Stream.PlaybackSession

/-!
# Who gets the recorded frames

A `playback_start` is executed in one segment, behind the suspensions of `start_playback` and of the
`stop_playback` it awaits: it stops the player, loads the file, names the session and reads the first
frame. So the last one executed decides for every read that follows, whoever causes it, until the next
one is executed (`playback_frames_to_asker`).
-/

namespace AsciiStreamer

open Cxx

/-- The last `playback_start` executed, after a segment: whose message handler executes it, and what
the disk holds under the name. -/
def Server.startAfter {P : Platform} (s : Server) (last : Option PlaybackStart) :
    ServerEvent P → Option PlaybackStart
  | .segment i _ content => match s.stream.tasks[i]? with
    | some ⟨.handler id, .stoppingPlayback filename _⟩ =>
      some ⟨id, filename, content, s.stream.controller.loads filename content⟩
    | _ => last
  | _ => last

/-- The last `playback_start` executed in a run. -/
def lastStart (P : Platform) (api : Api) (es : List (ServerEvent P)) : Option PlaybackStart :=
  (server P api).record (fun s e _ last => s.startAfter last e) {} es none

/-- In this step the session is sent the message. -/
def Sent (s s' : Server) (id : SessionId) (m : Message) : Prop :=
  ∃ ms, (s'.sessions id).posted = (s.sessions id).posted ++ ms ∧ m ∈ ms

/-- The playback, and what is known of who has asked for it. -/
structure Attributed (P : Platform) (api : Api) (s : Server) (last : Option PlaybackStart) :
    Prop where
  handled : Handled P api s
  destructors : DestructorCalls s
  plays : PlaysFrom s.stream.controller last

/-! ## Where a frame is sent -/

section Sending

variable {P : Platform} {api : Api} {s s' : Server} {id : SessionId} {m : Message}

theorem Sent.mem (h : Sent s s' id m) {ms : List Message}
    (hms : (s'.sessions id).posted = (s.sessions id).posted ++ ms) : m ∈ ms := by
  obtain ⟨ms', hms', hmem⟩ := h
  rw [hms] at hms'
  exact List.append_cancel_left hms' ▸ hmem

/-- A session that is sent nothing. -/
theorem not_sent (h : (s'.sessions id).posted = (s.sessions id).posted) : ¬Sent s s' id m := by
  intro hsent
  have hnone : (s'.sessions id).posted = (s.sessions id).posted ++ [] :=
    h.trans (List.append_nil _).symm
  have hmem := hsent.mem hnone
  cases hmem

theorem Sent.mem_sends {stream : StreamSystem} {sends : List (SessionId × Message)}
    (h : Sent s ((s.setStream stream).sendAll sends) id m) : (id, m) ∈ sends := by
  obtain ⟨ms, hms, hfrom⟩ := sendAll_posted id sends (s.setStream stream)
  exact hfrom _ (h.mem hms)

/-- The sessions themselves send replies only. -/
theorem posts_reply {e : SessionEvent} (hexternal : s.external e = true) {σ : Session}
    (hm : m ∈ σ.posts P api e) : ∃ text, m = .reply text := by
  cases e with
  | message text isStreaming =>
    obtain ⟨reply, -, rfl⟩ := List.mem_map.1 hm
    exact ⟨reply, rfl⟩
  | authFailedWritten result =>
    cases result with
    | ok u => cases hm
    | error err => exact ⟨_, List.mem_singleton.1 hm⟩
  | returned result => cases hexternal
  | sendFrame m => cases hexternal
  | _ => cases hm

theorem session_not_sent {j : SessionId} {e : SessionEvent} {clock : Clock} {σ : Session}
    {rs : List Request} (hexternal : s.external e = true)
    (hstep : (s.sessions j).step P api e = some (σ, rs)) (hm : ∀ text, m ≠ .reply text) :
    ¬Sent s (((s.note j e).setSession j σ).requestAll j clock rs) id m := by
  rintro ⟨ms, hposted, hmem⟩
  obtain ⟨rfl, hposts⟩ := session_posts hstep hposted hmem
  obtain ⟨text, htext⟩ := posts_reply hexternal hposts
  exact hm text htext

theorem Sent.segment (h : Handled P api s) {i : Nat} {camera : CameraEnv}
    {content : Option Bytes} (hs : s.methodSegment P api i camera content = some s') {t : Task}
    (ht : s.stream.tasks[i]? = some t) (hsent : Sent s s' id m) (hm : ∀ text, m ≠ .reply text) :
    (id, m) ∈ (t.pc.run P s.stream.controller ⟨camera, content, s.alive⟩).sends := by
  obtain ⟨ms, hposted, hmem⟩ := hsent
  rcases methodSegment_posts h hs ht hposted hmem with hsends | ⟨_, _, -, -, -, -, hreply⟩
  · exact hsends
  · exact absurd hreply (hm _)

end Sending

/-! ## Every step -/

section Steps

variable {P : Platform} {api : Api} {s s' : Server} {e : ServerEvent P}
  {last : Option PlaybackStart}

theorem Attributed.init : Attributed P api {} none := ⟨.init, nofun, .init⟩

/-- The session that `start_playback` gets is the one whose message it handles. -/
theorem Attributed.lastStart (h : Attributed P api s last) {i : Nat} {t : Task}
    (ht : s.stream.tasks[i]? = some t) (camera : CameraEnv) (content : Option Bytes) :
    t.pc.lastStart s.stream.controller content last =
      s.startAfter last (.segment i camera content : ServerEvent P) := by
  simp only [Server.startAfter, ht]
  have hmem := List.mem_of_getElem? ht
  obtain ⟨caller, pc⟩ := t
  cases pc with
  | dispatch call => cases caller <;> rfl
  | polling => cases caller <;> rfl
  | stoppingPlayback filename session =>
    obtain ⟨id, hid⟩ := h.destructors.handled hmem nofun nofun
    cases hid
    obtain ⟨reply, hreader⟩ := h.handled.task _ hmem id rfl
    obtain ⟨text, c, -, -, hawaited⟩ := (h.handled.message id _ reply hreader).command
    rcases awaited_cases hawaited with ⟨_, _, _, -, hcall, -⟩ | ⟨_, -, hcall, -⟩ | ⟨-, hno, -⟩
    · cases hcall
    · cases hcall
      rfl
    · exact absurd rfl (hno filename session)

/-- A step keeps track of the playback, and sends frames of it only. -/
theorem Attributed.step (h : Attributed P api s last) (hs : (server P api).step s e = some s') :
    Attributed P api s' (s.startAfter last e) ∧
      ∀ id frame, Sent s s' id (.playback frame) → ∃ filename content,
        s.startAfter last e = some ⟨id, filename, some content, true⟩ ∧
          IFStream.Piece content frame := by
  have sent : ∀ {id : SessionId} {frame : Bytes} {last' : Option PlaybackStart},
      SentFrom last' (id, .playback frame) → ∃ filename content,
        last' = some ⟨id, filename, some content, true⟩ ∧ IFStream.Piece content frame := by
    rintro id frame last' ⟨filename, content, frame', hlast, hframe, hpiece⟩
    cases hframe
    exact ⟨filename, content, hlast, hpiece⟩
  have kept : KeepsPlayback s.stream.controller s'.stream.controller →
      s.startAfter last e = last → (∀ id frame, ¬Sent s s' id (.playback frame)) →
        Attributed P api s' (s.startAfter last e) ∧
          ∀ id frame, Sent s s' id (.playback frame) → ∃ filename content,
            s.startAfter last e = some ⟨id, filename, some content, true⟩ ∧
              IFStream.Piece content frame := by
    intro hsame hlast hno
    rw [hlast]
    exact ⟨⟨h.handled.step hs, h.destructors.step hs, h.plays.of_same hsame⟩,
      fun id frame hsent => absurd hsent (hno id frame)⟩
  cases serverStep_of_step hs with
  | connect => exact kept ⟨rfl, rfl⟩ rfl fun id frame => not_sent rfl
  | session j e clock σ rs _ hstep =>
    refine kept (session_requested s j e clock σ rs).playback rfl fun id frame => ?_
    exact session_not_sent (external_of_step hs) hstep nofun
  | segment i camera content _ hseg =>
    obtain ⟨t, g, hsegment⟩ := Server.methodSegment_stream hseg
    obtain ⟨ht, rfl, hstream⟩ := segment_eq hsegment
    obtain ⟨hplays, hsends⟩ := Pc.run_playsFrom P ⟨camera, content, s.alive⟩ h.plays t.pc
    rw [h.lastStart ht camera content] at hplays hsends
    refine ⟨⟨h.handled.step hs, h.destructors.step hs, ?_⟩, fun id frame hsent => ?_⟩
    · rw [hstream]
      exact hplays
    · exact sent (hsends _ (Sent.segment h.handled hseg ht hsent nofun))
  | loop i capture stream sends hloop =>
    obtain ⟨pc, c, next, -, hc, rfl⟩ := loop_eq hloop
    refine kept ?_ rfl fun id frame hsent => ?_
    · rw [Server.sendAll_stream]
      exact captureLoop_playback hc
    · obtain ⟨live, hlive⟩ := captureLoop_sends hc hsent.mem_sends
      cases hlive
  | runAddViewer stream hadd =>
    obtain ⟨v, vs, -, rfl⟩ := runAddViewer_eq hadd
    exact kept ⟨rfl, rfl⟩ rfl fun id frame => not_sent rfl
  | playbackExpire stream hexp =>
    have hstream := playbackExpire_timer hexp
    subst hstream
    refine ⟨⟨h.handled.step hs, h.destructors.step hs, h.plays.goesOn ⟨id, .refl _⟩ rfl⟩, ?_⟩
    exact fun id frame hsent => absurd hsent (not_sent rfl)
  | playbackHandler k stream sends hk =>
    obtain ⟨c, -, rfl, rfl⟩ := playbackHandler_reads hk
    obtain ⟨hplays, hsends⟩ := h.plays.played (readsOn_handler P _ k c)
    refine ⟨⟨h.handled.step hs, h.destructors.step hs, ?_⟩, fun id frame hsent => ?_⟩
    · rw [Server.sendAll_stream]
      exact hplays
    · exact sent (hsends _ hsent.mem_sends)
  | destroy j =>
    refine kept ?_ rfl fun id frame => not_sent ?_
    · obtain ⟨tasks, -, hstream⟩ := Server.destroy_tasks s j
      rw [hstream]
      exact ⟨rfl, rfl⟩
    · obtain ⟨isOpen, heq⟩ := Server.destroy_isOpen s j id
      rw [heq]

/-- **Recorded frames go to the session that has asked for them.** A frame that is sent in a step is a
piece of the file of the last `playback_start` executed, by the session it is sent to, and that file
has been loaded. After one whose file was not loaded nothing plays and there is no session. -/
theorem playback_frames_to_asker (P : Platform) (api : Api) (es : List (ServerEvent P)) (s : Server)
    (hrun : (server P api).run {} es = some s) :
    (∀ e s' id frame, (server P api).step s e = some s' → Sent s s' id (.playback frame) →
      ∃ filename content,
        lastStart P api (es ++ [e]) = some ⟨id, filename, some content, true⟩ ∧
          IFStream.Piece content frame) ∧
    ∀ start, lastStart P api es = some start → start.loaded = false →
      s.stream.controller.playbackSession = none ∧
        s.stream.controller.playbackController.isPlaying = false := by
  have h : Attributed P api s (lastStart P api es) :=
    Machine.record_invariant (C := fun _ _ => True) (I := Attributed P api)
      (fun hi _ hs => (hi.step hs).1) .init (.of_forall (fun _ _ => trivial) es _) hrun
  refine ⟨fun e s' id frame hs hsent => ?_, h.plays.refused⟩
  have hlast : lastStart P api (es ++ [e]) = s.startAfter (lastStart P api es) e := by
    unfold lastStart
    rw [Machine.record_append hrun]
    simp only [Machine.record, hs]
  rw [hlast]
  exact (h.step hs).2 id frame hsent

/-- A session plays a file, and another one takes the player over. -/
def takeover : List (ServerEvent x86_64) :=
  joins 1 ++ [tells 1 "play old.asr", .segment 0 .working none,
    .segment 0 .working (some (magic ++ lit "\nframes:\nframe:0:1\nA\nframe:100:1\nB\n"))] ++
    joins 2 ++ [tells 2 "play new.asr", .playbackExpire, .segment 0 .working none]

theorem playback_frames_to_asker_takeover : ∃ s s',
    (server x86_64 playerApi).run {} takeover = some s ∧
    (server x86_64 playerApi).step s (.segment 0 .working
      (some (magic ++ lit "\nframes:\nframe:0:1\nC\n"))) = some s' ∧
    Sent s s' 2 (.playback (lit "C")) ∧ ∃ filename content,
      lastStart x86_64 playerApi (takeover ++ [.segment 0 .working
          (some (magic ++ lit "\nframes:\nframe:0:1\nC\n"))]) =
        some ⟨2, filename, some content, true⟩ ∧ IFStream.Piece content (lit "C") := by
  have hruns : (((server x86_64 playerApi).run {} takeover).bind fun s =>
      ((server x86_64 playerApi).step s (.segment 0 .working
        (some (magic ++ lit "\nframes:\nframe:0:1\nC\n")))).map fun s' => (s, s')).any (fun x =>
          (x.2.sessions 2).posted == (x.1.sessions 2).posted ++
            [.playback (lit "C"), .reply (lit "PLAYBACK_STARTED")]) = true := by decide +kernel
  obtain ⟨⟨s, s'⟩, hx, hposted⟩ := (Option.any_eq_true _ _).1 hruns
  obtain ⟨t, hrun, ht⟩ := Option.bind_eq_some_iff.1 hx
  obtain ⟨t', hstep, heq⟩ := Option.map_eq_some_iff.1 ht
  cases heq
  have hsent : Sent s s' 2 (.playback (lit "C")) := ⟨_, beq_iff_eq.1 hposted, List.mem_cons_self⟩
  exact ⟨s, s', hrun, hstep, hsent,
    (playback_frames_to_asker x86_64 playerApi takeover s hrun).1 _ s' 2 _ hstep hsent⟩

end Steps

end AsciiStreamer
