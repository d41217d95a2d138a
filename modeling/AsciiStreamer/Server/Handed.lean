import AsciiStreamer.Server.Order
import AsciiStreamer.Server.PlaybackSession
import AsciiStreamer.Server.Sessions

/-!
# What a session has been handed

Whatever is written to a session it has been handed before, by its own message handler, by a capture
loop or by the player (`handed_step`, `carries_of_step`). The player hands recorded frames to a session
only if one of the messages of that session has asked for a playback (`Tracked.handed`), and a capture
loop hands it live frames only if one of them has presented the key (`Recognised`).
-/

namespace AsciiStreamer

open Cxx

/-- The messages handed to `send_frame`, the oldest first. -/
def Session.handed (s : Session) : List Message := s.sent ++ s.posted

/-- What has been written stays so, and everything written or queued has been sent. -/
structure Carries (s s' : Session) : Prop where
  written : s.written <+: s'.written
  sent : (∀ m ∈ s.written ++ s.writeQueue, m ∈ s.sent) →
    ∀ m ∈ s'.written ++ s'.writeQueue, m ∈ s'.sent

/-- A message of the session asks for a playback of this file. -/
def AsksFor (P : Platform) (api : Api) (trace : List Obs) (id : SessionId) (filename : Bytes) : Prop :=
  ∃ text ∈ received trace id, ∃ isController,
    decode P api isController text = .ok (.playbackStart filename)

/-! ## What a segment hands on -/

section Segments

variable {P : Platform} {api : Api} {s s' : Session} {e : SessionEvent} {rs : List Request}

theorem handed_of_posted {ms : List Message} (hsent : s'.sent = s.sent)
    (hposted : s'.posted = s.posted ++ ms) : s'.handed = s.handed ++ ms := by
  rw [Session.handed, hsent, hposted, ← List.append_assoc]
  rfl

/-- A segment hands the session what it posts. -/
theorem handed_step (h : s.step P api e = some (s', rs)) :
    s'.handed = s.handed ++ s.posts P api e := by
  have nothing : s'.sent = s.sent → s'.posted = s.posted → s.posts P api e = [] →
      s'.handed = s.handed ++ s.posts P api e := by
    intro hsent hposted hnone
    rw [hnone]
    exact handed_of_posted hsent (hposted.trans (List.append_nil _).symm)
  have hposts := posted_step h
  cases sessionStep_of_step h with
  | accepted ok reader => exact nothing rfl rfl rfl
  | message text isStreaming reader =>
    have hsent : (s.handleMessage P api text isStreaming).1.sent = s.sent :=
      congrArg DropOldest.sent (sameWriter_handleMessage text isStreaming).history
    exact handed_of_posted hsent (handleMessage_posted text isStreaming)
  | readFailed closed reader =>
    have hsent : (s.readFailed closed).sent = s.sent :=
      congrArg DropOldest.sent (sameWriter_readFailed closed).history
    cases closed with
    | true => exact nothing rfl rfl rfl
    | false => exact nothing hsent (sameReading_close s).posted rfl
  | authFailedWritten result reader =>
    cases result with
    | ok u => exact nothing rfl rfl rfl
    | error err => exact handed_of_posted rfl rfl
  | returned result call reply reader =>
    have hposted := returned_posted (s := s) reply result
    simp only [Session.posts, reader]
    cases result with
    | ok u => exact handed_of_posted rfl hposted
    | error err => exact handed_of_posted rfl hposted
  | sendFrame m => exact handed_of_posted rfl rfl
  | runPosted m ms posted =>
    have hposted := (sameReading_queueFrame (s := { s with posted := ms, sent := s.sent ++ [m] }) m).posted
    rw [Session.handed, queueFrame_sent, hposted, Session.handed, posted]
    simp [Session.posts]
  | startWriter i live => exact nothing (doWrite_sent i) (sameReading_doWrite i).posted rfl
  | writeDone i error m live =>
    exact nothing (writeDone_sent i error) (sameReading_writeDone i error).posted rfl
  | disconnected => exact nothing rfl rfl rfl
  | closed closing => exact nothing rfl rfl rfl

theorem Carries.of_history (h : s'.history = s.history) : Carries s s' := by
  have hq : s'.writeQueue = s.writeQueue := congrArg DropOldest.queue h
  have hs : s'.sent = s.sent := congrArg DropOldest.sent h
  have hw : s'.written = s.written := congrArg DropOldest.taken h
  refine ⟨by rw [hw], fun hsent => ?_⟩
  rw [hq, hs, hw]
  exact hsent

theorem carries_queueFrame (m : Message) (ms : List Message) :
    Carries s ({ s with posted := ms, sent := s.sent ++ [m] }.queueFrame m) := by
  have moved : ∀ q : List Message, q ⊆ s.writeQueue →
      (∀ x ∈ s.written ++ s.writeQueue, x ∈ s.sent) →
        ∀ x ∈ s.written ++ (q ++ [m]), x ∈ s.sent ++ [m] := by
    intro q hq hsent x hx
    rw [← List.append_assoc] at hx
    rcases List.mem_append.1 hx with hx | hx
    · refine List.mem_append_left _ (hsent x ?_)
      exact List.append_subset.2 ⟨List.subset_append_left _ _,
        List.subset_append_of_subset_right _ hq⟩ hx
    · exact List.mem_append_right _ hx
  unfold Session.queueFrame
  split
  · exact ⟨List.prefix_refl _, fun hsent x hx => List.mem_append_left _ (hsent x hx)⟩
  · simp only
    split <;> split
    · exact ⟨List.prefix_refl _, moved _ (List.tail_subset _)⟩
    · exact ⟨List.prefix_refl _, moved _ (List.tail_subset _)⟩
    · exact ⟨List.prefix_refl _, moved _ (List.Subset.refl _)⟩
    · exact ⟨List.prefix_refl _, moved _ (List.Subset.refl _)⟩

theorem carries_doWrite (i : Nat) : Carries s (s.proceedWriter i s.doWrite) := by
  unfold Session.doWrite
  split
  · next m q hq _ =>
    refine ⟨List.prefix_append _ _, fun hsent x hx => hsent x ?_⟩
    have heq : s.written ++ [m] ++ q = s.written ++ s.writeQueue := by
      rw [hq, List.append_assoc]
      rfl
    rw [← heq]
    exact hx
  · exact ⟨List.prefix_refl _, id⟩

/-- A segment writes what has been sent. -/
theorem carries_of_step (h : s.step P api e = some (s', rs)) : Carries s s' := by
  cases sessionStep_of_step h with
  | accepted ok reader => exact .of_history rfl
  | message text isStreaming reader => exact .of_history (sameWriter_handleMessage text isStreaming).history
  | readFailed closed reader => exact .of_history (sameWriter_readFailed closed).history
  | authFailedWritten result reader =>
    obtain ⟨texts, heq⟩ := authFailedWritten_eq_answers (s := s) result
    rw [heq]
    exact .of_history rfl
  | returned result call reply reader =>
    rw [returned_eq_answers]
    exact .of_history rfl
  | sendFrame m => exact .of_history rfl
  | runPosted m ms posted => exact carries_queueFrame m ms
  | startWriter i live => exact carries_doWrite i
  | writeDone i error m live =>
    cases error with
    | none => exact carries_doWrite i
    | some err =>
      cases err with
      | aborted => exact .of_history rfl
      | other =>
        obtain ⟨written, sent⟩ := Carries.of_history (sameWriter_close s).history
        exact ⟨written, sent⟩
  | disconnected => exact .of_history rfl
  | closed closing => exact .of_history rfl

end Segments

/-! ## The server -/

section Steps

variable {P : Platform} {api : Api} {s s' : Server} {e : ServerEvent P} {id : SessionId}

/-- What a session has written it was handed before. -/
def Accounted (s : Server) : Prop :=
  ∀ id, ∀ m ∈ (s.sessions id).written ++ (s.sessions id).writeQueue, m ∈ (s.sessions id).sent

theorem carries_of_run {ds : List SessionEvent} {σ σ' : Session}
    (h : (session P api).run σ ds = some σ') : Carries σ σ' := by
  refine Machine.run_invariant (I := fun τ => Carries σ τ) ?_ ds ⟨List.prefix_refl _, id⟩ h
  intro τ d τ' hτ hd
  obtain ⟨⟨τ₁, rs⟩, hstep, rfl⟩ := Option.map_eq_some_iff.1 hd
  have hone := carries_of_step hstep
  exact ⟨hτ.written.trans hone.written, fun hsent => hone.sent (hτ.sent hsent)⟩

theorem carries_of_server (hs : (server P api).step s e = some s') (id : SessionId) :
    Carries (s.sessions id) (s'.sessions id) := by
  obtain ⟨ds, hds⟩ := server_simulates_session P api id [e] s s'
    (Machine.run_cons_some.2 ⟨s', hs, rfl⟩)
  exact carries_of_run hds

theorem Accounted.step (h : Accounted s) (hs : (server P api).step s e = some s') :
    Accounted s' := fun id => (carries_of_server hs id).sent (h id)

/-! ### Sessions to come -/

theorem requestAll_nextId (j : SessionId) (clock : Clock) (rs : List Request) :
    ∀ s : Server, (s.requestAll j clock rs).nextId = s.nextId := by
  induction rs with
  | nil => exact fun s => rfl
  | cons r rs ih =>
    intro s
    have hone : (s.request j clock r).nextId = s.nextId := by
      cases r with
      | call c => exact (Server.invoke_population s _ c).1
      | _ => rfl
    exact (ih _).trans hone

theorem nextId_of_step (hs : (server P api).step s e = some s') : s.nextId ≤ s'.nextId := by
  have hall : ∀ (stream : StreamSystem) (sends : List (SessionId × Message)),
      s.nextId = ((s.setStream stream).sendAll sends).nextId :=
    fun stream sends => (Server.sendAll_population (s.setStream stream) sends).1.symm
  cases serverStep_of_step hs with
  | connect => exact Nat.le_succ _
  | session j d clock σ rs =>
    rw [requestAll_nextId]
    cases d <;> exact Nat.le_refl _
  | segment i camera content _ hseg =>
    obtain ⟨stream, t, -, -, -, -, rfl⟩ := methodSegment_cases hseg
    split
    · exact Nat.le_of_eq (hall _ _)
    · rw [(Server.resume_population _ _ _).1]
      exact Nat.le_of_eq (hall _ _)
  | loop i capture stream sends => exact Nat.le_of_eq (hall stream sends)
  | playbackHandler k stream sends => exact Nat.le_of_eq (hall stream sends)
  | destroy j =>
    unfold Server.destroy
    simp only
    split
    · rw [(Server.invoke_population _ _ _).1]
      exact Nat.le_refl _
    · split
      · rw [(Server.invoke_population _ _ _).1]
        exact Nat.le_refl _
      · exact Nat.le_refl _
  | _ => exact Nat.le_refl _

/-- A message comes from a session that exists. -/
theorem received_of_step (hs : (server P api).step s e = some s')
    (h : ∀ text isStreaming clock, e ≠ .session id (.message text isStreaming) clock) :
    received s'.trace id = received s.trace id := by
  cases sessionView_of_step hs id with
  | own d clock rs event external step received =>
    have hnone : d.text = none := by
      cases d with
      | message text isStreaming => exact absurd event (h text isStreaming clock)
      | _ => rfl
    rw [received, hnone, Option.toList_none, List.append_nil]
  | passive ds other passive live run received => exact received
  | destroyed due event self received => exact received

/-- Sessions that do not exist yet have received nothing. -/
def Unborn (s : Server) : Prop := ∀ id, s.nextId ≤ id → received s.trace id = []

theorem Unborn.step (h : Unborn s) (hs : (server P api).step s e = some s') : Unborn s' := by
  intro id hid
  have hnext : s.nextId ≤ id := Nat.le_trans (nextId_of_step hs) hid
  rw [received_of_step hs, h id hnext]
  rintro text isStreaming clock rfl
  cases serverStep_of_step hs with
  | session _ _ _ _ _ exist =>
    simp only [Server.alive, Bool.and_eq_true, decide_eq_true_eq] at exist
    exact Nat.not_lt_of_le hnext exist.1.2

/-- The session has received the message. -/
theorem received_message {text : Bytes} {isStreaming : Bool} {clock : Clock}
    (hs : (server P api).step s (.session id (.message text isStreaming) clock) = some s') :
    received s'.trace id = received s.trace id ++ [text] := by
  cases sessionView_of_step hs id with
  | own d clock rs event external step received =>
    cases event
    exact received
  | passive ds other => exact absurd rfl (other _ _)
  | destroyed due event => cases event

/-! ### Recorded frames -/

/-- What is done to a session from elsewhere is posted. -/
theorem posted_passive {d : SessionEvent} (hd : d.Passive) {σ σ' : Session} {rs : List Request}
    (h : σ.step P api d = some (σ', rs)) : σ'.posted = σ.posted ++ σ.posts P api d := by
  cases sessionStep_of_step h with
  | sendFrame m => rfl
  | returned result call reply reader =>
    simp only [Session.posts, reader]
    exact returned_posted reply result
  | _ => exact absurd hd not_false

theorem handed_passive {ds : List SessionEvent} (hds : ∀ d ∈ ds, d.Passive) {σ σ' : Session}
    (hrun : (session P api).run σ ds = some σ') :
    ∃ ms, σ'.posted = σ.posted ++ ms ∧ σ'.handed = σ.handed ++ ms := by
  induction ds generalizing σ with
  | nil =>
    rw [Machine.run_nil, Option.some.injEq] at hrun
    subst hrun
    exact ⟨[], (List.append_nil _).symm, (List.append_nil _).symm⟩
  | cons d ds ih =>
    obtain ⟨σ₁, hmap, hrun⟩ := Machine.run_cons_some.1 hrun
    obtain ⟨⟨σ₂, rs⟩, hstep, heq⟩ := Option.map_eq_some_iff.1 hmap
    obtain rfl : σ₂ = σ₁ := heq
    obtain ⟨ms, hposted, hhanded⟩ := ih (fun d' hd' => hds d' (List.mem_cons_of_mem _ hd')) hrun
    have hone := posted_passive (hds d List.mem_cons_self) hstep
    refine ⟨σ.posts P api d ++ ms, ?_, ?_⟩
    · rw [hposted, hone, List.append_assoc]
    · rw [hhanded, handed_step hstep, List.append_assoc]

/-- A recorded frame that a session has been handed it had been before, or is sent in the step. -/
theorem playback_handed (hs : (server P api).step s e = some s') {frame : Bytes}
    (h : .playback frame ∈ (s'.sessions id).handed) :
    .playback frame ∈ (s.sessions id).handed ∨ Sent s s' id (.playback frame) := by
  cases sessionView_of_step hs id with
  | own d clock rs event external step received =>
    rw [handed_step step] at h
    rcases List.mem_append.1 h with h | h
    · exact Or.inl h
    · obtain ⟨text, htext⟩ := posts_reply external h
      cases htext
  | passive ds other passive live run received =>
    obtain ⟨ms, hposted, hhanded⟩ := handed_passive passive run
    rw [hhanded] at h
    rcases List.mem_append.1 h with h | h
    · exact Or.inl h
    · exact Or.inr ⟨ms, hposted, h⟩
  | destroyed due event self received =>
    rw [self] at h
    exact Or.inl h

theorem AsksFor.mono {trace trace' : List Obs} {filename : Bytes}
    (h : AsksFor P api trace id filename) (hsub : trace <+: trace') :
    AsksFor P api trace' id filename := by
  obtain ⟨text, htext, hcommand⟩ := h
  obtain ⟨more, rfl⟩ := hsub
  refine ⟨text, ?_, hcommand⟩
  rw [received_append]
  exact List.mem_append_left _ htext

/-- The sessions, and whom the player serves. -/
structure Tracked (P : Platform) (api : Api) (s : Server) (last : Option PlaybackStart) : Prop where
  attributed : Attributed P api s last
  conversing : Conversing P api s
  start : ∀ start, last = some start → AsksFor P api s.trace start.session start.filename
  handed : ∀ id frame, .playback frame ∈ (s.sessions id).handed →
    ∃ filename, AsksFor P api s.trace id filename

variable {last : Option PlaybackStart}

theorem Tracked.init : Tracked P api {} none :=
  ⟨.init, .init P api, nofun, nofun⟩

/-- A `playback_start` that is executed is the message its session awaits the answer to. -/
theorem Tracked.asks (h : Tracked P api s last) {t : Task} (ht : t ∈ s.stream.tasks)
    (hid : t.handles id) {filename : Bytes} {session : SessionId}
    (hcall : t.pc.call = .startPlayback filename session) : AsksFor P api s.trace id filename := by
  obtain ⟨reply, hreader⟩ := h.attributed.handled.task t ht id hid
  cases h.conversing id with
  | idle xs conversation free => exact absurd (Or.inr ⟨_, _, hreader⟩) free
  | handling xs text conversation pending messages replies =>
    cases pending with
    | rejected apiKey role reader => cases hreader.symm.trans reader
    | calling c call reply' reader decoded awaited =>
      cases hreader.symm.trans reader
      rw [hcall] at awaited
      rcases awaited_cases awaited with ⟨_, _, _, -, hno, -⟩ | ⟨filename', rfl, hsame, -⟩ |
        ⟨-, hno, -⟩
      · cases hno
      · cases hsame
        refine ⟨text, ?_, _, decoded⟩
        rw [messages]
        exact List.mem_append_right _ (List.mem_singleton_self _)
      · exact absurd rfl (hno filename session)

/-- **Recorded frames are handed to sessions that have asked for a playback.** -/
theorem Tracked.step (h : Tracked P api s last) (hs : (server P api).step s e = some s') :
    Tracked P api s' (s.startAfter last e) := by
  have htrace := Server.step_trace hs
  obtain ⟨hattributed, hsent⟩ := h.attributed.step hs
  have hstart : ∀ start, s.startAfter last e = some start →
      AsksFor P api s'.trace start.session start.filename := by
    intro start hlast
    unfold Server.startAfter at hlast
    split at hlast
    · next i camera content =>
      split at hlast
      · next id filename session ht =>
        cases hlast
        exact (h.asks (List.mem_of_getElem? ht) rfl rfl).mono htrace
      · exact (h.start start hlast).mono htrace
    · exact (h.start start hlast).mono htrace
  refine ⟨hattributed, h.conversing.step hs, hstart, fun id frame hframe => ?_⟩
  rcases playback_handed hs hframe with hframe | hframe
  · obtain ⟨filename, hasks⟩ := h.handed id frame hframe
    exact ⟨filename, hasks.mono htrace⟩
  · obtain ⟨filename, content, hlast, -⟩ := hsent id frame hframe
    exact ⟨filename, hstart _ hlast⟩

end Steps

/-! ## Live frames -/

/-- Who is sent live frames has presented the key. -/
def Recognised (api : Api) (s : Server) : Prop :=
  ∀ id, ∀ frame ∈ (s.sessions id).liveFrames, PresentedKey api s.trace id

section Live

variable {P : Platform} {api : Api} {s s' : Server} {e : ServerEvent P}

/-- A capture loop hands its frame to the viewers. -/
theorem recognised_of_loop (h : Recognised api s) (hauthorised : Authorised api s) {i : Nat}
    {capture : Capture P} (hs : (server P api).step s (.loop i capture) = some s') :
    Recognised api s' := by
  have htrace : s.trace ⊆ s'.trace := (Server.step_trace hs).subset
  obtain ⟨⟨stream, sends⟩, hloop, rfl⟩ := Option.map_eq_some_iff.1 (segmentOf_of_step hs)
  obtain ⟨pc, c, next, -, hc, rfl⟩ := loop_eq hloop
  intro id frame hframe
  rw [sendAll_liveFrames] at hframe
  rcases List.mem_append.1 hframe with hframe | hframe
  · exact (h id frame hframe).mono htrace
  · rcases captureLoop_viewers hc with ⟨-, -, rfl⟩ | ⟨broadcast, -, -, rfl⟩
    · cases hframe
    · rw [framesFor_broadcast] at hframe
      have hviewer := List.count_pos_iff.1 (Nat.pos_of_ne_zero (List.mem_replicate.1 hframe).1)
      exact (hauthorised.viewers id (List.mem_of_mem_filter hviewer)).mono htrace

theorem Recognised.step (h : Recognised api s) (hauthorised : Authorised api s)
    (hs : (server P api).step s e = some s') : Recognised api s' := by
  by_cases hloop : ∃ i capture, e = .loop i capture
  · obtain ⟨i, capture, rfl⟩ := hloop
    exact recognised_of_loop h hauthorised hs
  · intro id frame hframe
    have hsub : (s'.sessions id).liveFrames.Sublist (s.sessions id).liveFrames :=
      liveFrames_of_quiet hs fun i capture he => hloop ⟨i, capture, he⟩
    exact (h id frame (hsub.subset hframe)).mono (Server.step_trace hs).subset

end Live

end AsciiStreamer
