import AsciiStreamer.Server.Failures
import AsciiStreamer.Server.Order

/-!
# The end of a stream

A stream that nobody stops ends with its controllers: the destructor of a controller session calls
`stop_streaming`. As long as a stream runs, a controller session has not been destroyed, or a stop is
under way (`Attended`). A session is destroyed when nothing refers to it any more, so a stream
outlives the connections of its controllers where something besides their coroutines does: a handler
that `send_frame`, `add_viewer` or `close` has posted, until it has run, or `playback_session_`, which
a playback that comes to its end does not reset (`no_stream_outlives_controllers`).
-/

namespace AsciiStreamer

open Cxx

/-- The connections of all controllers have ended, their coroutines have finished, and neither
`start_streaming` nor `stop_streaming` is pending, nor a destructor that would call it. -/
structure ControllersGone (s : Server) : Prop where
  isOpen : ∀ id, (s.sessions id).isController = true → (s.sessions id).isOpen = false
  reader : ∀ id, (s.sessions id).isController = true → (s.sessions id).reader = .finished
  writers : ∀ id, (s.sessions id).isController = true → (s.sessions id).writers = []
  noStart : ∀ t ∈ s.stream.tasks, ∀ cameraIndex resolution fps,
    t.pc.call ≠ .startStreaming cameraIndex resolution fps
  noStop : ∀ t ∈ s.stream.tasks, t.pc.call ≠ .stopStreaming
  destructors : s.quiescent = true

/-- What keeps a session alive besides its own coroutines. -/
inductive Kept (s : Server) (id : SessionId) : Prop
  | posted (posted : (s.sessions id).posted ≠ [])
  | closing (closing : (s.sessions id).closing = true)
  | adding (adding : id ∈ s.stream.adding)
  | playing (playbackSession : s.stream.controller.playbackSession = some id)

/-- Who can still stop the stream. -/
inductive Attendance (s : Server) : Prop
  | controller (id : SessionId) (isController : (s.sessions id).isController = true)
      (exist : id ∉ s.destroyed)
  | stopping (t : Task) (task : t ∈ s.stream.tasks) (call : t.pc.call = .stopStreaming)

/-- Somebody attends to a stream that runs. -/
structure Attended (P : Platform) (api : Api) (s : Server) : Prop where
  handled : Handled P api s
  destructors : DestructorCalls s
  members : Members s
  attended : s.stream.controller.isStreaming = true → Attendance s

/-! ## What keeps a controller -/

section Controllers

variable {P : Platform} {api : Api} {s s' : Server} {e : ServerEvent P} {id : SessionId}

/-- A method that holds a session was called by its message handler. -/
theorem calling_of_holds (h : Handled P api s) (hd : DestructorCalls s) {t : Task}
    (ht : t ∈ s.stream.tasks) (hholds : Server.Task.holds t id = true) :
    ∃ call reply, (s.sessions id).reader = .calling call reply := by
  have hcall : ∃ filename, t.pc.call = .startPlayback filename id := by
    unfold Server.Task.holds at hholds
    split at hholds
    · next filename session hpc => exact ⟨filename, by rw [hpc, ← beq_iff_eq.1 hholds]; rfl⟩
    · next filename session hpc => exact ⟨filename, by rw [hpc, ← beq_iff_eq.1 hholds]; rfl⟩
    · cases hholds
  obtain ⟨filename, hcall⟩ := hcall
  obtain ⟨j, hj⟩ := hd.handled ht (by rw [hcall]; exact nofun) (by rw [hcall]; exact nofun)
  obtain ⟨reply, hreader⟩ := h.task t ht j hj
  obtain ⟨text, c, -, -, hawaited⟩ := (h.message j _ reply hreader).command
  rw [hcall] at hawaited
  rcases awaited_cases hawaited with ⟨cameraIndex, resolution, fps, -, hno, -⟩ |
    ⟨filename', -, hsame, -⟩ | ⟨-, hno, -⟩
  · cases hno
  · cases hsame
    exact ⟨_, reply, hreader⟩
  · exact absurd rfl (hno filename id)

/-- A session without coroutines that is referred to is kept by something else. -/
theorem kept_of_referenced (h : Handled P api s) (hd : DestructorCalls s)
    (hreader : (s.sessions id).reader = .finished) (hwriters : (s.sessions id).writers = [])
    (href : s.referenced id = true) : Kept s id := by
  simp only [Server.referenced, hreader, hwriters, bne_self_eq_false, List.isEmpty_nil,
    Bool.not_true, Bool.false_or, Bool.or_false, Bool.or_eq_true, Bool.not_eq_true',
    List.isEmpty_eq_false_iff, List.contains_eq_mem, decide_eq_true_eq, beq_iff_eq,
    List.any_eq_true] at href
  rcases href with (((hposted | hclosing) | hadding) | hplaying) | ⟨t, ht, hholds⟩
  · exact .posted hposted
  · exact .closing hclosing
  · exact .adding hadding
  · exact .playing hplaying
  · obtain ⟨call, reply, hcalling⟩ := calling_of_holds h hd ht hholds
    cases hreader.symm.trans hcalling

/-- Nobody ceases to be a controller. -/
theorem isController_of_step (hs : (server P api).step s e = some s')
    (h : (s.sessions id).isController = true) : (s'.sessions id).isController = true := by
  obtain ⟨ds, hds⟩ := server_simulates_session P api id [e] s s' (Machine.run_cons_some.2 ⟨s', hs, rfl⟩)
  refine Machine.run_invariant (I := fun σ : Session => σ.isController = true) ?_ ds h hds
  intro σ d σ' hσ hd
  obtain ⟨⟨σ', rs⟩, hstep, rfl⟩ := Option.map_eq_some_iff.1 hd
  cases step_authority hstep with
  | keeps flags => exact flags.isController.trans hσ
  | granted text isStreaming role event auth isAuthenticated isController =>
    simp only [isController, hσ, Bool.true_or]

/-- Every controller has presented the key. -/
theorem isAuthenticated_of_run {es : List (ServerEvent P)} (hrun : (server P api).run {} es = some s)
    (h : (s.sessions id).isController = true) : (s.sessions id).isAuthenticated = true := by
  obtain ⟨ds, hds⟩ := server_simulates_session P api id es {} s hrun
  have hinit : (({} : Server).sessions id).isController = true →
      (({} : Server).sessions id).isAuthenticated = true := fun hno => absurd hno Bool.false_ne_true
  refine Machine.run_invariant
    (I := fun σ : Session => σ.isController = true → σ.isAuthenticated = true) ?_ ds hinit hds h
  intro σ d σ' hσ hd
  obtain ⟨⟨σ', rs⟩, hstep, rfl⟩ := Option.map_eq_some_iff.1 hd
  cases step_authority hstep with
  | keeps flags =>
    rw [flags.isController, flags.isAuthenticated]
    exact hσ
  | granted text isStreaming role event auth isAuthenticated isController =>
    exact fun _ => isAuthenticated

/-! ## Every step -/

theorem Attended.init : Attended P api {} := ⟨.init, nofun, .init, nofun⟩

/-- Whoever attends to the stream still does where the methods do not run. -/
theorem Attendance.other (h : Attendance s) (hs : (server P api).step s e = some s')
    (hother : ∀ i camera content, e ≠ .segment i camera content) : Attendance s' := by
  cases h with
  | stopping t task call => exact .stopping t ((runsNoMethod_of_step hs hother).tasks.subset task) call
  | controller id isController exist =>
    rcases destroyed_of_step hs with hdest | ⟨j, hdue, rfl, hdest⟩
    · exact .controller id (isController_of_step hs isController) (hdest ▸ exist)
    · by_cases hid : id = j
      · -- its destructor has just called `stop_streaming`
        subst hid
        refine .stopping ⟨.destructor id, .dispatch .stopStreaming⟩ ?_ rfl
        unfold Server.destroy
        simp only [isController, ↓reduceIte, Server.invoke_stream]
        exact List.mem_append_right _ (List.mem_singleton_self _)
      · refine .controller id (isController_of_step hs isController) ?_
        rw [hdest]
        intro hmem
        rcases List.mem_append.1 hmem with hmem | hmem
        · exact exist hmem
        · exact hid (List.mem_singleton.1 hmem)

/-- The method that starts a stream was called by a controller that is there. -/
theorem Attended.starts (h : Attended P api s) {t : Task} (ht : t ∈ s.stream.tasks)
    {cameraIndex fps : Int} {resolution : Bytes}
    (hpc : t.pc = .dispatch (.startStreaming cameraIndex resolution fps)) :
    ∃ id, (s.sessions id).isController = true ∧ id ∉ s.destroyed := by
  obtain ⟨id, hid⟩ := h.destructors.handled ht (by rw [hpc]; exact nofun) (by rw [hpc]; exact nofun)
  obtain ⟨reply, hreader⟩ := h.handled.task t ht id hid
  obtain ⟨text, c, -, hdecode, hawaited⟩ := (h.handled.message id _ reply hreader).command
  refine ⟨id, ?_, fun hmem => ?_⟩
  · have hop : t.pc.call.operation.isSome = true := by rw [hpc]; rfl
    exact decode_privileged hdecode (privileged_of_awaited hawaited hop)
  · cases (h.members.destroyed id hmem).2.symm.trans hreader

/-- A method that stops a stream goes on until it is over. -/
theorem Attended.segment (h : Attended P api s) {i : Nat} {camera : CameraEnv}
    {content : Option Bytes} (hs : (server P api).step s (.segment i camera content) = some s')
    (hon : s'.stream.controller.isStreaming = true) : Attendance s' := by
  obtain ⟨t, g, hseg⟩ := Server.methodSegment_stream (segmentOf_of_step hs)
  obtain ⟨ht, rfl, hstream⟩ := segment_eq hseg
  have hmem := List.mem_of_getElem? ht
  have hdest : s'.destroyed = s.destroyed := (methodSegment_calm (segmentOf_of_step hs)).2.2
  have controller : ∀ id, (s.sessions id).isController = true → id ∉ s.destroyed →
      Attendance s' := by
    intro id hid hexist
    exact .controller id (isController_of_step hs hid) (hdest ▸ hexist)
  rw [hstream] at hon
  have polling : (t.pc.run P s.stream.controller ⟨camera, content, s.alive⟩).next = .inl .polling →
      Attendance s' := by
    intro hn
    refine .stopping ⟨t.caller, .polling⟩ ?_ rfl
    rw [hstream]
    simp only [hn, Task.after, proceed]
    exact List.mem_set (List.getElem?_eq_some_iff.1 ht).1 _
  cases Pc.run_effect P s.stream.controller ⟨camera, content, s.alive⟩ t.pc with
  | started cameraIndex resolution fps call =>
    obtain ⟨id, hid, hexist⟩ := h.starts hmem call
    exact controller id hid hexist
  | failed cameraIndex resolution fps call begins idle spawned cleaned isStreaming =>
    cases isStreaming.symm.trans hon
  | stopping call streaming self spawned cleaned next => exact polling next
  | waiting call streaming self spawned cleaned next => exact polling next
  | cleaned call idle self =>
    rw [self] at hon
    cases hon
  | quiet other same spawned cleaned next =>
    have hbefore := same.isStreaming.symm.trans hon
    cases h.attended hbefore with
    | controller id isController exist => exact controller id isController exist
    | stopping t₀ task call =>
      by_cases hsame : s.stream.tasks[i]? = some t₀
      · -- it would be polling now
        cases ht.symm.trans hsame
        refine absurd ?_ next
        cases hpc : t.pc with
        | polling => exact absurd hpc other
        | dispatch c =>
          rw [hpc] at call
          cases call
          simp only [Pc.run, StreamController.stopStreaming, StreamController.poll, hbefore,
            Bool.not_true, Bool.false_eq_true, ↓reduceIte]
        | stoppingPlayback filename session =>
          rw [hpc] at call
          cases call
      · refine .stopping t₀ ?_ call
        rw [hstream]
        exact mem_proceed task hsame

theorem Attended.step (h : Attended P api s) (hs : (server P api).step s e = some s') :
    Attended P api s' := by
  refine ⟨h.handled.step hs, h.destructors.step hs, h.members.step hs, fun hon => ?_⟩
  have other : (∀ i camera content, e ≠ .segment i camera content) → Attendance s' := by
    intro hother
    rcases (runsNoMethod_of_step hs hother).stream with hoff | hsame
    · cases hoff.symm.trans hon
    · exact (h.attended (hsame.isStreaming.symm.trans hon)).other hs hother
  cases e with
  | segment i camera content => exact h.segment hs hon
  | connect => exact other nofun
  | session id e clock => exact other nofun
  | loop i capture => exact other nofun
  | runAddViewer => exact other nofun
  | playbackExpire => exact other nofun
  | playbackHandler k => exact other nofun
  | destroy id => exact other nofun

/-- **No stream outlives its controllers** where nothing but their coroutines has kept them: once
the controllers are gone and none of them is kept, no stream runs. -/
theorem no_stream_outlives_controllers (P : Platform) (api : Api) (es : List (ServerEvent P))
    (s : Server) (hrun : (server P api).run {} es = some s) (hgone : ControllersGone s)
    (hkept : ∀ id, (s.sessions id).isController = true → s.alive id = true → ¬Kept s id) :
    s.stream.controller.isStreaming = false := by
  have h : Attended P api s := Machine.run_invariant (fun hi hs => hi.step hs) es .init hrun
  refine Bool.eq_false_iff.2 fun hon => ?_
  cases h.attended hon with
  | stopping t task call => exact hgone.noStop t task call
  | controller id isController exist =>
    have hexist := h.members.exist id (isAuthenticated_of_run hrun isController)
    have halive : s.alive id = true := alive_iff.2 ⟨hexist, exist⟩
    -- it would have been destroyed
    have hdue := List.all_eq_true.1 hgone.destructors id (List.mem_range.2 hexist.2)
    have href : s.referenced id = true := by
      simpa only [Server.due, halive, Bool.true_and, Bool.not_not] using hdue
    exact hkept id isController halive (kept_of_referenced h.handled h.destructors
      (hgone.reader id isController) (hgone.writers id isController) href)

/-- A controller starts a stream and plays a file to its end. -/
def played : List (ServerEvent x86_64) :=
  joins 1 ++ [tells 1 "controller", .runAddViewer, tells 1 "config", .segment 0 .working none,
    tells 1 "play old.asr" true, .segment 0 .working none, .segment 0 .working (some singleFrame),
    .playbackExpire, .playbackHandler 0]

/-- Its connection ends, and its posted handlers run. -/
def hangsUp (posted : Nat) : List (ServerEvent x86_64) :=
  [runs 1 .disconnected, runs 1 (.readFailed true)] ++ List.replicate posted (runs 1 .runPosted)

/-- Before that, it asks for a file that does not exist. -/
def replayed : List (ServerEvent x86_64) :=
  played ++ [tells 1 "play gone.asr" true, .segment 0 .working none, .segment 0 .working none] ++
    hangsUp 5 ++ [.destroy 1, .segment 0 .working none, .loop 0 .empty, .segment 0 .working none]

/-- The first session is the only controller. -/
theorem only_controller {es : List (ServerEvent P)} (hrun : (server P api).run {} es = some s)
    (hnext : s.nextId = 2) (hid : (s.sessions id).isController = true) : id = 1 := by
  have h : Members s := Machine.run_invariant (fun hi hs => hi.step hs) es .init hrun
  obtain ⟨hpos, hlt⟩ := h.exist id (isAuthenticated_of_run hrun hid)
  rw [hnext] at hlt
  exact Nat.le_antisymm (Nat.le_of_lt_succ hlt) hpos

/-- The controllers are gone where the only one is. -/
theorem controllersGone_of_only {es : List (ServerEvent P)}
    (hrun : (server P api).run {} es = some s) (hnext : s.nextId = 2)
    (hopen : (s.sessions 1).isOpen = false) (hreader : (s.sessions 1).reader = .finished)
    (hwriters : (s.sessions 1).writers = []) (htasks : s.stream.tasks = [])
    (hquiescent : s.quiescent = true) : ControllersGone s := by
  refine ⟨fun id hid => ?_, fun id hid => ?_, fun id hid => ?_, ?_, ?_, hquiescent⟩
  · rw [only_controller hrun hnext hid]
    exact hopen
  · rw [only_controller hrun hnext hid]
    exact hreader
  · rw [only_controller hrun hnext hid]
    exact hwriters
  · rw [htasks]
    exact nofun
  · rw [htasks]
    exact nofun

theorem no_stream_outlives_controllers_replayed :
    ∃ s, (server x86_64 playerApi).run {} replayed = some s ∧ (s.sessions 1).isController = true ∧
      ControllersGone s ∧ s.stream.controller.isStreaming = false := by
  have hruns : ((server x86_64 playerApi).run {} replayed).any (fun s =>
      (s.sessions 1).isController && s.nextId == 2 && !(s.sessions 1).isOpen &&
      (s.sessions 1).reader == .finished && (s.sessions 1).writers == [] &&
      s.stream.tasks == [] && s.quiescent && !s.alive 1) = true := by decide +kernel
  obtain ⟨s, hs, hfacts⟩ := (Option.any_eq_true _ _).1 hruns
  simp only [Bool.and_eq_true, beq_iff_eq, Bool.not_eq_true'] at hfacts
  obtain ⟨⟨⟨⟨⟨⟨⟨hcon, hnext⟩, hopen⟩, hreader⟩, hwriters⟩, htasks⟩, hquiescent⟩, hdead⟩ := hfacts
  have hgone := controllersGone_of_only hs hnext hopen hreader hwriters htasks hquiescent
  refine ⟨s, hs, hcon, hgone, no_stream_outlives_controllers x86_64 playerApi replayed s hs hgone ?_⟩
  intro id hid halive
  rw [only_controller hs hnext hid] at halive
  cases hdead.symm.trans halive

/-- The playback has come to its end and keeps its session: the stream goes on without controllers. -/
theorem stream_outlives_controllers : ∃ s,
    (server x86_64 playerApi).run {} (played ++ hangsUp 4) = some s ∧ ControllersGone s ∧
      s.stream.controller.isStreaming = true ∧
      s.stream.controller.playbackController.isPlaying = false ∧
      s.stream.controller.playbackSession = some 1 ∧ (s.sessions 1).posted = [] ∧
      (s.sessions 1).closing = false ∧ s.stream.adding = [] := by
  have hruns : ((server x86_64 playerApi).run {} (played ++ hangsUp 4)).any (fun s =>
      s.nextId == 2 && !(s.sessions 1).isOpen && (s.sessions 1).reader == .finished &&
      (s.sessions 1).writers == [] && s.stream.tasks == [] && s.quiescent &&
      s.stream.controller.isStreaming && !s.stream.controller.playbackController.isPlaying &&
      s.stream.controller.playbackSession == some 1 && (s.sessions 1).posted == [] &&
      !(s.sessions 1).closing && s.stream.adding == []) = true := by decide +kernel
  obtain ⟨s, hs, hfacts⟩ := (Option.any_eq_true _ _).1 hruns
  simp only [Bool.and_eq_true, beq_iff_eq, Bool.not_eq_true'] at hfacts
  obtain ⟨⟨⟨⟨⟨⟨hgone, hon⟩, hplaying⟩, hsession⟩, hposted⟩, hclosing⟩, hadding⟩ := hfacts
  obtain ⟨⟨⟨⟨⟨hnext, hopen⟩, hreader⟩, hwriters⟩, htasks⟩, hquiescent⟩ := hgone
  exact ⟨s, hs, controllersGone_of_only hs hnext hopen hreader hwriters htasks hquiescent, hon,
    hplaying, hsession, hposted, hclosing, hadding⟩

end Controllers

end AsciiStreamer
