import AsciiStreamer.Server.Access
import AsciiStreamer.Session.Lifetime

/-!
# Subscriptions

A session whose `add_viewer` has run is to get every frame as long as its connection is open.
`WatchStep` says what one step of the server does to who watches. All steps but one keep every such
session among the viewers; `cleanup` forgets them all, also those that wait for the next stream
(`viewers_kept_iff`).
-/

namespace AsciiStreamer

open Cxx

/-- The connection is open, the `auth` was accepted, and the posted `add_viewer` has run. -/
structure Server.Entitled (s : Server) (id : SessionId) : Prop where
  isOpen : (s.sessions id).isOpen = true
  isAuthenticated : (s.sessions id).isAuthenticated = true
  added : id ∈ s.stream.added

/-- Whoever is entitled to the stream is a viewer, and is handed the frame that is broadcast. -/
def Subscribed (P : Platform) (api : Api) (s : Server) : Prop :=
  ∀ id, s.Entitled id → id ∈ s.stream.controller.viewers ∧
    ∀ i capture frame s', s.stream.loops[i]? = some (.broadcasting frame) →
      (server P api).step s (.loop i capture) = some s' →
        ∃ handed, s'.trace = s.trace ++ handed ∧ .handed id frame ∈ handed

/-- When `cleanup` runs, the connections of all viewers are gone. -/
def KeepsViewers {P : Platform} (s : Server) : ServerEvent P → Prop
  | .segment i _ _ => ∀ t, s.stream.tasks[i]? = some t → t.pc = .polling →
    s.stream.controller.isStreaming = false →
      ∀ v ∈ s.stream.controller.viewers, (s.sessions v).isOpen = false
  | _ => True

/-! ## What a step does to who watches -/

/-- A session goes on with the permissions it had. -/
structure Quiet (s s' : Session) : Prop where
  life : Life s s'
  isAuthenticated : s'.isAuthenticated = s.isAuthenticated

/-- And nothing happens to its connection. -/
structure Calm (s s' : Session) : Prop extends Quiet s s' where
  isOpen : s'.isOpen = s.isOpen

/-- A step after which those who watched and are entitled to still do. -/
structure Frame (s s' : Server) : Prop where
  sessions : ∀ id, Quiet (s.sessions id) (s'.sessions id)
  nextId : s.nextId ≤ s'.nextId
  destroyed : s'.destroyed = s.destroyed
  adding : s'.stream.adding = s.stream.adding
  added : s'.stream.added = s.stream.added
  viewers : ∀ v ∈ s'.stream.controller.viewers, v ∈ s.stream.controller.viewers
  kept : ∀ v ∈ s.stream.controller.viewers, s.Entitled v → v ∈ s'.stream.controller.viewers
  tasks : ∀ t ∈ s'.stream.tasks, t ∈ s.stream.tasks ∨ ∀ id, t.pc ≠ .dispatch (.removeViewerById id)

/-- The session presents the key: its `add_viewer` is posted. -/
structure Granted (s s' : Server) (id : SessionId) (σ : Session) : Prop where
  sessions : s'.sessions = Function.update s.sessions id σ
  exist : 0 < id ∧ id < s.nextId
  life : Life (s.sessions id) σ
  reading : (s.sessions id).reader = .reading
  isAuthenticated : σ.isAuthenticated = true
  nextId : s'.nextId = s.nextId
  destroyed : s'.destroyed = s.destroyed
  adding : s'.stream.adding = s.stream.adding ++ [id]
  added : s'.stream.added = s.stream.added
  viewers : s'.stream.controller.viewers = s.stream.controller.viewers
  tasks : s'.stream.tasks = s.stream.tasks

/-- `cleanup` has run. -/
structure Cleared (s s' : Server) : Prop where
  sessions : ∀ id, Calm (s.sessions id) (s'.sessions id)
  nextId : s'.nextId = s.nextId
  destroyed : s'.destroyed = s.destroyed
  adding : s'.stream.adding = s.stream.adding
  added : s'.stream.added = s.stream.added
  viewers : s'.stream.controller.viewers = []
  tasks : ∀ t ∈ s'.stream.tasks, t ∈ s.stream.tasks ∨ ∀ id, t.pc ≠ .dispatch (.removeViewerById id)

/-- The destructor of the session has run. -/
structure Ended (s s' : Server) (id : SessionId) : Prop where
  due : (s.sessions id).reader = .finished
  sessions : s'.sessions = Function.update s.sessions id { s.sessions id with isOpen := false }
  nextId : s'.nextId = s.nextId
  destroyed : s'.destroyed = s.destroyed ++ [id]
  adding : s'.stream.adding = s.stream.adding
  added : s'.stream.added = s.stream.added
  viewers : s'.stream.controller.viewers = s.stream.controller.viewers
  tasks : ∀ t ∈ s'.stream.tasks, t ∈ s.stream.tasks ∨
    ∀ j, t.pc = .dispatch (.removeViewerById j) → j = id

inductive WatchStep {P : Platform} (s : Server) (e : ServerEvent P) (s' : Server) : Prop
  | quiet (keeps : KeepsViewers s e) (frame : Frame s s')
  | granted (id : SessionId) (σ : Session) (keeps : KeepsViewers s e) (granted : Granted s s' id σ)
  | subscribed (v : SessionId) (vs : List SessionId) (keeps : KeepsViewers s e)
      (adding : s.stream.adding = v :: vs)
      (runs : s' = s.setStream { s.stream with
        controller := s.stream.controller.addViewer v, adding := vs, added := s.stream.added ++ [v] })
  | cleared (cleared : Cleared s s') (forgets : KeepsViewers s e ↔
        ∀ v ∈ s.stream.controller.viewers, (s.sessions v).isOpen = false)
  | ended (id : SessionId) (keeps : KeepsViewers s e) (ended : Ended s s' id)

/-! ## Who watches, in every state -/

/-- Sessions exist before they have permissions; a destroyed one is closed for good; viewers have
been added, whoever was added is authenticated, and only the destroyed are removed. -/
structure Members (s : Server) : Prop where
  exist : ∀ id, (s.sessions id).isAuthenticated = true → 0 < id ∧ id < s.nextId
  accepting : ∀ id, (s.sessions id).reader = .accepting → (s.sessions id).isAuthenticated = false
  destroyed : ∀ id ∈ s.destroyed, (s.sessions id).isOpen = false ∧
    (s.sessions id).reader = .finished
  adding : ∀ id ∈ s.stream.adding, (s.sessions id).isAuthenticated = true
  added : ∀ id ∈ s.stream.added, (s.sessions id).isAuthenticated = true
  viewers : ∀ id ∈ s.stream.controller.viewers, id ∈ s.stream.added
  removals : ∀ t ∈ s.stream.tasks, ∀ id, t.pc = .dispatch (.removeViewerById id) →
    id ∈ s.destroyed

section Sessions

variable {P : Platform} {api : Api} {s s' s'' : Session}

theorem Quiet.refl (s : Session) : Quiet s s := ⟨.refl s, rfl⟩

theorem Calm.refl (s : Session) : Calm s s := ⟨.refl s, rfl⟩

theorem Calm.trans (h : Calm s s') (h' : Calm s' s'') : Calm s s'' := by
  refine ⟨⟨h.life.trans h'.life, ?_⟩, ?_⟩
  · rw [h'.isAuthenticated, h.isAuthenticated]
  · rw [h'.isOpen, h.isOpen]

end Sessions

theorem alive_iff {s : Server} {id : SessionId} :
    s.alive id = true ↔ (0 < id ∧ id < s.nextId) ∧ id ∉ s.destroyed := by
  simp only [Server.alive, Bool.and_eq_true, decide_eq_true_eq, Bool.not_eq_true',
    List.contains_eq_mem, decide_eq_false_iff_not]

namespace Members

variable {P : Platform} {api : Api} {s s' : Server} {e : ServerEvent P} {id : SessionId}

theorem init : Members {} :=
  ⟨nofun, fun _ _ => rfl, nofun, nofun, nofun, nofun, nofun⟩

theorem alive (h : Members s) (hid : s.Entitled id) : s.alive id = true := by
  obtain ⟨hpos, hlt⟩ := h.exist id hid.isAuthenticated
  have hdest : id ∉ s.destroyed := by
    intro hmem
    have hopen := hid.isOpen
    rw [(h.destroyed id hmem).1] at hopen
    cases hopen
  exact alive_iff.2 ⟨⟨hpos, hlt⟩, hdest⟩

/-- Nobody becomes entitled without having been. -/
theorem entitled_of_quiet (h : Members s) (hq : Quiet (s.sessions id) (s'.sessions id))
    (hid : s'.Entitled id) (hadded : id ∈ s.stream.added) : s.Entitled id := by
  have hauth : (s.sessions id).isAuthenticated = true := by
    rw [← hq.isAuthenticated]
    exact hid.isAuthenticated
  refine ⟨?_, hauth, hadded⟩
  rcases hq.life.isOpen hid.isOpen with hopen | hr
  · exact hopen
  · rw [h.accepting id hr] at hauth
    cases hauth

/-- The invariant after the sessions have gone on and the methods have run. -/
theorem of_quiet (h : Members s) (hs : ∀ id, Quiet (s.sessions id) (s'.sessions id))
    (hnext : s.nextId ≤ s'.nextId) (hdest : s'.destroyed = s.destroyed)
    (hadding : s'.stream.adding = s.stream.adding) (hadded : s'.stream.added = s.stream.added)
    (hviewers : ∀ v ∈ s'.stream.controller.viewers, v ∈ s.stream.controller.viewers)
    (htasks : ∀ t ∈ s'.stream.tasks, t ∈ s.stream.tasks ∨
      ∀ id, t.pc ≠ .dispatch (.removeViewerById id)) : Members s' := by
  refine ⟨fun id hid => ?_, fun id hr => ?_, fun id hid => ?_, fun id hid => ?_, fun id hid => ?_,
    fun id hid => ?_, fun t ht id hpc => ?_⟩
  · rw [(hs id).isAuthenticated] at hid
    obtain ⟨hpos, hlt⟩ := h.exist id hid
    exact ⟨hpos, Nat.lt_of_lt_of_le hlt hnext⟩
  · rw [(hs id).isAuthenticated]
    exact h.accepting id ((hs id).life.accepting hr)
  · rw [hdest] at hid
    obtain ⟨hopen, hfin⟩ := h.destroyed id hid
    refine ⟨Bool.eq_false_iff.2 fun hopen' => ?_, (hs id).life.finished hfin⟩
    rcases (hs id).life.isOpen hopen' with ho | hr
    · rw [hopen] at ho
      cases ho
    · rw [hfin] at hr
      cases hr
  · rw [hadding] at hid
    rw [(hs id).isAuthenticated]
    exact h.adding id hid
  · rw [hadded] at hid
    rw [(hs id).isAuthenticated]
    exact h.added id hid
  · rw [hadded]
    exact h.viewers id (hviewers id hid)
  · rw [hdest]
    rcases htasks t ht with hmem | hne
    · exact h.removals t hmem id hpc
    · exact absurd hpc (hne id)

theorem of_granted (h : Members s) {σ : Session} (hg : Granted s s' id σ) : Members s' := by
  have hself : s'.sessions id = σ := by rw [hg.sessions, Function.update_self]
  have hother : ∀ j, j ≠ id → s'.sessions j = s.sessions j := by
    intro j hj
    rw [hg.sessions, Function.update_of_ne hj]
  have hauth : ∀ j, (s.sessions j).isAuthenticated = true →
      (s'.sessions j).isAuthenticated = true := by
    intro j hj
    by_cases hid : j = id
    · rw [hid, hself]
      exact hg.isAuthenticated
    · rw [hother j hid]
      exact hj
  refine ⟨fun j hj => ?_, fun j hr => ?_, fun j hj => ?_, fun j hj => ?_, fun j hj => ?_,
    fun j hj => ?_, fun t ht j hpc => ?_⟩
  · rw [hg.nextId]
    by_cases hid : j = id
    · exact hid ▸ hg.exist
    · rw [hother j hid] at hj
      exact h.exist j hj
  · by_cases hid : j = id
    · rw [hid, hself] at hr
      have hacc := hg.life.accepting hr
      rw [hg.reading] at hacc
      cases hacc
    · rw [hother j hid] at hr ⊢
      exact h.accepting j hr
  · rw [hg.destroyed] at hj
    have hid : j ≠ id := by
      rintro rfl
      have hfin := (h.destroyed j hj).2
      rw [hg.reading] at hfin
      cases hfin
    rw [hother j hid]
    exact h.destroyed j hj
  · rw [hg.adding] at hj
    rcases List.mem_append.1 hj with hj | hj
    · exact hauth j (h.adding j hj)
    · rw [List.mem_singleton.1 hj, hself]
      exact hg.isAuthenticated
  · rw [hg.added] at hj
    exact hauth j (h.added j hj)
  · rw [hg.viewers] at hj
    rw [hg.added]
    exact h.viewers j hj
  · rw [hg.tasks] at ht
    rw [hg.destroyed]
    exact h.removals t ht j hpc

theorem of_ended (h : Members s) (he : Ended s s' id) : Members s' := by
  have hself : s'.sessions id = { s.sessions id with isOpen := false } := by
    rw [he.sessions, Function.update_self]
  have hother : ∀ j, j ≠ id → s'.sessions j = s.sessions j := by
    intro j hj
    rw [he.sessions, Function.update_of_ne hj]
  have hflags : ∀ j, (s'.sessions j).isAuthenticated = (s.sessions j).isAuthenticated ∧
      (s'.sessions j).reader = (s.sessions j).reader := by
    intro j
    by_cases hid : j = id
    · subst hid
      rw [hself]
      exact ⟨rfl, rfl⟩
    · rw [hother j hid]
      exact ⟨rfl, rfl⟩
  refine ⟨fun j hj => ?_, fun j hr => ?_, fun j hj => ?_, fun j hj => ?_, fun j hj => ?_,
    fun j hj => ?_, fun t ht j hpc => ?_⟩
  · rw [(hflags j).1] at hj
    rw [he.nextId]
    exact h.exist j hj
  · rw [(hflags j).2] at hr
    rw [(hflags j).1]
    exact h.accepting j hr
  · rw [he.destroyed] at hj
    by_cases hid : j = id
    · subst hid
      rw [hself]
      exact ⟨rfl, he.due⟩
    · rw [hother j hid]
      rcases List.mem_append.1 hj with hj | hj
      · exact h.destroyed j hj
      · exact absurd (List.mem_singleton.1 hj) hid
  · rw [he.adding] at hj
    rw [(hflags j).1]
    exact h.adding j hj
  · rw [he.added] at hj
    rw [(hflags j).1]
    exact h.added j hj
  · rw [he.viewers] at hj
    rw [he.added]
    exact h.viewers j hj
  · rw [he.destroyed]
    rcases he.tasks t ht with hmem | hid
    · exact List.mem_append_left _ (h.removals t hmem j hpc)
    · rw [hid j hpc]
      exact List.mem_append_right _ (List.mem_singleton_self _)

/-- Who watches is who it should be, after every step. -/
theorem watch (h : Members s) (hw : WatchStep s e s') : Members s' := by
  cases hw with
  | quiet keeps frame =>
    exact h.of_quiet frame.sessions frame.nextId frame.destroyed frame.adding frame.added
      frame.viewers frame.tasks
  | granted id σ keeps hg => exact h.of_granted hg
  | subscribed v vs keeps adding runs =>
    subst runs
    refine ⟨h.exist, h.accepting, h.destroyed, fun id hid => ?_, fun id hid => ?_, fun id hid => ?_,
      h.removals⟩
    · exact h.adding id (adding ▸ List.mem_cons_of_mem _ hid)
    · rcases List.mem_append.1 hid with hid | hid
      · exact h.added id hid
      · rw [List.mem_singleton.1 hid]
        exact h.adding v (adding ▸ List.mem_cons_self)
    · rcases List.mem_append.1 hid with hid | hid
      · exact List.mem_append_left _ (h.viewers id hid)
      · exact List.mem_append_right _ hid
  | cleared hc =>
    refine h.of_quiet (fun id => (hc.sessions id).toQuiet) (hc.nextId ▸ Nat.le_refl _) hc.destroyed
      hc.adding hc.added (fun v hv => ?_) hc.tasks
    rw [hc.viewers] at hv
    cases hv
  | ended id keeps he => exact h.of_ended he

end Members

/-! ## Every step -/

section Steps

variable {P : Platform} {api : Api} {s s' : Server}

theorem sendAll_calm (s : Server) (sends : List (SessionId × Message)) (id : SessionId) :
    Calm (s.sessions id) ((s.sendAll sends).sessions id) := by
  obtain ⟨ms, heq, -⟩ := Server.sendAll_posts sends id s
  rw [heq]
  exact ⟨⟨.of_reader (fun ho => ho) rfl, rfl⟩, rfl⟩

theorem resume_calm (s : Server) (caller : Caller) (result : Except Exn Unit) (id : SessionId) :
    Calm (s.sessions id) ((s.resume P api caller result).sessions id) := by
  unfold Server.resume
  split
  · exact .refl _
  · next j =>
    split
    · next σ rs hσ =>
      by_cases h : id = j
      · subst h
        rw [Server.setSession_self]
        refine ⟨⟨step_life hσ, ?_⟩, (returned_running hσ).1⟩
        rcases step_authority hσ with flags | ⟨text, isStreaming, role, event, -, -, -, -⟩
        · exact flags.isAuthenticated
        · cases event
      · rw [Server.setSession_other h]
        exact .refl _
    · exact .refl _

/-- What a segment of a method does to the sessions. -/
theorem methodSegment_calm {i : Nat} {camera : CameraEnv} {content : Option Bytes}
    (h : s.methodSegment P api i camera content = some s') :
    (∀ id, Calm (s.sessions id) (s'.sessions id)) ∧ s'.nextId = s.nextId ∧
      s'.destroyed = s.destroyed := by
  obtain ⟨⟨stream, t, g⟩, -, rfl⟩ := Option.map_eq_some_iff.1 h
  have hsend : ∀ id, Calm (s.sessions id)
      (((s.setStream stream).sendAll g.sends).sessions id) :=
    fun id => sendAll_calm (s.setStream stream) g.sends id
  obtain ⟨hnext, hdest⟩ := Server.sendAll_population (s.setStream stream) g.sends
  simp only
  split
  · exact ⟨hsend, hnext, hdest⟩
  · next result _ =>
    obtain ⟨hnext', hdest'⟩ := @Server.resume_population P api
      ((s.setStream stream).sendAll g.sends) t.caller result
    exact ⟨fun id => (hsend id).trans (resume_calm _ _ _ id), hnext'.trans hnext,
      hdest'.trans hdest⟩

/-- The methods suspended after a segment: no removal begins. -/
theorem proceed_removals {tasks : List Task} {i : Nat} {t : Task} {env : Env}
    {c : StreamController} (x : Task)
    (hx : x ∈ proceed tasks i (t.after (t.pc.run P c env).next)) :
    x ∈ tasks ∨ ∀ id, x.pc ≠ .dispatch (.removeViewerById id) := by
  rcases mem_of_mem_proceed hx with hmem | hmem
  · exact Or.inl hmem
  · right
    intro id hpc
    cases hn : (t.pc.run P c env).next with
    | inl pc =>
      rw [hn, Task.after, Option.some.injEq] at hmem
      rw [← hmem] at hpc
      exact (Pc.run_suspends hn).ne_dispatch _ hpc
    | inr r =>
      rw [hn] at hmem
      cases hmem

/-- What the requests of a message other than an accepted `auth` leave alone. -/
structure Asked (s s' : Server) (rs : List Request) : Prop where
  sessions : s'.sessions = s.sessions
  nextId : s'.nextId = s.nextId
  destroyed : s'.destroyed = s.destroyed
  adding : s'.stream.adding = s.stream.adding
  added : s'.stream.added = s.stream.added
  viewers : s'.stream.controller.viewers = s.stream.controller.viewers
  tasks : ∀ t ∈ s'.stream.tasks, t ∈ s.stream.tasks ∨
    ∃ call, .call call ∈ rs ∧ t.pc = .dispatch call

theorem Asked.refl (s : Server) : Asked s s [] :=
  ⟨rfl, rfl, rfl, rfl, rfl, rfl, fun _ ht => Or.inl ht⟩

theorem invoke_asked (s : Server) (caller : Caller) (call : Call) :
    Asked s (s.invoke caller call) [.call call] := by
  have htasks : ∀ t ∈ (s.stream.invoke caller call).tasks, t ∈ s.stream.tasks ∨
      ∃ c, .call c ∈ [Request.call call] ∧ t.pc = .dispatch c := by
    intro t ht
    rcases List.mem_append.1 ht with ht | ht
    · exact Or.inl ht
    · rw [List.mem_singleton] at ht
      subst ht
      exact Or.inr ⟨call, List.mem_singleton_self _, rfl⟩
  unfold Server.invoke
  cases call.operation with
  | none => exact ⟨rfl, rfl, rfl, rfl, rfl, rfl, htasks⟩
  | some operation => exact ⟨rfl, rfl, rfl, rfl, rfl, rfl, htasks⟩

theorem request_asked (s : Server) (id : SessionId) (clock : Clock) {r : Request}
    (hr : r ≠ .addViewer) : Asked s (s.request id clock r) [r] := by
  cases r with
  | addViewer => exact absurd rfl hr
  | call c => exact invoke_asked s _ c
  | startRecording =>
    exact ⟨rfl, rfl, rfl, rfl, rfl, startRecording_viewers _ _ _ _, fun t ht => Or.inl ht⟩
  | stopRecording =>
    exact ⟨rfl, rfl, rfl, rfl, rfl, stopRecording_viewers _ _, fun t ht => Or.inl ht⟩

theorem requestAll_asked (s : Server) (id : SessionId) (clock : Clock) {rs : List Request}
    (h : .addViewer ∉ rs) : Asked s (s.requestAll id clock rs) rs := by
  induction rs generalizing s with
  | nil => exact .refl s
  | cons r rs ih =>
    have hone := request_asked s id clock (r := r) fun hr => h (hr ▸ List.mem_cons_self)
    have hrest := ih (s.request id clock r) fun hmem => h (List.mem_cons_of_mem _ hmem)
    refine ⟨hrest.sessions.trans hone.sessions, hrest.nextId.trans hone.nextId,
      hrest.destroyed.trans hone.destroyed, hrest.adding.trans hone.adding,
      hrest.added.trans hone.added, hrest.viewers.trans hone.viewers, fun t ht => ?_⟩
    rcases hrest.tasks t ht with hmem | ⟨call, hmem, hpc⟩
    · rcases hone.tasks t hmem with hmem | ⟨call, hmem, hpc⟩
      · exact Or.inl hmem
      · exact Or.inr ⟨call, List.mem_singleton.1 hmem ▸ List.mem_cons_self, hpc⟩
    · exact Or.inr ⟨call, List.mem_cons_of_mem _ hmem, hpc⟩

theorem sessionSegment_watch {id : SessionId} {e : SessionEvent} {clock : Clock} {σ : Session}
    {rs : List Request} (hexist : s.alive id = true)
    (hstep : (s.sessions id).step P api e = some (σ, rs)) :
    WatchStep s (.session id e clock : ServerEvent P)
      (((s.note id e).setSession id σ).requestAll id clock rs) := by
  obtain ⟨hnext, hdest⟩ : (s.note id e).nextId = s.nextId ∧ (s.note id e).destroyed = s.destroyed := by
    cases e <;> exact ⟨rfl, rfl⟩
  rcases step_authority hstep with flags | ⟨text, isStreaming, role, rfl, -, hauth, -, rfl⟩
  · have hasked := requestAll_asked ((s.note id e).setSession id σ) id clock flags.noViewer
    refine .quiet trivial ⟨fun j => ?_, ?_, ?_, ?_, ?_, fun v hv => ?_, fun v hv _ => ?_,
      fun t ht => ?_⟩
    · rw [hasked.sessions]
      by_cases hj : j = id
      · subst hj
        rw [Server.setSession_self]
        exact ⟨step_life hstep, flags.isAuthenticated⟩
      · rw [Server.setSession_other hj, Server.note_sessions]
        exact .refl _
    · rw [hasked.nextId]
      exact hnext ▸ Nat.le_refl _
    · rw [hasked.destroyed]
      exact hdest
    · rw [hasked.adding, Server.setSession_stream, Server.note_stream]
    · rw [hasked.added, Server.setSession_stream, Server.note_stream]
    · rw [hasked.viewers, Server.setSession_stream, Server.note_stream] at hv
      exact hv
    · rw [hasked.viewers, Server.setSession_stream, Server.note_stream]
      exact hv
    · rcases hasked.tasks t ht with hmem | ⟨call, hmem, hpc⟩
      · rw [Server.setSession_stream, Server.note_stream] at hmem
        exact Or.inl hmem
      · right
        intro j hj
        rw [hpc, Pc.dispatch.injEq] at hj
        exact flags.noRemoval j (hj ▸ hmem)
  · simp only [Server.alive, Bool.and_eq_true, decide_eq_true_eq] at hexist
    exact .granted id σ trivial ⟨rfl, hexist.1, step_life hstep, reading_of_message hstep, hauth,
      hnext, hdest, rfl, rfl, rfl, rfl⟩

theorem methodSegment_watch (hm : Members s) {i : Nat} {camera : CameraEnv}
    {content : Option Bytes} (hs : s.methodSegment P api i camera content = some s') :
    WatchStep s (.segment i camera content : ServerEvent P) s' := by
  obtain ⟨hcalm, hnext, hdest⟩ := methodSegment_calm hs
  obtain ⟨t, g, hseg⟩ := Server.methodSegment_stream hs
  obtain ⟨ht, rfl, hstream⟩ := segment_eq hseg
  have hself := congrArg StreamSystem.controller hstream
  have htasks := congrArg StreamSystem.tasks hstream
  have hadding := congrArg StreamSystem.adding hstream
  have hadded := congrArg StreamSystem.added hstream
  have hrem : ∀ x ∈ s'.stream.tasks, x ∈ s.stream.tasks ∨
      ∀ id, x.pc ≠ .dispatch (.removeViewerById id) := by
    intro x hx
    rw [htasks] at hx
    exact proceed_removals x hx
  cases Pc.run_viewers P s.stream.controller ⟨camera, content, s.alive⟩ t.pc with
  | same other hsame =>
    refine .quiet ?_ ⟨fun id => (hcalm id).toQuiet, hnext ▸ Nat.le_refl _, hdest, hadding, hadded,
      fun v hv => ?_, fun v hv _ => ?_, hrem⟩
    · intro t' ht' hpc hidle
      obtain rfl : t = t' := Option.some.inj (ht.symm.trans ht')
      rcases other with hother | hon
      · exact absurd hpc hother
      · rw [hidle] at hon
        cases hon
    · rw [hself, hsame] at hv
      exact hv
    · rw [hself, hsame]
      exact hv
  | removed id call hviewers =>
    refine .quiet ?_ ⟨fun id => (hcalm id).toQuiet, hnext ▸ Nat.le_refl _, hdest, hadding, hadded,
      fun v hv => ?_, fun v hv hent => ?_, hrem⟩
    · intro t' ht' hpc hidle
      obtain rfl : t = t' := Option.some.inj (ht.symm.trans ht')
      rw [call] at hpc
      cases hpc
    · rw [hself, hviewers] at hv
      exact List.mem_of_mem_filter hv
    · -- the viewer that is removed has been destroyed, and a destroyed session is not open
      have hgone := hm.removals t (List.mem_of_getElem? ht) id call
      have hne : v ≠ id := by
        rintro rfl
        have hopen := hent.isOpen
        rw [(hm.destroyed v hgone).1] at hopen
        cases hopen
      rw [hself, hviewers, List.mem_filter, Bool.and_eq_true, bne_iff_ne]
      exact ⟨hv, hm.alive hent, hne⟩
  | cleared call idle hnil =>
    refine .cleared ⟨hcalm, hnext, hdest, hadding, hadded, ?_, hrem⟩ ⟨fun hk => ?_, fun hv => ?_⟩
    · rw [hself, hnil]
    · exact hk t ht call idle
    · intro t' _ _ _
      exact hv

/-- A segment that only sends: the methods and the population stay as they are. -/
theorem sent_frame {stream : StreamSystem} {sends : List (SessionId × Message)}
    (hadding : stream.adding = s.stream.adding) (hadded : stream.added = s.stream.added)
    (htasks : stream.tasks = s.stream.tasks)
    (hviewers : ∀ v ∈ stream.controller.viewers, v ∈ s.stream.controller.viewers)
    (hkept : ∀ v ∈ s.stream.controller.viewers, s.Entitled v → v ∈ stream.controller.viewers) :
    Frame s ((s.setStream stream).sendAll sends) := by
  obtain ⟨hnext, hdest⟩ := Server.sendAll_population (s.setStream stream) sends
  have hstream : ((s.setStream stream).sendAll sends).stream = stream :=
    Server.sendAll_stream _ sends
  refine ⟨fun id => (sendAll_calm (s.setStream stream) sends id).toQuiet, hnext ▸ Nat.le_refl _,
    hdest, ?_, ?_, fun v hv => ?_, fun v hv hent => ?_, fun t ht => Or.inl ?_⟩
  · rw [hstream, hadding]
  · rw [hstream, hadded]
  · rw [hstream] at hv
    exact hviewers v hv
  · rw [hstream]
    exact hkept v hv hent
  · rw [hstream, htasks] at ht
    exact ht

theorem loop_watch (hm : Members s) {i : Nat} {capture : Capture P} {stream : StreamSystem}
    {sends : List (SessionId × Message)}
    (hs : s.stream.loop P i capture s.alive = some (stream, sends)) :
    Frame s ((s.setStream stream).sendAll sends) := by
  obtain ⟨pc, c, next, -, hc, rfl⟩ := loop_eq hs
  apply sent_frame
  · rfl
  · rfl
  · rfl
  · intro v hv
    rcases captureLoop_viewers hc with ⟨-, hsame, -⟩ | ⟨frame, -, hfilter, -⟩
    · exact hsame ▸ hv
    · exact List.mem_of_mem_filter (hfilter ▸ hv)
  · intro v hv hent
    rcases captureLoop_viewers hc with ⟨-, hsame, -⟩ | ⟨frame, -, hfilter, -⟩
    · exact hsame ▸ hv
    · exact hfilter ▸ List.mem_filter.2 ⟨hv, hm.alive hent⟩

/-- The destructor asks for nothing but the removal of its own session. -/
theorem destroy_asked (s : Server) (id : SessionId) : ∃ rs,
    Asked { s.setSession id { s.sessions id with isOpen := false } with
      destroyed := s.destroyed ++ [id] } (s.destroy id) rs ∧
    ∀ j, .call (.removeViewerById j) ∈ rs → j = id := by
  unfold Server.destroy
  simp only
  split
  · refine ⟨_, invoke_asked _ _ _, fun j hj => ?_⟩
    cases List.mem_singleton.1 hj
  · split
    · refine ⟨_, invoke_asked _ _ _, fun j hj => ?_⟩
      cases List.mem_singleton.1 hj
      rfl
    · exact ⟨[], .refl _, fun j hj => nomatch hj⟩

theorem destroy_watch {id : SessionId} (hdue : s.due id = true) : Ended s (s.destroy id) id := by
  have hfin : (s.sessions id).reader = .finished := by
    simp only [Server.due, Server.referenced, Bool.and_eq_true, Bool.not_eq_true',
      Bool.or_eq_false_iff, bne_eq_false_iff_eq] at hdue
    tauto
  obtain ⟨rs, hasked, hrs⟩ := destroy_asked s id
  refine ⟨hfin, hasked.sessions, hasked.nextId, hasked.destroyed, hasked.adding, hasked.added,
    hasked.viewers, fun t ht => ?_⟩
  rcases hasked.tasks t ht with hmem | ⟨call, hmem, hpc⟩
  · exact Or.inl hmem
  · right
    intro j hj
    rw [hpc, Pc.dispatch.injEq] at hj
    exact hrs j (hj ▸ hmem)

/-- **What a step does to who watches.** -/
theorem watchStep_of_step {e : ServerEvent P} (hm : Members s)
    (hs : (server P api).step s e = some s') : WatchStep s e s' := by
  cases serverStep_of_step hs with
  | connect =>
    exact .quiet trivial ⟨fun id => .refl _, Nat.le_succ _, rfl, rfl, rfl, fun v hv => hv,
      fun v hv _ => hv, fun t ht => Or.inl ht⟩
  | session id e clock σ rs hexist hstep => exact sessionSegment_watch hexist hstep
  | segment i camera content _ hseg => exact methodSegment_watch hm hseg
  | loop i capture stream sends hloop => exact .quiet trivial (loop_watch hm hloop)
  | runAddViewer stream hadd =>
    obtain ⟨v, vs, hv, rfl⟩ := runAddViewer_eq hadd
    exact .subscribed v vs trivial hv rfl
  | playbackExpire stream hexp =>
    obtain ⟨p, rfl⟩ := playbackExpire_eq hexp
    refine .quiet trivial ?_
    change Frame s ((s.setStream _).sendAll [])
    exact sent_frame rfl rfl rfl (fun v hv => hv) fun v hv _ => hv
  | playbackHandler k stream sends hk =>
    obtain ⟨o, rfl, rfl⟩ := playbackHandler_eq hk
    exact .quiet trivial (sent_frame rfl rfl rfl (fun v hv => hv) fun v hv _ => hv)
  | destroy id hdue => exact .ended id trivial (destroy_watch hdue)

theorem Members.step {e : ServerEvent P} (h : Members s)
    (hs : (server P api).step s e = some s') : Members s' :=
  h.watch (watchStep_of_step h hs)

/-- Only destructors change who has been destroyed. -/
theorem destroyed_of_step {e : ServerEvent P} (hs : (server P api).step s e = some s') :
    s'.destroyed = s.destroyed ∨
      ∃ id, s.due id = true ∧ s' = s.destroy id ∧ s'.destroyed = s.destroyed ++ [id] := by
  cases serverStep_of_step hs with
  | connect => exact Or.inl rfl
  | session id e clock σ rs =>
    exact Or.inl (session_requested s id e clock σ rs).destroyed
  | segment i camera content _ hseg => exact Or.inl (methodSegment_calm hseg).2.2
  | loop i capture stream sends => exact Or.inl (Server.sendAll_population (s.setStream stream) sends).2
  | runAddViewer stream => exact Or.inl rfl
  | playbackExpire stream => exact Or.inl rfl
  | playbackHandler k stream sends =>
    exact Or.inl (Server.sendAll_population (s.setStream stream) sends).2
  | destroy id hdue => exact Or.inr ⟨id, hdue, rfl, (destroy_watch hdue).destroyed⟩

/-- No `add_viewer` is posted or run. -/
structure StillSubscribed (s s' : Server) : Prop where
  adding : s'.stream.adding = s.stream.adding
  added : s'.stream.added = s.stream.added
  viewers : s'.stream.controller.viewers.Sublist s.stream.controller.viewers

/-- What a step does to the subscriptions: an accepted `auth` posts an `add_viewer`, the first posted
one runs, or entries are erased. -/
inductive SubscriptionStep {P : Platform} (api : Api) (s : Server) (e : ServerEvent P) (s' : Server) :
    Prop
  | still (other : e ≠ .runAddViewer) (still : StillSubscribed s s')
  | posted (id : SessionId) (text role : Bytes) (isStreaming : Bool) (clock : Clock)
      (event : e = .session id (.message text isStreaming) clock) (exist : s.alive id = true)
      (auth : AuthMessage api text role) (trace : s'.trace = s.trace ++ [.received id text])
      (adding : s'.stream.adding = s.stream.adding ++ [id])
      (added : s'.stream.added = s.stream.added)
      (viewers : s'.stream.controller.viewers = s.stream.controller.viewers)
  | runs (v : SessionId) (vs : List SessionId) (event : e = .runAddViewer)
      (trace : s'.trace = s.trace) (before : s.stream.adding = v :: vs)
      (adding : s'.stream.adding = vs) (added : s'.stream.added = s.stream.added ++ [v])
      (viewers : s'.stream.controller.viewers = s.stream.controller.viewers ++ [v])

theorem StillSubscribed.sendAll {stream : StreamSystem} (hadding : stream.adding = s.stream.adding)
    (hadded : stream.added = s.stream.added)
    (hviewers : stream.controller.viewers.Sublist s.stream.controller.viewers)
    (sends : List (SessionId × Message)) :
    StillSubscribed s ((s.setStream stream).sendAll sends) := by
  have hstream : ((s.setStream stream).sendAll sends).stream = stream :=
    Server.sendAll_stream _ sends
  rw [← hstream] at hadding hadded hviewers
  exact ⟨hadding, hadded, hviewers⟩

theorem stillSubscribed_segment {i : Nat} {camera : CameraEnv} {content : Option Bytes}
    (hs : s.methodSegment P api i camera content = some s') : StillSubscribed s s' := by
  obtain ⟨t, g, hseg⟩ := Server.methodSegment_stream hs
  obtain ⟨ht, rfl, hstream⟩ := segment_eq hseg
  refine ⟨by rw [hstream], by rw [hstream], ?_⟩
  rw [hstream]
  cases Pc.run_viewers P s.stream.controller ⟨camera, content, s.alive⟩ t.pc with
  | same other hsame => exact hsame ▸ List.Sublist.refl _
  | removed j call hremoved => exact hremoved ▸ List.filter_sublist
  | cleared call idle hcleared => exact hcleared ▸ List.nil_sublist _

/-- **What a step does to the subscriptions.** -/
theorem subscriptionStep_of_step {e : ServerEvent P} (hs : (server P api).step s e = some s') :
    SubscriptionStep api s e s' := by
  cases serverStep_of_step hs with
  | connect => exact .still nofun ⟨rfl, rfl, .refl _⟩
  | session id e clock σ rs hexist hstep =>
    rcases step_authority hstep with flags | ⟨text, isStreaming, role, rfl, hauth, -, -, rfl⟩
    · have hasked := requestAll_asked ((s.note id e).setSession id σ) id clock flags.noViewer
      refine .still nofun ⟨?_, ?_, ?_⟩
      · rw [hasked.adding, Server.setSession_stream, Server.note_stream]
      · rw [hasked.added, Server.setSession_stream, Server.note_stream]
      · rw [hasked.viewers, Server.setSession_stream, Server.note_stream]
    · exact .posted id text role isStreaming clock rfl hexist hauth rfl rfl rfl rfl
  | segment i camera content _ hseg => exact .still nofun (stillSubscribed_segment hseg)
  | loop i capture stream sends hloop =>
    obtain ⟨pc, c, next, hpc, hc, rfl⟩ := loop_eq hloop
    refine .still nofun (.sendAll ?_ ?_ ?_ sends)
    · rfl
    · rfl
    rcases captureLoop_viewers hc with ⟨-, hsame, -⟩ | ⟨frame, -, hfilter, -⟩
    · exact hsame ▸ List.Sublist.refl _
    · exact hfilter ▸ List.filter_sublist
  | runAddViewer stream hadd =>
    obtain ⟨v, vs, hadding, rfl⟩ := runAddViewer_eq hadd
    exact .runs v vs rfl rfl hadding rfl rfl rfl
  | playbackExpire stream hexp =>
    obtain ⟨p, rfl⟩ := playbackExpire_eq hexp
    exact .still nofun ⟨rfl, rfl, .refl _⟩
  | playbackHandler k stream sends hk =>
    obtain ⟨o, rfl, -⟩ := playbackHandler_eq hk
    refine .still nofun (.sendAll ?_ ?_ ?_ sends)
    · rfl
    · rfl
    · exact .refl _
  | destroy id =>
    obtain ⟨tasks, -, hstream⟩ := Server.destroy_tasks s id
    refine .still nofun ⟨?_, ?_, ?_⟩
    · rw [hstream]
    · rw [hstream]
    · exact hstream ▸ List.Sublist.refl _

end Steps

/-! ## Who is served -/

/-- Whoever is entitled to the stream is a viewer. -/
def Watching (s : Server) : Prop := ∀ id, s.Entitled id → id ∈ s.stream.controller.viewers

section Watching

variable {P : Platform} {api : Api} {s s' : Server} {e : ServerEvent P}

/-- The one step that can lose a viewer. -/
theorem watching_step (hm : Members s) (h : Watching s)
    (hs : (server P api).step s e = some s') : Watching s' ↔ KeepsViewers s e := by
  cases watchStep_of_step hm hs with
  | quiet keeps frame =>
    refine iff_of_true (fun id hid => ?_) keeps
    have hent := hm.entitled_of_quiet (frame.sessions id) hid (frame.added ▸ hid.added)
    exact frame.kept id (h id hent) hent
  | granted id σ keeps hg =>
    refine iff_of_true (fun j hj => ?_) keeps
    have hadded : j ∈ s.stream.added := hg.added ▸ hj.added
    rw [hg.viewers]
    refine h j ⟨?_, hm.added j hadded, hadded⟩
    have hopen := hj.isOpen
    rw [hg.sessions] at hopen
    by_cases hid : j = id
    · subst hid
      rw [Function.update_self] at hopen
      rcases hg.life.isOpen hopen with ho | hr
      · exact ho
      · rw [hg.reading] at hr
        cases hr
    · rw [Function.update_of_ne hid] at hopen
      exact hopen
  | subscribed v vs keeps _ runs =>
    subst runs
    refine iff_of_true (fun j hj => ?_) keeps
    apply List.mem_append.2
    rcases List.mem_append.1 hj.added with hmem | hmem
    · exact Or.inl (h j ⟨hj.isOpen, hj.isAuthenticated, hmem⟩)
    · exact Or.inr hmem
  | cleared hc forgets =>
    rw [forgets]
    constructor
    · intro hw v hv
      rw [Bool.eq_false_iff]
      intro hopen
      have hadded := hm.viewers v hv
      have hent : s'.Entitled v := by
        refine ⟨?_, ?_, hc.added ▸ hadded⟩
        · rw [(hc.sessions v).isOpen, hopen]
        · rw [(hc.sessions v).isAuthenticated, hm.added v hadded]
      have hmem := hw v hent
      rw [hc.viewers] at hmem
      cases hmem
    · intro hclosed v hv
      have hent := hm.entitled_of_quiet (hc.sessions v).toQuiet hv (hc.added ▸ hv.added)
      have hopen := hent.isOpen
      rw [hclosed v (h v hent)] at hopen
      cases hopen
  | ended id keeps he =>
    refine iff_of_true (fun j hj => ?_) keeps
    rw [he.viewers]
    have hadded : j ∈ s.stream.added := he.added ▸ hj.added
    refine h j ⟨?_, hm.added j hadded, hadded⟩
    have hopen := hj.isOpen
    rw [he.sessions] at hopen
    by_cases hid : j = id
    · subst hid
      rw [Function.update_self] at hopen
      cases hopen
    · rw [Function.update_of_ne hid] at hopen
      exact hopen

theorem sendAll_live (frame : Bytes) (vs : List SessionId) (s : Server) :
    (s.sendAll (vs.map fun v => (v, .live frame))).trace =
      s.trace ++ vs.map fun v => .handed v frame := by
  induction vs generalizing s with
  | nil => exact (List.append_nil _).symm
  | cons v vs ih =>
    have hone : (s.sendTo v (.live frame)).trace = s.trace ++ [.handed v frame] := rfl
    have hrest := ih (s.sendTo v (.live frame))
    rw [hone, List.append_assoc] at hrest
    exact hrest

/-- Being a viewer is being handed what is broadcast. -/
theorem subscribed_iff (P : Platform) (api : Api) (hm : Members s) :
    Subscribed P api s ↔ Watching s := by
  refine ⟨fun h id hid => (h id hid).1, fun h id hid => ⟨h id hid, ?_⟩⟩
  intro i capture frame s' hi hs
  cases serverStep_of_step hs with
  | loop _ _ stream sends hloop =>
    obtain ⟨pc, c, next, hi', hc, rfl⟩ := loop_eq hloop
    cases hi.symm.trans hi'
    rcases captureLoop_viewers hc with ⟨hne, -⟩ | ⟨frame', hpc, -, rfl⟩
    · exact absurd rfl (hne frame)
    · cases hpc
      refine ⟨_, sendAll_live frame _ _, ?_⟩
      apply List.mem_map_of_mem
      exact List.mem_filter.2 ⟨h id hid, hm.alive hid⟩

/-- **When no viewer loses the stream**: in exactly the runs in which `cleanup` never runs while a
viewer's connection is open. -/
theorem viewers_kept_iff (P : Platform) (api : Api) (es : List (ServerEvent P)) (s : Server)
    (hrun : (server P api).run {} es = some s) :
    (server P api).AllStates (Subscribed P api) {} es ↔ (server P api).AllSteps KeepsViewers {} es := by
  have hinit : Subscribed P api {} := fun id hid => nomatch hid.added
  refine Machine.allStates_iff_allSteps (J := Members) (fun hm hs => hm.step hs)
    (fun hm hp hs => ?_) .init hinit hrun
  rw [subscribed_iff P api (hm.step hs)]
  exact watching_step hm ((subscribed_iff P api hm).1 hp) hs

/-- A viewer waits while a controller starts a stream, stops it and starts the next one. -/
def restart : List (ServerEvent x86_64) :=
  joins 1 ++ [tells 1 "good", .runAddViewer] ++
    joins 2 ++ [tells 2 "controller", .runAddViewer, tells 2 "config", .segment 0 .working none,
      .loop 0 .empty, tells 2 "stop" true, .segment 0 .working none, .loop 0 .empty,
      .segment 0 .working none, tells 2 "config", .segment 0 .working none, .loop 0 .empty,
      .loop 0 (.frame sampleFrame 0)]

theorem viewers_kept_iff_restart :
    (server x86_64 sampleApi).AllStates (Subscribed x86_64 sampleApi) {} restart ↔
      (server x86_64 sampleApi).AllSteps KeepsViewers {} restart := by
  have hruns : ((server x86_64 sampleApi).run {} restart).isSome = true := by decide +kernel
  obtain ⟨s, hs⟩ := Option.isSome_iff_exists.1 hruns
  exact viewers_kept_iff x86_64 sampleApi restart s hs

/-- The viewer, whose connection is still open, is not handed the frame. -/
theorem viewer_lost : ∃ s s', (server x86_64 sampleApi).run {} restart = some s ∧
    s.Entitled 1 ∧ s.stream.loops[0]? = some (.broadcasting (lit "frame")) ∧
    1 ∉ s.stream.controller.viewers ∧
    (server x86_64 sampleApi).step s (.loop 0 .empty) = some s' ∧
    .handed 1 (lit "frame") ∉ s'.trace := by
  have hstep : (((server x86_64 sampleApi).run {} restart).bind fun s =>
      ((server x86_64 sampleApi).step s (.loop 0 .empty)).map fun s' => (s, s')).any (fun x =>
        (x.1.sessions 1).isOpen && (x.1.sessions 1).isAuthenticated &&
        x.1.stream.added.contains 1 &&
        x.1.stream.loops[0]? == some (.broadcasting (lit "frame")) &&
        !x.1.stream.controller.viewers.contains 1 &&
        !x.2.trace.contains (.handed 1 (lit "frame"))) = true := by decide +kernel
  obtain ⟨⟨s, s'⟩, hx, hfacts⟩ := (Option.any_eq_true _ _).1 hstep
  obtain ⟨t, hrun, ht⟩ := Option.bind_eq_some_iff.1 hx
  obtain ⟨t', hbroadcast, heq⟩ := Option.map_eq_some_iff.1 ht
  cases heq
  simp only [Bool.and_eq_true, Bool.not_eq_true', List.contains_eq_mem, decide_eq_true_eq,
    decide_eq_false_iff_not, beq_iff_eq] at hfacts
  obtain ⟨⟨⟨⟨⟨hopen, hauth⟩, hadded⟩, hloop⟩, hviewer⟩, hhanded⟩ := hfacts
  exact ⟨s, s', hrun, ⟨hopen, hauth, hadded⟩, hloop, hviewer, hbroadcast, hhanded⟩

end Watching

end AsciiStreamer
