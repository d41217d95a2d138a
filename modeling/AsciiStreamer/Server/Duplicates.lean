import Mathlib.Data.List.Count
import AsciiStreamer.Server.Subscription

/-!
# Subscribing twice

`add_viewer` appends to `viewers_` whatever is there already, and every accepted `auth` posts one. A
viewer therefore has one entry for each of them, and is handed each frame as often. It has one entry
only exactly as long as no `add_viewer` runs for a session that is a viewer already
(`subscribed_once_iff`).
-/

namespace AsciiStreamer

open Cxx

/-- No live session has two entries among the viewers, and none is handed a frame twice. -/
def SubscribedOnce (P : Platform) (api : Api) (s : Server) : Prop :=
  ∀ id, s.alive id = true → s.stream.controller.viewers.count id ≤ 1 ∧
    ∀ i capture frame s', s.stream.loops[i]? = some (.broadcasting frame) →
      (server P api).step s (.loop i capture) = some s' →
        ∃ handed, s'.trace = s.trace ++ handed ∧ handed.count (.handed id frame) ≤ 1

/-- An `add_viewer` runs for sessions only that are no viewers yet. -/
def AddsOnce {P : Platform} (s : Server) : ServerEvent P → Prop
  | .runAddViewer => ∀ v vs, s.stream.adding = v :: vs → v ∉ s.stream.controller.viewers
  | _ => True

/-- Posted handlers keep their sessions alive. -/
structure Posted (s : Server) : Prop where
  members : Members s
  pending : ∀ id ∈ s.stream.adding, id ∉ s.destroyed

section Entries

variable {P : Platform} {api : Api} {s s' : Server} {e : ServerEvent P} {id : SessionId}

theorem not_adding_of_due (h : s.due id = true) : id ∉ s.stream.adding := by
  simp only [Server.due, Server.referenced, Bool.and_eq_true, Bool.not_eq_true',
    Bool.or_eq_false_iff, List.contains_eq_mem, decide_eq_false_iff_not] at h
  exact h.2.1.1.2

theorem Posted.init : Posted {} := ⟨.init, nofun⟩

theorem Posted.step (h : Posted s) (hs : (server P api).step s e = some s') : Posted s' := by
  refine ⟨h.members.step hs, ?_⟩
  have kept : (∀ id ∈ s'.stream.adding, id ∉ s.destroyed) → s'.destroyed = s.destroyed →
      ∀ id ∈ s'.stream.adding, id ∉ s'.destroyed := by
    intro hpending hdest
    rwa [hdest]
  rcases destroyed_of_step hs with hdest | ⟨id, hdue, rfl, hdest⟩
  · refine kept (fun id hid => ?_) hdest
    cases subscriptionStep_of_step hs with
    | still other still => exact h.pending id (still.adding ▸ hid)
    | posted j text role isStreaming clock event exist auth trace adding =>
      rw [adding] at hid
      rcases List.mem_append.1 hid with hid | hid
      · exact h.pending id hid
      · rw [List.mem_singleton.1 hid]
        exact (alive_iff.1 exist).2
    | runs v vs event trace before adding =>
      refine h.pending id ?_
      rw [before]
      exact List.mem_cons_of_mem v (adding ▸ hid)
  · intro j hj
    have hadding : j ∈ s.stream.adding := (destroy_watch hdue).adding ▸ hj
    rw [hdest]
    intro hmem
    rcases List.mem_append.1 hmem with hmem | hmem
    · exact h.pending j hadding hmem
    · rw [List.mem_singleton.1 hmem] at hadding
      exact not_adding_of_due hdue hadding

/-- A viewer that is alive after a step was alive before. -/
theorem alive_of_viewer (h : Posted s) (hs : (server P api).step s e = some s')
    (hid : id ∈ s.stream.controller.viewers) (halive : s'.alive id = true) : s.alive id = true := by
  have hauth := h.members.added id (h.members.viewers id hid)
  refine alive_iff.2 ⟨h.members.exist id hauth, fun hmem => (alive_iff.1 halive).2 ?_⟩
  rcases destroyed_of_step hs with hdest | ⟨j, -, -, hdest⟩
  · rw [hdest]
    exact hmem
  · rw [hdest]
    exact List.mem_append_left _ hmem

/-- The entries of a session decide how often it is handed a frame. -/
theorem subscribedOnce_iff : SubscribedOnce P api s ↔
    ∀ id, s.alive id = true → s.stream.controller.viewers.count id ≤ 1 := by
  refine ⟨fun h id hid => (h id hid).1, fun h id hid => ⟨h id hid, ?_⟩⟩
  intro i capture frame s' hi hs
  cases serverStep_of_step hs with
  | loop _ _ stream sends hloop =>
    obtain ⟨pc, c, next, hi', hc, rfl⟩ := loop_eq hloop
    cases hi.symm.trans hi'
    rcases captureLoop_viewers hc with ⟨hne, -⟩ | ⟨frame', hpc, -, rfl⟩
    · exact absurd rfl (hne frame)
    · cases hpc
      refine ⟨_, sendAll_live frame _ _, ?_⟩
      have hinjective : Function.Injective fun v => Obs.handed v frame := by
        intro v w hvw
        cases hvw
        rfl
      rw [List.count_map_of_injective _ _ hinjective]
      exact Nat.le_trans (List.filter_sublist.count_le id) (h id hid)

/-- A step keeps single entries single, except the one that adds a viewer again. -/
theorem subscribedOnce_step (h : Posted s) (hp : SubscribedOnce P api s)
    (hs : (server P api).step s e = some s') : SubscribedOnce P api s' ↔ AddsOnce s e := by
  rw [subscribedOnce_iff] at hp ⊢
  have kept : s'.stream.controller.viewers.Sublist s.stream.controller.viewers →
      ∀ id, s'.alive id = true → s'.stream.controller.viewers.count id ≤ 1 := by
    intro hsub id halive
    by_cases hid : id ∈ s.stream.controller.viewers
    · exact Nat.le_trans (hsub.count_le id) (hp id (alive_of_viewer h hs hid halive))
    · rw [List.count_eq_zero_of_not_mem fun hmem => hid (hsub.subset hmem)]
      exact Nat.zero_le 1
  cases subscriptionStep_of_step hs with
  | still other still =>
    refine iff_of_true (kept still.viewers) ?_
    cases e with
    | runAddViewer => exact absurd rfl other
    | _ => trivial
  | posted id text role isStreaming clock event exist auth trace adding added viewers =>
    subst event
    exact iff_of_true (kept (viewers ▸ List.Sublist.refl _)) trivial
  | runs v vs event trace before adding added viewers =>
    subst event
    have hmem : v ∈ s.stream.adding := before ▸ List.mem_cons_self
    have hauth := h.members.adding v hmem
    have halive : s'.alive v = true := by
      cases serverStep_of_step hs with
      | runAddViewer stream => exact alive_iff.2 ⟨h.members.exist v hauth, h.pending v hmem⟩
    constructor
    · intro hcount w ws hw hviewer
      cases before.symm.trans hw
      have hone := hcount v halive
      rw [viewers, List.count_append, List.count_singleton_self] at hone
      have hpos := List.count_pos_iff.2 hviewer
      omega
    · intro hno id hid
      have hfirst := hno v vs before
      rw [viewers, List.count_append]
      by_cases hv : v = id
      · subst hv
        rw [List.count_eq_zero_of_not_mem hfirst, List.count_singleton_self]
      · rw [List.count_singleton, if_neg fun heq => hv (beq_iff_eq.1 heq), Nat.add_zero]
        by_cases hviewer : id ∈ s.stream.controller.viewers
        · exact hp id (alive_of_viewer h hs hviewer hid)
        · rw [List.count_eq_zero_of_not_mem hviewer]
          exact Nat.zero_le 1

/-- **Nobody is subscribed twice** exactly in the runs in which no `add_viewer` runs for a session that
is a viewer already. -/
theorem subscribed_once_iff (P : Platform) (api : Api) (es : List (ServerEvent P)) (s : Server)
    (hrun : (server P api).run {} es = some s) :
    (server P api).AllStates (SubscribedOnce P api) {} es ↔ (server P api).AllSteps AddsOnce {} es := by
  have hinit : SubscribedOnce P api {} := subscribedOnce_iff.2 fun id _ => Nat.zero_le 1
  exact Machine.allStates_iff_allSteps (J := Posted) (fun hj hs => hj.step hs)
    (fun hj hp hs => subscribedOnce_step hj hp hs) .init hinit hrun

/-- A viewer presents the key again, and a controller streams a frame. -/
def twice : List (ServerEvent x86_64) :=
  joins 1 ++ [tells 1 "good", .runAddViewer, tells 1 "good", .runAddViewer] ++
    joins 2 ++ [tells 2 "controller", .runAddViewer, tells 2 "config", .segment 0 .working none,
      .loop 0 .empty, .loop 0 (.frame sampleFrame 0)]

theorem subscribed_once_iff_twice :
    (server x86_64 sampleApi).AllStates (SubscribedOnce x86_64 sampleApi) {} twice ↔
      (server x86_64 sampleApi).AllSteps AddsOnce {} twice := by
  have hruns : ((server x86_64 sampleApi).run {} twice).isSome = true := by decide +kernel
  obtain ⟨s, hs⟩ := Option.isSome_iff_exists.1 hruns
  exact subscribed_once_iff x86_64 sampleApi twice s hs

/-- It has two entries, and the frame is handed to it twice. -/
theorem subscribed_twice : ∃ s s', (server x86_64 sampleApi).run {} twice = some s ∧
    s.alive 1 = true ∧ s.stream.controller.viewers.count 1 = 2 ∧
    (server x86_64 sampleApi).step s (.loop 0 .empty) = some s' ∧
    s'.trace = s.trace ++ [.handed 1 (lit "frame"), .handed 1 (lit "frame"),
      .handed 2 (lit "frame")] := by
  have hstep : (((server x86_64 sampleApi).run {} twice).bind fun s =>
      ((server x86_64 sampleApi).step s (.loop 0 .empty)).map fun s' => (s, s')).any (fun x =>
        x.1.alive 1 && x.1.stream.controller.viewers.count 1 == 2 &&
        x.2.trace == x.1.trace ++ [.handed 1 (lit "frame"), .handed 1 (lit "frame"),
          .handed 2 (lit "frame")]) = true := by decide +kernel
  obtain ⟨⟨s, s'⟩, hx, hfacts⟩ := (Option.any_eq_true _ _).1 hstep
  obtain ⟨t, hrun, ht⟩ := Option.bind_eq_some_iff.1 hx
  obtain ⟨t', hbroadcast, heq⟩ := Option.map_eq_some_iff.1 ht
  cases heq
  simp only [Bool.and_eq_true, beq_iff_eq] at hfacts
  obtain ⟨⟨halive, hcount⟩, htrace⟩ := hfacts
  exact ⟨s, s', hrun, halive, hcount, hbroadcast, htrace⟩

end Entries

end AsciiStreamer
