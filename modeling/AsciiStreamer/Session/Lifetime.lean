import AsciiStreamer.Session.InFlight

/-!
# The life of a session

A session is accepted once, reads while its connection is open, and ends. `Life` is what any segment
keeps of this: a connection opens only when it is accepted, and what has ended does not begin again.
-/

namespace AsciiStreamer

open Cxx

structure Life (s s' : Session) : Prop where
  isOpen : s'.isOpen = true → s.isOpen = true ∨ s.reader = .accepting
  accepting : s'.reader = .accepting → s.reader = .accepting
  finished : s.reader = .finished → s'.reader = .finished

section Life

variable {P : Platform} {api : Api} {s s' s'' : Session} {e : SessionEvent} {rs : List Request}

theorem Life.refl (s : Session) : Life s s := ⟨Or.inl, id, id⟩

theorem Life.trans (h : Life s s') (h' : Life s' s'') : Life s s'' := by
  refine ⟨fun ho => ?_, fun hr => h.accepting (h'.accepting hr), fun hr => h'.finished (h.finished hr)⟩
  rcases h'.isOpen ho with ho | hr
  · exact h.isOpen ho
  · exact Or.inr (h.accepting hr)

/-- A segment that leaves `do_run` where it is and opens nothing. -/
theorem Life.of_reader (ho : s'.isOpen = true → s.isOpen = true) (hr : s'.reader = s.reader) :
    Life s s' := by
  refine ⟨fun h => Or.inl (ho h), fun h => ?_, fun h => ?_⟩
  · rw [← hr, h]
  · rw [hr, h]

theorem Life.of_same (h : SameReading s s') : Life s s' := by
  refine .of_reader (fun ho => ?_) h.reader
  rw [← h.isOpen]
  exact ho

/-- A segment of `do_run` after the handshake. -/
theorem Life.of_running (ho : s'.isOpen = s.isOpen) (hr : s.reader ≠ .finished)
    (hr' : s'.reader ≠ .accepting) : Life s s' :=
  ⟨fun h => Or.inl (ho ▸ h), fun h => absurd h hr', fun h => absurd h hr⟩

theorem readNext_not_accepting (s : Session) : s.readNext.reader ≠ .accepting := by
  rcases readNext_cases s with h | h
  · rw [h]
    exact nofun
  · rw [h]
    exact nofun

theorem handleMessage_running (P : Platform) (api : Api) (s : Session) (text : Bytes)
    (isStreaming : Bool) :
    (s.handleMessage P api text isStreaming).1.isOpen = s.isOpen ∧
      (s.handleMessage P api text isStreaming).1.reader ≠ .accepting := by
  cases messageStep_handleMessage P api s text isStreaming with
  | failed err decoded self =>
    rw [self]
    exact ⟨rfl, readNext_not_accepting _⟩
  | rejected apiKey role decoded wrong self =>
    rw [self]
    exact ⟨rfl, nofun⟩
  | granted role decoded self =>
    rw [self]
    exact ⟨rfl, readNext_not_accepting _⟩
  | awaits c call reply decoded awaited self =>
    rw [self]
    exact ⟨rfl, nofun⟩
  | replied c decoded other awaited self =>
    rw [self]
    exact ⟨rfl, readNext_not_accepting _⟩

/-- The awaited method returns to a session that goes on as it was. -/
theorem returned_running {result : Except Exn Unit}
    (h : s.step P api (.returned result) = some (s', rs)) :
    s'.isOpen = s.isOpen ∧ s.reader ≠ .finished ∧ s'.reader ≠ .accepting := by
  cases sessionStep_of_step h with
  | returned _ call reply reader =>
    rw [returned_eq_answers]
    exact ⟨rfl, by rw [reader]; exact nofun, readNext_not_accepting _⟩

theorem step_life (h : s.step P api e = some (s', rs)) : Life s s' := by
  cases sessionStep_of_step h with
  | accepted ok reader =>
    refine ⟨fun _ => Or.inr reader, fun h => absurd h (readNext_not_accepting _), fun hfin => ?_⟩
    rw [reader] at hfin
    cases hfin
  | message text isStreaming reader =>
    obtain ⟨ho, hr⟩ := handleMessage_running P api s text isStreaming
    exact .of_running ho (by rw [reader]; exact nofun) hr
  | readFailed closed reader =>
    refine .of_running ?_ (by rw [reader]; exact nofun) nofun
    cases closed with
    | true => rfl
    | false => exact (sameReading_close s).isOpen
  | authFailedWritten result reader =>
    obtain ⟨texts, heq⟩ := authFailedWritten_eq_answers (s := s) result
    rw [heq]
    exact .of_running rfl (by rw [reader]; exact nofun) (readNext_not_accepting _)
  | returned result call reply reader =>
    obtain ⟨ho, hr, hr'⟩ := returned_running h
    exact .of_running ho hr hr'
  | sendFrame m => exact .of_reader id rfl
  | runPosted m ms posted =>
    have hlife := Life.of_same (s := { s with posted := ms, sent := s.sent ++ [m] })
      (sameReading_queueFrame m)
    exact ⟨hlife.isOpen, hlife.accepting, hlife.finished⟩
  | startWriter i live => exact .of_same (sameReading_doWrite i)
  | writeDone i error m live => exact .of_same (sameReading_writeDone i error)
  | disconnected => exact .of_reader nofun rfl
  | closed closing => exact .of_reader nofun rfl

end Life

end AsciiStreamer
