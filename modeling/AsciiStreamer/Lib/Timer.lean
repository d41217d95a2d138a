import Mathlib.Data.List.Basic

/-!
# One-shot timers with completion handlers

A timer of an event loop: at most one wait is pending, and a wait that has completed leaves a
handler in the loop's queue, where it stays until the loop runs it. `cancel` completes the pending
wait with an error; it cannot take back a handler that is queued already.
-/

inductive Timer.Completion
  | success
  | aborted
  deriving DecidableEq, Repr

/-- The pending wait with its delay, and the handlers of the completed waits. -/
structure Timer where
  pending : Option Int := none
  queued : List Timer.Completion := []
  deriving DecidableEq, Repr

namespace Timer

def complete (t : Timer) (c : Completion) : Timer :=
  match t.pending with
  | none => t
  | some _ => { pending := none, queued := t.queued ++ [c] }

def cancel (t : Timer) : Timer := t.complete .aborted

def expire (t : Timer) : Timer := t.complete .success

/-- `timer.expires_after(delay)` followed by `timer.async_wait(...)`: setting the expiry cancels
the pending wait. -/
def schedule (t : Timer) (delay : Int) : Timer := { t.cancel with pending := some delay }

/-- The loop takes the `k`-th queued handler. -/
def take (t : Timer) (k : Nat) : Timer := { t with queued := t.queued.eraseIdx k }

/-- A wait that will complete without error, or a handler that did, is outstanding. -/
def Live (t : Timer) : Prop := t.pending.isSome = true ∨ Completion.success ∈ t.queued

@[simp] theorem cancel_pending (t : Timer) : t.cancel.pending = none := by
  unfold cancel complete; split
  · assumption
  · rfl

theorem live_expire {t : Timer} (h : t.Live) : t.expire.Live := by
  unfold expire complete
  cases hp : t.pending with
  | none => exact h
  | some d => exact Or.inr (by simp)

/-- Taking a handler that was aborted leaves a live timer live. -/
theorem live_take {t : Timer} {k : Nat} (h : t.Live) (hk : t.queued[k]? = some .aborted) :
    (t.take k).Live := by
  rcases h with h | h
  · exact Or.inl h
  · right
    obtain ⟨i, hi, his⟩ := List.mem_iff_getElem.1 h
    have hne : i ≠ k := by
      rintro rfl
      rw [List.getElem?_eq_getElem hi, his] at hk
      cases hk
    have hmem : t.queued[i] ∈ t.queued.eraseIdx k :=
      List.mem_eraseIdx_iff_getElem.2 ⟨i, hi, hne, rfl⟩
    rwa [his] at hmem

/-- What the timer still has to do, the handler of a pending wait included. -/
def outstanding (t : Timer) : Nat := (if t.pending.isSome then 2 else 0) + t.queued.length

theorem Live.outstanding {t : Timer} (h : t.Live) :
    t.pending.isSome = true ∨ t.queued ≠ [] := by
  refine h.imp_right fun hmem hnil => ?_
  rw [hnil] at hmem
  cases hmem

theorem outstanding_expire {t : Timer} (h : t.pending.isSome = true) :
    t.expire.outstanding < t.outstanding := by
  obtain ⟨d, hd⟩ := Option.isSome_iff_exists.1 h
  unfold expire complete outstanding
  simp only [hd, Option.isSome_some, Option.isSome_none, ↓reduceIte, Bool.false_eq_true,
    List.length_append, List.length_singleton]
  omega

theorem outstanding_take {t : Timer} {i : Nat} {c : Completion}
    (h : t.queued[i]? = some c) : (t.take i).outstanding < t.outstanding := by
  obtain ⟨hi, -⟩ := List.getElem?_eq_some_iff.1 h
  have hlen := List.length_eraseIdx_of_lt hi
  unfold take outstanding
  simp only [hlen]
  omega

end Timer
