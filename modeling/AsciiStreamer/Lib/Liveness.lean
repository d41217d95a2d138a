import Mathlib.Data.Nat.Init
import AsciiStreamer.Lib.Machine

/-!
# Runs that go on for ever

What never happens is a property of runs; what happens in the end is a property of executions,
which go on for ever. `LeadsTo` says it, and `Fair` is what it takes of a scheduler: whatever lasts
is attended to. `LeadsTo.of_fair` is the rule that gets the one from the other: a variant that no
step raises and that the fair step lowers. `exists_extension` puts a run in front of an execution, and
`exists_settled` makes one of a run that comes to rest.
-/

universe u v

namespace Machine

variable {σ : Type u} {ε : Type v} {M : Machine σ ε}

/-- A run without an end: its states, and the events between them. -/
structure Execution (M : Machine σ ε) where
  state : Nat → σ
  event : Nat → ε
  step : ∀ n, M.step (state n) (event n) = some (state (n + 1))

namespace Execution

variable {x : M.Execution} {P Q R : σ → Prop} {A : σ → ε → Prop}

/-- Wherever `P` holds, `Q` holds there or later. -/
def LeadsTo (x : M.Execution) (P Q : σ → Prop) : Prop :=
  ∀ n, P (x.state n) → ∃ m, n ≤ m ∧ Q (x.state m)

/-- Where `P` lasts, a step of `A` is taken. -/
def Fair (x : M.Execution) (P : σ → Prop) (A : σ → ε → Prop) : Prop :=
  ∀ n, (∀ m, n ≤ m → P (x.state m)) → ∃ m, n ≤ m ∧ A (x.state m) (x.event m)

/-! ## Liveness -/

/-- What holds and later does not has ended in one step. -/
theorem exists_last {n m : Nat} (hnm : n ≤ m) (hn : P (x.state n)) (hm : ¬P (x.state m)) :
    ∃ k, n ≤ k ∧ k < m ∧ P (x.state k) ∧ ¬P (x.state (k + 1)) := by
  induction m, hnm using Nat.le_induction with
  | base => exact absurd hn hm
  | succ m hnm ih =>
    by_cases hp : P (x.state m)
    · exact ⟨m, hnm, Nat.lt_succ_self m, hp, hm⟩
    · obtain ⟨k, hnk, hkm, hk, hk'⟩ := ih hp
      exact ⟨k, hnk, Nat.lt_succ_of_lt hkm, hk, hk'⟩

theorem LeadsTo.refl (P : σ → Prop) : x.LeadsTo P P := fun n hn => ⟨n, Nat.le_refl n, hn⟩

theorem LeadsTo.of_imp (h : ∀ n, P (x.state n) → Q (x.state n)) : x.LeadsTo P Q :=
  fun n hn => ⟨n, Nat.le_refl n, h n hn⟩

theorem LeadsTo.trans (h : x.LeadsTo P Q) (h' : x.LeadsTo Q R) : x.LeadsTo P R := by
  intro n hn
  obtain ⟨m, hnm, hm⟩ := h n hn
  obtain ⟨k, hmk, hk⟩ := h' m hm
  exact ⟨k, Nat.le_trans hnm hmk, hk⟩

theorem LeadsTo.or (h : x.LeadsTo P R) (h' : x.LeadsTo Q R) :
    x.LeadsTo (fun s => P s ∨ Q s) R := by
  rintro n (hn | hn)
  · exact h n hn
  · exact h' n hn

theorem Fair.mono (h : x.Fair Q A) (hPQ : ∀ n, P (x.state n) → Q (x.state n)) : x.Fair P A :=
  fun n hn => h n fun m hnm => hPQ m (hn m hnm)

/-- **The rule of the fair step.** While `P` lasts no step raises the variant and every step of `A`
lowers it; so, if `A` is taken while `P` lasts, `P` ends, and ends in `Q`. -/
theorem LeadsTo.of_fair (μ : σ → Nat) (hfair : x.Fair P A)
    (hstep : ∀ n, P (x.state n) → Q (x.state (n + 1)) ∨
      P (x.state (n + 1)) ∧ μ (x.state (n + 1)) ≤ μ (x.state n) ∧
        (A (x.state n) (x.event n) → μ (x.state (n + 1)) < μ (x.state n))) : x.LeadsTo P Q := by
  intro n hn
  induction hμ : μ (x.state n) using Nat.strong_induction_on generalizing n with
  | _ k ih =>
    by_contra hnever
    have hnot : ∀ m, n ≤ m → ¬Q (x.state m) := fun m hnm hm => hnever ⟨m, hnm, hm⟩
    -- as long as `Q` does not come, `P` stays and the variant does not rise
    have hlasts : ∀ m, n ≤ m → P (x.state m) ∧ μ (x.state m) ≤ k := by
      intro m hnm
      induction m, hnm using Nat.le_induction with
      | base => exact ⟨hn, Nat.le_of_eq hμ⟩
      | succ m hnm ihm =>
        rcases hstep m ihm.1 with hq | ⟨hp, hle, -⟩
        · exact absurd hq (hnot (m + 1) (Nat.le_succ_of_le hnm))
        · exact ⟨hp, Nat.le_trans hle ihm.2⟩
    obtain ⟨m, hnm, hA⟩ := hfair n fun m hnm => (hlasts m hnm).1
    obtain ⟨hpm, hmk⟩ := hlasts m hnm
    rcases hstep m hpm with hq | ⟨hp, -, hlt⟩
    · exact hnot (m + 1) (Nat.le_succ_of_le hnm) hq
    · obtain ⟨l, hml, hl⟩ := ih _ (Nat.lt_of_lt_of_le (hlt hA) hmk) (m + 1) hp rfl
      exact hnot l (Nat.le_trans (Nat.le_succ_of_le hnm) hml) hl

/-- Where `P` holds, it is later left, or there is a step of `A` while it still holds. -/
theorem Fair.exists_step (h : x.Fair P A) {n : Nat} (hn : P (x.state n)) :
    ∃ m, n ≤ m ∧ P (x.state m) ∧ (A (x.state m) (x.event m) ∨ ¬P (x.state (m + 1))) := by
  by_cases hlasts : ∀ m, n ≤ m → P (x.state m)
  · obtain ⟨m, hnm, hA⟩ := h n hlasts
    exact ⟨m, hnm, hlasts m hnm, Or.inl hA⟩
  · obtain ⟨m, hnm, hm⟩ : ∃ m, n ≤ m ∧ ¬P (x.state m) := by
      simpa only [not_forall, exists_prop] using hlasts
    obtain ⟨k, hnk, -, hk, hk'⟩ := exists_last hnm hn hm
    exact ⟨k, hnk, hk, Or.inr hk'⟩

/-! ## Executions of a machine -/

/-- An execution from one of its states on. -/
def drop (x : M.Execution) (n : Nat) : M.Execution where
  state k := x.state (n + k)
  event k := x.event (n + k)
  step k := x.step (n + k)

theorem LeadsTo.drop (h : x.LeadsTo P Q) (n : Nat) : (x.drop n).LeadsTo P Q := by
  intro k hk
  obtain ⟨m, hkm, hm⟩ := h (n + k) hk
  obtain ⟨j, rfl⟩ := Nat.exists_eq_add_of_le (Nat.le_trans (Nat.le_add_right n k) hkm)
  exact ⟨j, Nat.le_of_add_le_add_left hkm, hm⟩

theorem Fair.drop (h : x.Fair P A) (n : Nat) : (x.drop n).Fair P A := by
  intro k hk
  obtain ⟨m, hkm, hm⟩ := h (n + k) fun m hkm => by
    obtain ⟨j, rfl⟩ := Nat.exists_eq_add_of_le (Nat.le_trans (Nat.le_add_right n k) hkm)
    exact hk j (Nat.le_of_add_le_add_left hkm)
  obtain ⟨j, rfl⟩ := Nat.exists_eq_add_of_le (Nat.le_trans (Nat.le_add_right n k) hkm)
  exact ⟨j, Nat.le_of_add_le_add_left hkm, hm⟩

/-- One more step in front. -/
def cons (s : σ) (e : ε) (x : M.Execution) (h : M.step s e = some (x.state 0)) :
    M.Execution where
  state
    | 0 => s
    | n + 1 => x.state n
  event
    | 0 => e
    | n + 1 => x.event n
  step
    | 0 => h
    | n + 1 => x.step n

/-- A step that leads back to its state, taken for ever. -/
def forever (s : σ) (e : ε) (h : M.step s e = some s) : M.Execution :=
  ⟨fun _ => s, fun _ => e, fun _ => h⟩

/-- An event that can always be taken, from what it leaves too, is taken for ever. -/
theorem exists_of_invariant {I : σ → Prop} {e : ε} {s : σ}
    (hstep : ∀ {s}, I s → ∃ s', M.step s e = some s' ∧ I s') (hs : I s) :
    ∃ x : M.Execution, x.state 0 = s ∧ ∀ n, I (x.state n) ∧ x.event n = e := by
  choose next hnext hkeeps using @hstep
  let states : Nat → { t // I t } := Nat.rec ⟨s, hs⟩ fun _ t => ⟨next t.2, hkeeps t.2⟩
  exact ⟨⟨fun n => (states n).1, fun _ => e, fun n => hnext (states n).2⟩, rfl,
    fun n => ⟨(states n).2, rfl⟩⟩

/-- A run goes on as any execution from its last state does. -/
theorem exists_extension {C : σ → ε → Prop} {es : List ε} {s : σ} (x : M.Execution)
    (hrun : M.run s es = some (x.state 0)) (hC : M.AllSteps C s es)
    (hx : ∀ n, C (x.state n) (x.event n)) : ∃ y : M.Execution, y.state 0 = s ∧
      (∀ n, C (y.state n) (y.event n)) ∧ (∀ i (h : i < es.length), y.event i = es[i]) ∧
      ∀ n, y.state (es.length + n) = x.state n ∧ y.event (es.length + n) = x.event n := by
  induction es generalizing s with
  | nil =>
    rw [run_nil, Option.some.injEq] at hrun
    exact ⟨x, hrun.symm, hx, nofun, fun n => by rw [List.length_nil, Nat.zero_add]; exact ⟨rfl, rfl⟩⟩
  | cons e es ih =>
    obtain ⟨t, ht, hrun⟩ := run_cons_some.1 hrun
    obtain ⟨y, hy, hyC, hevents, htail⟩ := ih hrun (hC.2 t ht)
    refine ⟨cons s e y (hy ▸ ht), rfl, ?_, ?_, fun n => ?_⟩
    · rintro (- | n)
      · exact hC.1
      · exact hyC n
    · rintro (- | i) hi
      · rfl
      · exact hevents i (Nat.lt_of_succ_lt_succ hi)
    · rw [List.length_cons, Nat.add_right_comm]
      exact htail n

/-- A run that comes to a state which a step leads back to: an execution takes the steps of the run
and is in its last state for ever. -/
theorem exists_settled {C : σ → ε → Prop} {es fs : List ε} {s t u : σ} {e : ε}
    (hes : M.run s es = some t) (hfs : M.run t fs = some u) (hCes : M.AllSteps C s es)
    (hCfs : M.AllSteps C t fs) (hloop : M.step u e = some u) (hC : C u e) :
    ∃ x : M.Execution, x.state 0 = s ∧ (∀ n, C (x.state n) (x.event n)) ∧ x.state es.length = t ∧
      (∀ i (h : i < fs.length), x.event (es.length + i) = fs[i]) ∧
      ∀ n, ∃ m, n ≤ m ∧ x.state m = u := by
  obtain ⟨y, hy, hyC, hyfs, hyend⟩ := exists_extension (forever u e hloop) hfs hCfs fun _ => hC
  obtain ⟨x, hx, hxC, -, hxend⟩ := exists_extension y (hy ▸ hes) hCes hyC
  refine ⟨x, hx, hxC, (hxend 0).1.trans hy, fun i hi => (hxend i).2.trans (hyfs i hi), fun n => ?_⟩
  refine ⟨es.length + (fs.length + n), by omega, ?_⟩
  rw [(hxend _).1, (hyend n).1]
  rfl

end Execution

end Machine
