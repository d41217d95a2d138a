import Mathlib.Data.List.Basic

/-!
# Machines and their runs

A `Machine` says what one event does to a state; an event that cannot occur there has no
successor. Everything a machine is asked about is asked of its runs: `run_invariant` carries a
property from one step to every run, `run_restrict` does so for the runs whose steps all meet a
condition, by making them the runs of a machine of their own, `allStates_iff_allSteps` and
`allSteps_congr` are for a condition that decides the property, `record_invariant` is for a property
of a run and a record kept along it, and `run_simulation` transports runs along a map between two
machines. `proceed` is the step of one of several suspended coroutines.
-/

universe u v w x

/-- What one event does to a state, `none` where the event cannot occur. -/
structure Machine (σ : Type u) (ε : Type v) where
  step : σ → ε → Option σ

namespace Machine

variable {σ : Type u} {ε : Type v} {M : Machine σ ε}

/-! ## Runs -/

def run (M : Machine σ ε) : σ → List ε → Option σ
  | s, [] => some s
  | s, e :: es => (M.step s e).bind fun s' => run M s' es

@[simp] theorem run_nil (s : σ) : M.run s [] = some s := rfl

theorem run_cons (s : σ) (e : ε) (es : List ε) :
    M.run s (e :: es) = (M.step s e).bind fun s' => M.run s' es := rfl

theorem run_cons_some {s s' : σ} {e : ε} {es : List ε} :
    M.run s (e :: es) = some s' ↔ ∃ t, M.step s e = some t ∧ M.run t es = some s' := by
  rw [run_cons, Option.bind_eq_some_iff]

theorem run_append (s : σ) (es fs : List ε) :
    M.run s (es ++ fs) = (M.run s es).bind fun s' => M.run s' fs := by
  induction es generalizing s with
  | nil => rfl
  | cons e es ih =>
    rw [List.cons_append, run_cons, run_cons, Option.bind_assoc]
    exact Option.bind_congr fun t _ => ih t

/-- **The invariant rule**: what every step keeps, every run keeps. -/
theorem run_invariant {I : σ → Prop}
    (hstep : ∀ {s e s'}, I s → M.step s e = some s' → I s')
    (es : List ε) {s s' : σ} (hs : I s) (hr : M.run s es = some s') : I s' := by
  induction es generalizing s with
  | nil =>
    rw [run_nil, Option.some.injEq] at hr
    exact hr ▸ hs
  | cons e es ih =>
    obtain ⟨t, ht, hr⟩ := run_cons_some.1 hr
    exact ih (hstep hs ht) hr

/-! ## Every state and every step of a run -/

/-- `P` holds in every state the run passes through, its first and last included. -/
def AllStates (M : Machine σ ε) (P : σ → Prop) : σ → List ε → Prop
  | s, [] => P s
  | s, e :: es => P s ∧ ∀ s', M.step s e = some s' → AllStates M P s' es

/-- Every step of the run is taken where `C` allows it. -/
def AllSteps (M : Machine σ ε) (C : σ → ε → Prop) : σ → List ε → Prop
  | _, [] => True
  | s, e :: es => C s e ∧ ∀ s', M.step s e = some s' → AllSteps M C s' es

theorem AllStates.head {P : σ → Prop} {s : σ} {es : List ε} (h : M.AllStates P s es) : P s := by
  cases es with
  | nil => exact h
  | cons e es => exact h.1

theorem AllSteps.of_forall {C : σ → ε → Prop} (h : ∀ s e, C s e) (es : List ε) (s : σ) :
    M.AllSteps C s es := by
  induction es generalizing s with
  | nil => trivial
  | cons e es ih => exact ⟨h s e, fun s' _ => ih s'⟩

theorem AllSteps.mono {C D : σ → ε → Prop} (hCD : ∀ s e, C s e → D s e) {es : List ε} {s : σ}
    (h : M.AllSteps C s es) : M.AllSteps D s es := by
  induction es generalizing s with
  | nil => trivial
  | cons e es ih => exact ⟨hCD s e h.1, fun s' hs => ih (h.2 s' hs)⟩

theorem allSteps_append {C : σ → ε → Prop} {es fs : List ε} {s s' : σ}
    (hr : M.run s es = some s') :
    M.AllSteps C s (es ++ fs) ↔ M.AllSteps C s es ∧ M.AllSteps C s' fs := by
  induction es generalizing s with
  | nil =>
    rw [run_nil, Option.some.injEq] at hr
    subst hr
    exact ⟨fun h => ⟨trivial, h⟩, And.right⟩
  | cons e es ih =>
    obtain ⟨t, ht, hr⟩ := run_cons_some.1 hr
    constructor
    · rintro ⟨hc, h⟩
      obtain ⟨hes, hfs⟩ := (ih hr).1 (h t ht)
      refine ⟨⟨hc, fun t' ht' => ?_⟩, hfs⟩
      obtain rfl : t = t' := Option.some.inj (ht.symm.trans ht')
      exact hes
    · rintro ⟨⟨hc, h⟩, hfs⟩
      refine ⟨hc, fun t' ht' => ?_⟩
      obtain rfl : t = t' := Option.some.inj (ht.symm.trans ht')
      exact (ih hr).2 ⟨h t ht, hfs⟩

/-- **The invariant rule under a condition**: what every step that meets `C` keeps, every run whose
steps all meet it keeps. -/
theorem AllSteps.invariant {C : σ → ε → Prop} {I : σ → Prop}
    (hstep : ∀ {s e s'}, I s → C s e → M.step s e = some s' → I s') {es : List ε} {s s' : σ}
    (hC : M.AllSteps C s es) (hs : I s) (hr : M.run s es = some s') : I s' := by
  induction es generalizing s with
  | nil =>
    rw [run_nil, Option.some.injEq] at hr
    exact hr ▸ hs
  | cons e es ih =>
    obtain ⟨t, ht, hr⟩ := run_cons_some.1 hr
    exact ih (hC.2 t ht) (hstep hs hC.1 ht) hr

/-- And what the invariant says of such a step, it says of every step of the run. -/
theorem AllSteps.of_invariant {C D : σ → ε → Prop} {I : σ → Prop}
    (hstep : ∀ {s e s'}, I s → C s e → M.step s e = some s' → I s')
    (hD : ∀ {s e}, I s → C s e → D s e) {es : List ε} {s : σ} (hC : M.AllSteps C s es)
    (hs : I s) : M.AllSteps D s es := by
  induction es generalizing s with
  | nil => trivial
  | cons e es ih => exact ⟨hD hs hC.1, fun s' ht => ih (hC.2 s' ht) (hstep hs hC.1 ht)⟩

/-- The machine that can only take the steps `C` allows. -/
def restrict (M : Machine σ ε) (C : σ → ε → Prop) [∀ s e, Decidable (C s e)] : Machine σ ε where
  step s e := if C s e then M.step s e else none

theorem restrict_step {C : σ → ε → Prop} [∀ s e, Decidable (C s e)] {s s' : σ} {e : ε} :
    (M.restrict C).step s e = some s' ↔ C s e ∧ M.step s e = some s' :=
  Option.ite_none_right_eq_some

/-- The runs of the restricted machine are the runs all of whose steps `C` allows. -/
theorem run_restrict {C : σ → ε → Prop} [∀ s e, Decidable (C s e)] {es : List ε} {s s' : σ} :
    (M.restrict C).run s es = some s' ↔ M.AllSteps C s es ∧ M.run s es = some s' := by
  induction es generalizing s with
  | nil => exact ⟨fun h => ⟨trivial, h⟩, And.right⟩
  | cons e es ih =>
    constructor
    · intro h
      obtain ⟨t, ht, h⟩ := run_cons_some.1 h
      obtain ⟨hc, ht⟩ := restrict_step.1 ht
      obtain ⟨htail, hrun⟩ := ih.1 h
      refine ⟨⟨hc, fun t' ht' => ?_⟩, run_cons_some.2 ⟨t, ht, hrun⟩⟩
      obtain rfl : t = t' := Option.some.inj (ht.symm.trans ht')
      exact htail
    · rintro ⟨⟨hc, htail⟩, hrun⟩
      obtain ⟨t, ht, hrun⟩ := run_cons_some.1 hrun
      exact run_cons_some.2 ⟨t, restrict_step.2 ⟨hc, ht⟩, ih.2 ⟨htail t ht, hrun⟩⟩

/-- **The exact condition of a run**: where `J` is invariant and, from a state with `J` and `P`,
a step leads to `P` exactly if it meets `C`, a run all of whose events occur keeps `P` exactly
if all of its steps meet `C`. -/
theorem allStates_iff_allSteps {J P : σ → Prop} {C : σ → ε → Prop}
    (hJ : ∀ {s e s'}, J s → M.step s e = some s' → J s')
    (hP : ∀ {s e s'}, J s → P s → M.step s e = some s' → (P s' ↔ C s e))
    {es : List ε} {s s' : σ} (hj : J s) (hp : P s) (hr : M.run s es = some s') :
    M.AllStates P s es ↔ M.AllSteps C s es := by
  induction es generalizing s with
  | nil => exact ⟨fun _ => trivial, fun _ => hp⟩
  | cons e es ih =>
    obtain ⟨t, ht, hr⟩ := run_cons_some.1 hr
    have hC := hP hj hp ht
    constructor
    · rintro ⟨-, h⟩
      have htail := h t ht
      refine ⟨hC.1 htail.head, fun t' ht' => ?_⟩
      obtain rfl : t = t' := Option.some.inj (ht.symm.trans ht')
      exact (ih (hJ hj ht) htail.head hr).1 htail
    · rintro ⟨hc, h⟩
      refine ⟨hp, fun t' ht' => ?_⟩
      obtain rfl : t = t' := Option.some.inj (ht.symm.trans ht')
      exact (ih (hJ hj ht) (hC.2 hc) hr).2 (h t ht)

/-- Conditions that agree on the steps from reachable states agree on runs. -/
theorem allSteps_congr {J : σ → Prop} {C D : σ → ε → Prop}
    (hJ : ∀ {s e s'}, J s → M.step s e = some s' → J s')
    (hCD : ∀ {s e s'}, J s → M.step s e = some s' → (C s e ↔ D s e))
    {es : List ε} {s s' : σ} (hj : J s) (hr : M.run s es = some s') :
    M.AllSteps C s es ↔ M.AllSteps D s es := by
  induction es generalizing s with
  | nil => exact Iff.rfl
  | cons e es ih =>
    obtain ⟨t, ht, hr⟩ := run_cons_some.1 hr
    have htail := ih (hJ hj ht) hr
    refine and_congr (hCD hj ht) ?_
    constructor
    · intro h t' ht'
      obtain rfl : t = t' := Option.some.inj (ht.symm.trans ht')
      exact htail.1 (h t ht)
    · intro h t' ht'
      obtain rfl : t = t' := Option.some.inj (ht.symm.trans ht')
      exact htail.2 (h t ht)

/-! ## Records -/

/-- A record that is kept along a run and that no step reads. -/
def record {τ : Type w} (M : Machine σ ε) (f : σ → ε → σ → τ → τ) : σ → List ε → τ → τ
  | _, [], r => r
  | s, e :: es, r => match M.step s e with
    | none => r
    | some s' => record M f s' es (f s e s' r)

theorem record_append {τ : Type w} {f : σ → ε → σ → τ → τ} {es fs : List ε} {s s' : σ} {r : τ}
    (hr : M.run s es = some s') :
    M.record f s (es ++ fs) r = M.record f s' fs (M.record f s es r) := by
  induction es generalizing s r with
  | nil =>
    rw [run_nil, Option.some.injEq] at hr
    subst hr
    rfl
  | cons e es ih =>
    obtain ⟨t, ht, hr⟩ := run_cons_some.1 hr
    simp only [List.cons_append, record, ht]
    exact ih hr

/-- **The invariant rule for a run with its record**, where every step of the run meets `C`. -/
theorem record_invariant {τ : Type w} {f : σ → ε → σ → τ → τ} {C : σ → ε → Prop} {I : σ → τ → Prop}
    (hstep : ∀ {s e s' r}, I s r → C s e → M.step s e = some s' → I s' (f s e s' r))
    {es : List ε} {s s' : σ} {r : τ} (hi : I s r) (hC : M.AllSteps C s es)
    (hr : M.run s es = some s') : I s' (M.record f s es r) := by
  induction es generalizing s r with
  | nil =>
    rw [run_nil, Option.some.injEq] at hr
    exact hr ▸ hi
  | cons e es ih =>
    obtain ⟨hc, htail⟩ := hC
    obtain ⟨t, ht, hr⟩ := run_cons_some.1 hr
    have hrest := ih (hstep hi hc ht) (htail t ht) hr
    simpa only [record, ht] using hrest

/-! ## Simulation -/

/-- **Simulation**: where every step of `M` is a run of `N` under `f`, every run of `M` is one. -/
theorem run_simulation {τ : Type w} {δ : Type x} {N : Machine τ δ} {f : σ → τ} {I : σ → Prop}
    (hI : ∀ {s e s'}, I s → M.step s e = some s' → I s')
    (hstep : ∀ {s e s'}, I s → M.step s e = some s' → ∃ ds, N.run (f s) ds = some (f s'))
    (es : List ε) {s s' : σ} (hs : I s) (hr : M.run s es = some s') :
    ∃ ds, N.run (f s) ds = some (f s') := by
  induction es generalizing s with
  | nil =>
    rw [run_nil, Option.some.injEq] at hr
    exact ⟨[], by rw [hr, run_nil]⟩
  | cons e es ih =>
    obtain ⟨t, ht, hr⟩ := run_cons_some.1 hr
    obtain ⟨ds, hds⟩ := hstep hs ht
    obtain ⟨ds', hds'⟩ := ih (hI hs ht) hr
    refine ⟨ds ++ ds', ?_⟩
    rw [run_append, hds]
    exact hds'

end Machine

/-! ## Suspended coroutines -/

/-- The `i`-th of several suspended coroutines has run on: to where it suspends next, or to its
end. -/
def proceed {α : Type u} (l : List α) (i : Nat) : Option α → List α
  | some a => l.set i a
  | none => l.eraseIdx i

section Proceed

variable {α : Type u} {l : List α} {i : Nat} {a b : α}

@[simp] theorem length_proceed_some : (proceed l i (some a)).length = l.length :=
  List.length_set

theorem length_proceed_none (hi : i < l.length) : (proceed l i none).length = l.length - 1 :=
  List.length_eraseIdx_of_lt hi

/-- The coroutine that runs on, and those beside it. -/
theorem proceed_split (h : l[i]? = some a) : ∃ left right, l = left ++ a :: right ∧
    ∀ next : Option α, proceed l i next = left ++ next.toList ++ right := by
  obtain ⟨hi, rfl⟩ := List.getElem?_eq_some_iff.1 h
  refine ⟨l.take i, l.drop (i + 1), ?_, fun next => ?_⟩
  · rw [List.getElem_cons_drop, List.take_append_drop]
  · cases next with
    | some b =>
      rw [proceed, List.set_eq_take_append_cons_drop, if_pos hi, List.append_assoc]
      rfl
    | none =>
      rw [proceed, List.eraseIdx_eq_take_drop_succ, Option.toList_none, List.append_nil]

/-- The other coroutines stay where they are. -/
theorem mem_proceed {next : Option α} (hb : b ∈ l) (hi : l[i]? ≠ some b) :
    b ∈ proceed l i next := by
  obtain ⟨j, hj, hjb⟩ := List.mem_iff_getElem.1 hb
  have hne : j ≠ i := by
    rintro rfl
    rw [List.getElem?_eq_getElem hj, hjb] at hi
    exact hi rfl
  cases next with
  | some a => exact List.mem_iff_getElem.2 ⟨j, by simpa [proceed] using hj, by
      simp only [proceed, List.getElem_set_of_ne hne.symm, hjb]⟩
  | none => exact List.mem_eraseIdx_iff_getElem.2 ⟨j, hj, hne, hjb⟩

/-- The one that has run on is where it suspends next. -/
theorem mem_proceed_self (h : l[i]? = some a) : b ∈ proceed l i (some b) := by
  obtain ⟨left, right, -, hproceed⟩ := proceed_split h
  rw [hproceed]
  exact List.mem_append_left _ (List.mem_append_right _ (List.mem_singleton_self b))

theorem mem_of_mem_proceed {next : Option α} (hb : b ∈ proceed l i next) :
    b ∈ l ∨ next = some b := by
  cases next with
  | some a =>
    rcases List.mem_or_eq_of_mem_set hb with hb | rfl
    · exact Or.inl hb
    · exact Or.inr rfl
  | none => exact Or.inl (List.mem_of_mem_eraseIdx hb)

end Proceed
