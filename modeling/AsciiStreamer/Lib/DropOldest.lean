import AsciiStreamer.Lib.Machine

/-!
# Bounded queues that drop their oldest element

A queue of at most `cap` elements: `send` appends, after it has evicted the oldest element of a
full queue, and `take` removes the oldest. The state keeps what has been sent, taken and evicted.
`run_history` is the law of such a queue over whole runs: what has left the queue, in order, is
what was sent first, each element either taken or evicted, and an evicted one had at least `cap`
newer ones behind it. `History.newer` and `History.filter_sent` are what it says of one element and
of a kind of elements none of which is evicted.
-/

universe u

structure DropOldest (α : Type u) where
  queue : List α := []
  sent : List α := []
  taken : List α := []
  evicted : List α := []

namespace DropOldest

variable {α : Type u}

inductive Event (α : Type u)
  | send (a : α)
  | take

inductive Fate
  | taken
  | evicted
  deriving DecidableEq, Repr

def send (cap : Nat) (s : DropOldest α) (a : α) : DropOldest α :=
  if cap ≤ s.queue.length then
    { s with
      queue := s.queue.tail ++ [a]
      sent := s.sent ++ [a]
      evicted := s.evicted ++ s.queue.take 1 }
  else { s with queue := s.queue ++ [a], sent := s.sent ++ [a] }

def take (s : DropOldest α) : Option (DropOldest α) :=
  match s.queue with
  | [] => none
  | a :: q => some { s with queue := q, taken := s.taken ++ [a] }

def machine (α : Type u) (cap : Nat) : Machine (DropOldest α) (Event α) where
  step s
    | .send a => some (s.send cap a)
    | .take => s.take

/-! ## The law of the queue -/

def ofFate (f : Fate) (gone : List (α × Fate)) : List α :=
  (gone.filter fun x => x.2 = f).map Prod.fst

/-- What has left the queue, with its fate: with the queue behind it, it is what was sent, and
behind an evicted element there are at least `cap` newer ones. -/
def History (cap : Nat) (s : DropOldest α) : Prop :=
  ∃ gone : List (α × Fate), s.sent = gone.map Prod.fst ++ s.queue ∧
    s.taken = ofFate .taken gone ∧ s.evicted = ofFate .evicted gone ∧
    ∀ i a, gone[i]? = some (a, .evicted) → i + cap < s.sent.length

section Law

variable {cap : Nat} {s s' s'' : DropOldest α}

theorem ofFate_concat (f : Fate) (gone : List (α × Fate)) (a : α) (g : Fate) :
    ofFate f (gone ++ [(a, g)]) = if g = f then ofFate f gone ++ [a] else ofFate f gone := by
  unfold ofFate
  by_cases h : g = f
  · simp [List.filter_append, h]
  · simp [List.filter_append, h]

theorem history_init : History cap ({} : DropOldest α) :=
  ⟨[], rfl, rfl, rfl, fun i a h => by simp at h⟩

theorem getElem?_concat_cases {gone : List (α × Fate)} {x y : α × Fate} {i : Nat}
    (h : (gone ++ [x])[i]? = some y) : gone[i]? = some y ∨ i = gone.length ∧ x = y := by
  rw [List.getElem?_append] at h
  split at h
  · exact Or.inl h
  · next hi =>
    rw [List.getElem?_singleton] at h
    split at h
    · next hz => exact Or.inr ⟨by omega, Option.some.inj h⟩
    · cases h

theorem History.send (h : History cap s) (hcap : 0 < cap) (a : α) : History cap (s.send cap a) := by
  obtain ⟨gone, hsent, htaken, hevicted, hnewer⟩ := h
  unfold DropOldest.send
  split
  · next hfull =>
    cases hq : s.queue with
    | nil =>
      rw [hq, List.length_nil] at hfull
      omega
    | cons b q =>
      refine ⟨gone ++ [(b, .evicted)], ?_, ?_, ?_, ?_⟩
      · simp [hsent, hq]
      · simp [htaken, ofFate_concat]
      · simp [hevicted, ofFate_concat]
      · intro i x hi
        simp only [List.length_append, List.length_singleton]
        rcases getElem?_concat_cases hi with hi | ⟨rfl, -⟩
        · have := hnewer i x hi
          omega
        · -- the one that is evicted now has the whole queue behind it
          rw [hsent, List.length_append, List.length_map]
          omega
  · refine ⟨gone, by simp [hsent], htaken, hevicted, fun i x hi => ?_⟩
    have := hnewer i x hi
    simp only [List.length_append, List.length_singleton]
    omega

theorem History.take (h : History cap s) (ht : s.take = some s') : History cap s' := by
  obtain ⟨gone, hsent, htaken, hevicted, hnewer⟩ := h
  unfold DropOldest.take at ht
  split at ht
  · cases ht
  · next b q hq =>
    obtain rfl := Option.some.inj ht
    refine ⟨gone ++ [(b, .taken)], by simp [hsent, hq], by simp [htaken, ofFate_concat],
      by simp [hevicted, ofFate_concat], ?_⟩
    intro i x hi
    rcases getElem?_concat_cases hi with hi | ⟨-, hx⟩
    · exact hnewer i x hi
    · cases hx

theorem length_send (h : s.queue.length ≤ cap) (hcap : 0 < cap) (a : α) :
    (s.send cap a).queue.length ≤ cap := by
  unfold DropOldest.send
  split
  · simp only [List.length_append, List.length_tail, List.length_singleton]
    omega
  · simp only [List.length_append, List.length_singleton]
    omega

theorem length_take (h : s.queue.length ≤ cap) (ht : s.take = some s') :
    s'.queue.length ≤ cap := by
  unfold DropOldest.take at ht
  split at ht
  · cases ht
  · next b q hq =>
    obtain rfl := Option.some.inj ht
    rw [hq, List.length_cons] at h
    exact Nat.le_of_succ_le h

/-- **The law of the queue** over whole runs. -/
theorem run_history (hcap : 0 < cap) (es : List (Event α))
    (hrun : (machine α cap).run {} es = some s) : s.queue.length ≤ cap ∧ History cap s := by
  refine Machine.run_invariant (I := fun s => s.queue.length ≤ cap ∧ History cap s) ?_ es
    ⟨Nat.zero_le _, history_init⟩ hrun
  rintro s e s' ⟨hlen, hist⟩ hs
  cases e with
  | send a =>
    obtain rfl := Option.some.inj hs
    exact ⟨length_send hlen hcap a, hist.send hcap a⟩
  | take => exact ⟨length_take hlen hs, hist.take hs⟩

/-! ## What the law says about single elements -/

theorem mem_ofFate {f : Fate} {gone : List (α × Fate)} {a : α} :
    a ∈ ofFate f gone ↔ (a, f) ∈ gone := by
  unfold ofFate
  constructor
  · intro h
    obtain ⟨⟨b, g⟩, hb, rfl⟩ := List.mem_map.1 h
    obtain ⟨hb, hg⟩ := List.mem_filter.1 hb
    rwa [← of_decide_eq_true hg]
  · intro h
    exact List.mem_map.2 ⟨(a, f), List.mem_filter.2 ⟨h, decide_eq_true rfl⟩, rfl⟩

/-- An evicted element was sent before at least `cap` others. -/
theorem History.newer (h : History cap s) {a : α} (ha : a ∈ s.evicted) :
    ∃ older newer, s.sent = older ++ a :: newer ∧ cap ≤ newer.length := by
  obtain ⟨gone, hsent, -, hevicted, hnewer⟩ := h
  rw [hevicted, mem_ofFate] at ha
  obtain ⟨i, hi⟩ := List.mem_iff_getElem?.1 ha
  have hlt := hnewer i a hi
  have hget : s.sent[i]? = some a := by
    rw [hsent, List.getElem?_append_left, List.getElem?_map, hi]
    · rfl
    · rw [List.length_map]
      exact (List.getElem?_eq_some_iff.1 hi).1
  obtain ⟨hlen, rfl⟩ := List.getElem?_eq_some_iff.1 hget
  refine ⟨s.sent.take i, s.sent.drop (i + 1), ?_, ?_⟩
  · rw [List.getElem_cons_drop, List.take_append_drop]
  · rw [List.length_drop]
    omega

theorem ofFate_cons (f : Fate) (gone : List (α × Fate)) (a : α) (g : Fate) :
    ofFate f ((a, g) :: gone) = if g = f then a :: ofFate f gone else ofFate f gone := by
  unfold ofFate
  by_cases h : g = f
  · simp [h]
  · simp [h]

theorem ofFate_filter {p : α → Bool} {gone : List (α × Fate)}
    (h : ∀ a, (a, Fate.evicted) ∈ gone → p a = false) :
    (gone.map Prod.fst).filter p = (ofFate .taken gone).filter p := by
  induction gone with
  | nil => rfl
  | cons x gone ih =>
    have ih := ih fun a ha => h a (List.mem_cons_of_mem x ha)
    obtain ⟨a, f⟩ := x
    rw [List.map_cons, ofFate_cons, List.filter_cons, ih]
    cases f with
    | taken => simp only [↓reduceIte, List.filter_cons]
    | evicted =>
      have ha : p a = false := h a List.mem_cons_self
      simp only [ha, Bool.false_eq_true, ↓reduceIte, reduceCtorEq]

theorem ofFate_append (f : Fate) (gone gone' : List (α × Fate)) :
    ofFate f (gone ++ gone') = ofFate f gone ++ ofFate f gone' := by
  unfold ofFate
  rw [List.filter_append, List.map_append]

/-- Every element that has left the queue has been taken or evicted. -/
theorem ofFate_length (gone : List (α × Fate)) :
    (ofFate .taken gone).length + (ofFate .evicted gone).length = gone.length := by
  induction gone with
  | nil => rfl
  | cons x gone ih =>
    obtain ⟨a, f⟩ := x
    rw [ofFate_cons, ofFate_cons]
    cases f with
    | taken =>
      simp only [reduceCtorEq, ↓reduceIte, List.length_cons]
      omega
    | evicted =>
      simp only [reduceCtorEq, ↓reduceIte, List.length_cons]
      omega

/-- Where none of a kind is evicted, all of that kind are taken or queued, in order. -/
theorem History.filter_sent (h : History cap s) {p : α → Bool}
    (hp : ∀ a ∈ s.evicted, p a = false) : s.sent.filter p = (s.taken ++ s.queue).filter p := by
  obtain ⟨gone, hsent, htaken, hevicted, -⟩ := h
  have hgone : ∀ a, (a, Fate.evicted) ∈ gone → p a = false := by
    intro a ha
    apply hp
    rw [hevicted, mem_ofFate]
    exact ha
  rw [hsent, htaken, List.filter_append, List.filter_append, ofFate_filter hgone]

/-! ## From one state to a later one -/

/-- How many elements have left the queue. -/
def gone (s : DropOldest α) : Nat := s.taken.length + s.evicted.length

/-- The new elements come in behind the queue, and what leaves leaves at its front. -/
structure Passes (s s' : DropOldest α) (new : List α) (left : List (α × Fate)) : Prop where
  queue : s.queue ++ new = left.map Prod.fst ++ s'.queue
  taken : s'.taken = s.taken ++ ofFate .taken left
  evicted : s'.evicted = s.evicted ++ ofFate .evicted left

theorem Passes.refl (s : DropOldest α) : Passes s s [] [] :=
  ⟨List.append_nil _, (List.append_nil _).symm, (List.append_nil _).symm⟩

theorem Passes.trans {new new' : List α} {left left' : List (α × Fate)}
    (h : Passes s s' new left) (h' : Passes s' s'' new' left') :
    Passes s s'' (new ++ new') (left ++ left') := by
  refine ⟨?_, ?_, ?_⟩
  · rw [← List.append_assoc, h.queue, List.append_assoc, h'.queue, List.map_append,
      List.append_assoc]
  · rw [h'.taken, h.taken, ofFate_append, List.append_assoc]
  · rw [h'.evicted, h.evicted, ofFate_append, List.append_assoc]

theorem Passes.gone {new : List α} {left : List (α × Fate)} (h : Passes s s' new left) :
    s'.gone = s.gone + left.length := by
  have hlen := ofFate_length left
  unfold DropOldest.gone
  rw [h.taken, h.evicted, List.length_append, List.length_append]
  omega

/-- What has come into the queue has left it or is in it. -/
theorem Passes.queued {new : List α} {left : List (α × Fate)} (h : Passes s s' new left) :
    s'.gone + s'.queue.length = s.gone + s.queue.length + new.length := by
  have hlen := congrArg List.length h.queue
  rw [List.length_append, List.length_append, List.length_map] at hlen
  rw [h.gone]
  omega

theorem send_passes (hcap : 0 < cap) (s : DropOldest α) (a : α) :
    ∃ left, Passes s (s.send cap a) [a] left := by
  unfold send
  split
  · next hfull =>
    cases hq : s.queue with
    | nil =>
      rw [hq, List.length_nil] at hfull
      omega
    | cons b q =>
      refine ⟨[(b, .evicted)], ?_, (List.append_nil _).symm, rfl⟩
      rw [hq]
      rfl
  · exact ⟨[], rfl, (List.append_nil _).symm, (List.append_nil _).symm⟩

theorem take_passes (h : s.take = some s') : ∃ a, Passes s s' [] [(a, .taken)] := by
  unfold take at h
  split at h
  · cases h
  · next b q hq =>
    obtain rfl := Option.some.inj h
    refine ⟨b, ?_, rfl, (List.append_nil _).symm⟩
    rw [hq, List.append_nil]
    rfl

end Law

end DropOldest
