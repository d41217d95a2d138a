import Mathlib.Data.List.DropRight
import Mathlib.Data.List.SplitBy
import AsciiStreamer.Lib.Dump

/-!
# What a page gets from its browser

The WebSockets of a page. A page makes one connection after the other and keeps a variable for the one
it works with: its events come to all of them, and what it sends goes to the one in the variable, which
throws while that one is connecting. `Greeted` is what such a page keeps if it greets whenever a
connection opens: no connection carries anything before a greeting.

`stringify` and `trim` are `JSON.stringify` and `String.prototype.trim`, on UTF-8.
-/

namespace Browser

open Cxx

/-! ## Connections -/

inductive ReadyState
  | connecting
  | opened
  | closing
  | closed
  deriving DecidableEq, Repr

/-- A WebSocket, and what the page has handed to it. -/
structure Socket (μ : Type) where
  readyState : ReadyState := .connecting
  sent : List μ := []

/-- The WebSockets of a page, the oldest first, and the one its variable holds. -/
structure Sockets (μ : Type) where
  made : List (Socket μ) := []
  current : Option Nat := none

variable {μ : Type}

namespace Socket

/-- `send` throws, or hands the message on, or drops it. -/
def send (w : Socket μ) (m : μ) : Option (Socket μ) := match w.readyState with
  | .connecting => none
  | .opened => some { w with sent := w.sent ++ [m] }
  | .closing | .closed => some w

def close (w : Socket μ) : Socket μ := match w.readyState with
  | .connecting | .opened => { w with readyState := .closing }
  | .closing | .closed => w

end Socket

namespace Sockets

/-- The variable holds a WebSocket that is open. -/
def isOpen (s : Sockets μ) : Bool :=
  (s.current.bind fun i => s.made[i]?).any fun w => w.readyState = .opened

/-- `new WebSocket(url)`. -/
def connect (s : Sockets μ) : Sockets μ :=
  { made := s.made ++ [{}], current := some s.made.length }

/-- `send` of the WebSocket in the variable, `none` where it throws. -/
def send (s : Sockets μ) (m : μ) : Option (Sockets μ) := do
  let i ← s.current
  let w ← s.made[i]?
  let w ← w.send m
  return { s with made := s.made.set i w }

/-- What is left of `send` in a handler that does nothing else. -/
def trySend (s : Sockets μ) (m : μ) : Sockets μ := (s.send m).getD s

/-- `close` of the WebSocket in the variable, if it holds one. -/
def close (s : Sockets μ) : Sockets μ := match s.current with
  | none => s
  | some i => match s.made[i]? with
    | none => s
    | some w => { s with made := s.made.set i w.close }

def forget (s : Sockets μ) : Sockets μ := { s with current := none }

/-- The `i`-th connection has been opened. -/
def opens (s : Sockets μ) (i : Nat) : Option (Sockets μ) := do
  let w ← s.made[i]?
  if w.readyState = .connecting then
    return { s with made := s.made.set i { w with readyState := .opened } }
  else none

/-- The `i`-th connection is no longer. -/
def closes (s : Sockets μ) (i : Nat) : Option (Sockets μ) := do
  let w ← s.made[i]?
  if w.readyState ≠ .closed then
    return { s with made := s.made.set i { w with readyState := .closed } }
  else none

/-- The `i`-th connection takes messages in. -/
def receives (s : Sockets μ) (i : Nat) : Bool :=
  (s.made[i]?).any fun w => w.readyState = .opened

end Sockets

/-! ## What is sent stays sent -/

/-- The connections are there as before, and may have sent more. -/
def Grows (s s' : Sockets μ) : Prop :=
  ∀ (i : Nat) (w : Socket μ), s.made[i]? = some w →
    ∃ w', s'.made[i]? = some w' ∧ w.sent <+: w'.sent

section Growing

variable {s s' s'' : Sockets μ}

theorem Grows.refl (s : Sockets μ) : Grows s s := fun _ w h => ⟨w, h, List.prefix_refl _⟩

theorem Grows.trans (h : Grows s s') (h' : Grows s' s'') : Grows s s'' := by
  intro i w hw
  obtain ⟨w', hw', hsent⟩ := h i w hw
  obtain ⟨w'', hw'', hsent'⟩ := h' i w' hw'
  exact ⟨w'', hw'', hsent.trans hsent'⟩

/-- One connection changes and keeps what it has sent. -/
theorem Grows.set {i : Nat} {w w' : Socket μ} (hw : s.made[i]? = some w)
    (hsent : w.sent <+: w'.sent) (current : Option Nat) :
    Grows s { made := s.made.set i w', current := current } := by
  intro j x hx
  have hj : j < s.made.length := (List.getElem?_eq_some_iff.1 hx).1
  by_cases h : i = j
  · subst h
    rw [hx] at hw
    cases hw
    exact ⟨w', List.getElem?_set_self hj, hsent⟩
  · refine ⟨x, ?_, List.prefix_refl _⟩
    rw [List.getElem?_set_ne h, hx]

theorem send_sent {w w' : Socket μ} {m : μ} (h : w.send m = some w') : w.sent <+: w'.sent := by
  unfold Socket.send at h
  split at h
  · cases h
  · cases h
    exact List.prefix_append _ _
  · cases h
    exact List.prefix_refl _
  · cases h
    exact List.prefix_refl _

theorem close_sent (w : Socket μ) : w.close.sent = w.sent := by
  unfold Socket.close
  split <;> rfl

theorem send_eq {m : μ} (h : s.send m = some s') : ∃ i w w', s.current = some i ∧
    s.made[i]? = some w ∧ w.send m = some w' ∧ s' = { s with made := s.made.set i w' } := by
  obtain ⟨i, hi, h⟩ := Option.bind_eq_some_iff.1 h
  obtain ⟨w, hw, h⟩ := Option.bind_eq_some_iff.1 h
  obtain ⟨w', hw', h⟩ := Option.bind_eq_some_iff.1 h
  cases h
  exact ⟨i, w, w', hi, hw, hw', rfl⟩

theorem opens_eq {i : Nat} (h : s.opens i = some s') : ∃ w, s.made[i]? = some w ∧
    w.readyState = .connecting ∧
    s' = { s with made := s.made.set i { w with readyState := .opened } } := by
  obtain ⟨w, hw, h⟩ := Option.bind_eq_some_iff.1 h
  obtain ⟨hstate, h⟩ := Option.ite_none_right_eq_some.1 h
  cases h
  exact ⟨w, hw, hstate, rfl⟩

theorem closes_eq {i : Nat} (h : s.closes i = some s') : ∃ w, s.made[i]? = some w ∧
    s' = { s with made := s.made.set i { w with readyState := .closed } } := by
  obtain ⟨w, hw, h⟩ := Option.bind_eq_some_iff.1 h
  obtain ⟨-, h⟩ := Option.ite_none_right_eq_some.1 h
  cases h
  exact ⟨w, hw, rfl⟩

theorem close_eq (s : Sockets μ) : s.close = s ∨ ∃ i w, s.current = some i ∧
    s.made[i]? = some w ∧ s.close = { s with made := s.made.set i w.close } := by
  unfold Sockets.close
  split
  · exact Or.inl rfl
  · next i hi =>
    split
    · exact Or.inl rfl
    · next w hw => exact Or.inr ⟨i, w, hi, hw, rfl⟩

theorem grows_connect (s : Sockets μ) : Grows s s.connect := by
  intro i w hw
  refine ⟨w, ?_, List.prefix_refl _⟩
  exact (List.getElem?_append_left (List.getElem?_eq_some_iff.1 hw).1).trans hw

theorem grows_send {m : μ} (h : s.send m = some s') : Grows s s' := by
  obtain ⟨i, w, w', -, hw, hsend, rfl⟩ := send_eq h
  exact .set hw (send_sent hsend) _

theorem grows_trySend (s : Sockets μ) (m : μ) : Grows s (s.trySend m) := by
  unfold Sockets.trySend
  cases h : s.send m with
  | none => exact .refl s
  | some s' => exact grows_send h

theorem grows_close (s : Sockets μ) : Grows s s.close := by
  rcases close_eq s with h | ⟨i, w, -, hw, h⟩
  · rw [h]
    exact .refl s
  · rw [h]
    refine .set hw ?_ _
    rw [close_sent]

theorem grows_forget (s : Sockets μ) : Grows s s.forget := fun _ w h => ⟨w, h, List.prefix_refl _⟩

theorem grows_opens {i : Nat} (h : s.opens i = some s') : Grows s s' := by
  obtain ⟨w, hw, -, rfl⟩ := opens_eq h
  have hsent : w.sent <+: { w with readyState := .opened : Socket μ }.sent := List.prefix_refl _
  exact .set hw hsent _

theorem grows_closes {i : Nat} (h : s.closes i = some s') : Grows s s' := by
  obtain ⟨w, hw, rfl⟩ := closes_eq h
  have hsent : w.sent <+: { w with readyState := .closed : Socket μ }.sent := List.prefix_refl _
  exact .set hw hsent _

theorem forall_sent {R : μ → Prop} {ws : List (Socket μ)} {sents : List (List μ)}
    (h : ws.map Socket.sent = sents) (hR : ∀ sent ∈ sents, ∀ m ∈ sent, R m) :
    ∀ w ∈ ws, ∀ m ∈ w.sent, R m := by
  intro w hw
  have hmem : w.sent ∈ sents := h ▸ List.mem_map_of_mem hw
  exact hR w.sent hmem

end Growing

/-! ## Greetings -/

/-- What the connections carry is allowed and begins with a greeting, and the one the page works with
carries something as soon as it is open. -/
structure Greeted (greeting allowed : μ → Prop) (s : Sockets μ) : Prop where
  silent : ∀ (i : Nat) (w : Socket μ), s.made[i]? = some w → w.readyState = .connecting → w.sent = []
  first : ∀ (i : Nat) (w : Socket μ), s.made[i]? = some w → ∀ m, w.sent.head? = some m → greeting m
  messages : ∀ (i : Nat) (w : Socket μ), s.made[i]? = some w → ∀ m ∈ w.sent, allowed m
  current : ∀ (i : Nat) (w : Socket μ), s.current = some i → s.made[i]? = some w →
    w.readyState = .opened → w.sent ≠ []

/-- What holds of one connection of such a page. -/
structure Greets (greeting allowed : μ → Prop) (isCurrent : Prop) (w : Socket μ) : Prop where
  silent : w.readyState = .connecting → w.sent = []
  first : ∀ m, w.sent.head? = some m → greeting m
  messages : ∀ m ∈ w.sent, allowed m
  current : isCurrent → w.readyState = .opened → w.sent ≠ []

/-- What a handler may do with the connections that are there. -/
inductive Uses (allowed : μ → Prop) (s : Sockets μ) : Sockets μ → Prop
  | refl : Uses allowed s s
  | send {s' : Sockets μ} (m : μ) (hm : allowed m) (h : Uses allowed s s') :
    Uses allowed s (s'.trySend m)
  | close {s' : Sockets μ} (h : Uses allowed s s') : Uses allowed s s'.close
  | forget {s' : Sockets μ} (h : Uses allowed s s') : Uses allowed s s'.forget

section Greeting

variable {greeting allowed : μ → Prop} {s s' : Sockets μ} {i : Nat} {w w' : Socket μ} {m : μ}

theorem Greeted.init : Greeted greeting allowed {} :=
  ⟨nofun, nofun, nofun, nofun⟩

theorem Greeted.greets (h : Greeted greeting allowed s) (hw : s.made[i]? = some w) :
    Greets greeting allowed (s.current = some i) w :=
  ⟨h.silent i w hw, h.first i w hw, h.messages i w hw, fun hi => h.current i w hi hw⟩

theorem greeted_of_greets (h : ∀ (i : Nat) (w : Socket μ), s.made[i]? = some w →
    Greets greeting allowed (s.current = some i) w) : Greeted greeting allowed s :=
  ⟨fun i w hw => (h i w hw).silent, fun i w hw => (h i w hw).first,
    fun i w hw => (h i w hw).messages, fun i w hi hw => (h i w hw).current hi⟩

/-- One connection changes. -/
theorem Greeted.set (h : Greeted greeting allowed s)
    (hw' : Greets greeting allowed (s.current = some i) w') :
    Greeted greeting allowed { s with made := s.made.set i w' } := by
  refine greeted_of_greets fun j x hx => ?_
  by_cases hj : i = j
  · subst hj
    obtain rfl : x = w' := by
      rw [List.getElem?_set_self'] at hx
      obtain ⟨_, -, hx⟩ := Option.map_eq_some_iff.1 hx
      exact hx.symm
    exact hw'
  · rw [List.getElem?_set_ne hj] at hx
    exact h.greets hx

theorem Greeted.connect (h : Greeted greeting allowed s) : Greeted greeting allowed s.connect := by
  have fresh : ∀ isCurrent, Greets greeting allowed isCurrent ({} : Socket μ) :=
    fun _ => ⟨fun _ => rfl, nofun, nofun, nofun⟩
  refine greeted_of_greets fun j x hx => ?_
  by_cases hj : j < s.made.length
  · have hx' : s.made[j]? = some x := (List.getElem?_append_left hj).symm.trans hx
    obtain ⟨silent, first, messages, -⟩ := h.greets hx'
    refine ⟨silent, first, messages, fun hcur => ?_⟩
    have hlen : s.made.length = j := Option.some.inj hcur
    exact absurd hj (hlen ▸ Nat.lt_irrefl _)
  · have hx' : [({} : Socket μ)][j - s.made.length]? = some x :=
      (List.getElem?_append_right (Nat.le_of_not_lt hj)).symm.trans hx
    have hmem := List.mem_singleton.1 (List.mem_of_getElem? hx')
    exact hmem ▸ fresh _

theorem Greeted.forget (h : Greeted greeting allowed s) : Greeted greeting allowed s.forget :=
  ⟨h.silent, h.first, h.messages, nofun⟩

/-- Behind a greeting anything allowed may be sent. -/
theorem Greeted.send (h : Greeted greeting allowed s) (hm : allowed m)
    (hs : s.send m = some s') : Greeted greeting allowed s' := by
  obtain ⟨i, w, w', hi, hw, hsend, rfl⟩ := send_eq hs
  have hgreets := h.greets hw
  refine h.set ?_
  unfold Socket.send at hsend
  split at hsend
  · cases hsend
  · next hopen =>
    cases hsend
    have hne := hgreets.current hi hopen
    refine ⟨fun hstate => ?_, fun m' hm' => ?_, fun m' hm' => ?_, fun _ _ => ?_⟩
    · rw [hopen] at hstate
      cases hstate
    · rw [List.head?_append_of_ne_nil _ hne] at hm'
      exact hgreets.first m' hm'
    · rcases List.mem_append.1 hm' with hm' | hm'
      · exact hgreets.messages m' hm'
      · exact List.mem_singleton.1 hm' ▸ hm
    · exact List.append_ne_nil_of_left_ne_nil hne _
  · cases hsend
    exact hgreets
  · cases hsend
    exact hgreets

theorem Greeted.trySend (h : Greeted greeting allowed s) (hm : allowed m) :
    Greeted greeting allowed (s.trySend m) := by
  unfold Sockets.trySend
  cases hs : s.send m with
  | none => exact h
  | some s' => exact h.send hm hs

/-- A connection that is no longer open. -/
theorem Greeted.shut (h : Greeted greeting allowed s) (hw : s.made[i]? = some w)
    (hsent : w'.sent = w.sent) (hconnecting : w'.readyState = .connecting → w.readyState = .connecting)
    (hopened : w'.readyState ≠ .opened) :
    Greeted greeting allowed { s with made := s.made.set i w' } := by
  obtain ⟨silent, first, messages, -⟩ := h.greets hw
  refine h.set ⟨fun hstate => ?_, ?_, ?_, fun _ hstate => absurd hstate hopened⟩
  · rw [hsent]
    exact silent (hconnecting hstate)
  · rw [hsent]
    exact first
  · rw [hsent]
    exact messages

theorem Greeted.close (h : Greeted greeting allowed s) : Greeted greeting allowed s.close := by
  rcases close_eq s with heq | ⟨i, w, -, hw, heq⟩
  · rw [heq]
    exact h
  · rw [heq]
    refine h.shut hw (close_sent w) ?_ ?_ <;> unfold Socket.close <;> split <;> simp_all

theorem Greeted.closes (h : Greeted greeting allowed s) (hs : s.closes i = some s') :
    Greeted greeting allowed s' := by
  obtain ⟨w, hw, rfl⟩ := closes_eq hs
  exact h.shut hw rfl nofun nofun

/-- The page greets when a connection opens, on the one it works with. -/
theorem Greeted.opens (h : Greeted greeting allowed s) (hgreeting : greeting m) (hm : allowed m)
    (hs : s.opens i = some s') : Greeted greeting allowed (s'.trySend m) := by
  obtain ⟨w, hw, hstate, rfl⟩ := opens_eq hs
  obtain ⟨silent, first, messages, -⟩ := h.greets hw
  have hnil := silent hstate
  by_cases hcur : s.current = some i
  · have hi : i < s.made.length := (List.getElem?_eq_some_iff.1 hw).1
    have hsend : ({ s with made := s.made.set i { w with readyState := .opened } } : Sockets μ).send
        m = some { s with made := s.made.set i { readyState := .opened, sent := [m] } } := by
      simp [Sockets.send, hcur, List.getElem?_set_self hi, Socket.send, hnil]
    rw [Sockets.trySend, hsend]
    refine h.set ⟨nofun, fun m' hm' => ?_, fun m' hm' => ?_, fun _ _ => List.cons_ne_nil _ _⟩
    · exact Option.some.inj hm' ▸ hgreeting
    · exact List.mem_singleton.1 hm' ▸ hm
  · refine Greeted.trySend (h.set ⟨nofun, ?_, ?_, fun hi => absurd hi hcur⟩) hm
    · exact first
    · exact messages

/-! ### Handlers -/

theorem Uses.trans (h : Uses allowed s s') {s'' : Sockets μ} (h' : Uses allowed s' s'') :
    Uses allowed s s'' := by
  induction h' with
  | refl => exact h
  | send m hm _ ih => exact ih.send m hm
  | close _ ih => exact ih.close
  | forget _ ih => exact ih.forget

theorem Uses.grows (h : Uses allowed s s') : Grows s s' := by
  induction h with
  | refl => exact .refl s
  | send m _ _ ih => exact ih.trans (grows_trySend _ m)
  | close _ ih => exact ih.trans (grows_close _)
  | forget _ ih => exact ih.trans (grows_forget _)

theorem trySend_length (s : Sockets μ) (m : μ) : (s.trySend m).made.length = s.made.length := by
  unfold Sockets.trySend
  cases h : s.send m with
  | none => rfl
  | some s' =>
    obtain ⟨i, w, w', -, -, -, rfl⟩ := send_eq h
    exact List.length_set

theorem close_length (s : Sockets μ) : s.close.made.length = s.made.length := by
  rcases close_eq s with h | ⟨i, w, -, -, h⟩
  · rw [h]
  · rw [h]
    exact List.length_set

/-- A handler that does not connect makes no connections. -/
theorem Uses.length (h : Uses allowed s s') : s'.made.length = s.made.length := by
  induction h with
  | refl => rfl
  | send m _ _ ih => exact (trySend_length _ m).trans ih
  | close _ ih => exact (close_length _).trans ih
  | forget _ ih => exact ih

theorem Greeted.uses (h : Greeted greeting allowed s) (hs : Uses allowed s s') :
    Greeted greeting allowed s' := by
  induction hs with
  | refl => exact h
  | send m hm _ ih => exact ih.trySend hm
  | close _ ih => exact ih.close
  | forget _ ih => exact ih.forget

end Greeting

/-! ## Texts -/

section Stringify

variable (printDouble : Rat → Bytes)

def quote (s : Bytes) : Bytes := lit "\"" ++ s.flatMap Json.escapeByte ++ lit "\""

mutual

def stringify : Json → Bytes
  | .null => lit "null"
  | .boolean b => if b then lit "true" else lit "false"
  | .integer z => intToDec z
  | .float q => printDouble q
  | .string s => quote s
  | .array es => lit "[" ++ [44].intercalate (stringifyElements es) ++ lit "]"
  | .object fs => lit "\x7b" ++ [44].intercalate (stringifyFields fs) ++ lit "\x7d"

def stringifyElements : List Json → List Bytes
  | [] => []
  | j :: js => stringify j :: stringifyElements js

def stringifyFields : List (Bytes × Json) → List Bytes
  | [] => []
  | (k, v) :: fs => (quote k ++ lit ":" ++ stringify v) :: stringifyFields fs

end

end Stringify

def isContinuation (c : UInt8) : Bool := 0x80 ≤ c && c < 0xC0

/-- The characters of a text. -/
def characters (s : Bytes) : List Bytes := s.splitBy fun _ c => isContinuation c

/-- The white space and the line terminators of ECMAScript. -/
def whiteSpace : List Bytes :=
  [[9], [10], [11], [12], [13], [32], [0xC2, 0xA0], [0xE1, 0x9A, 0x80]] ++
    ((List.range 11).map fun k => [0xE2, 0x80, 0x80 + UInt8.ofNat k]) ++
    [[0xE2, 0x80, 0xA8], [0xE2, 0x80, 0xA9], [0xE2, 0x80, 0xAF], [0xE2, 0x81, 0x9F],
      [0xE3, 0x80, 0x80], [0xEF, 0xBB, 0xBF]]

def trim (s : Bytes) : Bytes :=
  (((characters s).dropWhile whiteSpace.contains).rdropWhile whiteSpace.contains).flatten

section Trim

theorem trim_subset (s : Bytes) : trim s ⊆ s := by
  intro c hc
  obtain ⟨x, hx, hc⟩ := List.mem_flatten.1 hc
  have hmem : x ∈ characters s :=
    (List.dropWhile_suffix _).subset ((List.rdropWhile_prefix _ _).subset hx)
  have hall : c ∈ (characters s).flatten := List.mem_flatten.2 ⟨x, hmem, hc⟩
  rwa [characters, List.flatten_splitBy] at hall

theorem rdropWhile_cons {α : Type} {p : α → Bool} {x : α} (hx : p x = false) (xs : List α) :
    ∃ ys, (x :: xs).rdropWhile p = x :: ys := by
  induction xs using List.reverseRecOn with
  | nil =>
    refine ⟨[], ?_⟩
    rw [← List.nil_append [x], List.rdropWhile_concat_neg _ _ _ (by simp [hx])]
  | append_singleton xs y ih =>
    rw [← List.cons_append, List.rdropWhile_concat]
    split
    · exact ih
    · exact ⟨xs ++ [y], List.cons_append⟩

/-- A text keeps its beginning if that is no white space. -/
theorem trim_cons {c : UInt8} (hc : ∀ x ∈ whiteSpace, x.head? ≠ some c) (s : Bytes) :
    ∃ t, trim (c :: s) = c :: t := by
  have hne : characters (c :: s) ≠ [] := List.splitBy_ne_nil.2 (List.cons_ne_nil _ _)
  obtain ⟨x, xs, hx⟩ := List.exists_cons_of_ne_nil hne
  obtain ⟨t, rfl⟩ : ∃ t, x = c :: t := by
    have hxne : x ≠ [] := List.ne_nil_of_mem_splitBy (hx ▸ List.mem_cons_self)
    have hhead := List.head_head_splitBy (fun _ c => isContinuation c) (List.cons_ne_nil c s)
    obtain ⟨d, t, rfl⟩ := List.exists_cons_of_ne_nil hxne
    simp only [characters] at hx
    simp only [hx, List.head_cons] at hhead
    exact ⟨t, by rw [hhead]⟩
  have hblack : whiteSpace.contains (c :: t) = false := by
    rw [Bool.eq_false_iff]
    intro hmem
    exact hc _ (List.contains_iff_mem.1 hmem) rfl
  obtain ⟨ys, hys⟩ := rdropWhile_cons hblack xs
  have hnot : ¬whiteSpace.contains (c :: t) = true := by rw [hblack]; exact Bool.false_ne_true
  rw [trim, hx, List.dropWhile_cons_of_neg hnot, hys]
  exact ⟨t ++ ys.flatten, rfl⟩

end Trim

end Browser
