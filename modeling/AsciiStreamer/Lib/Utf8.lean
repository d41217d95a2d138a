import AsciiStreamer.Lib.Text

/-!
# UTF-8

A decoder that takes one byte at a time. It remembers what the current character still owes: the
ranges in which its next bytes must lie. A text is UTF-8 if the decoder accepts every byte and
owes nothing at the end.
-/

namespace Cxx

namespace Utf8

abbrev Owed := List (UInt8 × UInt8)

/-- Any continuation byte. -/
def tail : UInt8 × UInt8 := (0x80, 0xBF)

/-- What the first byte of a character leaves owing: shortest forms only, no surrogates, nothing
above U+10FFFF. -/
def first (b : UInt8) : Option Owed :=
  if b < 0x80 then some []
  else if b < 0xC2 then none
  else if b < 0xE0 then some [tail]
  else if b = 0xE0 then some [(0xA0, 0xBF), tail]
  else if b = 0xED then some [(0x80, 0x9F), tail]
  else if b < 0xF0 then some [tail, tail]
  else if b = 0xF0 then some [(0x90, 0xBF), tail, tail]
  else if b < 0xF4 then some [tail, tail, tail]
  else if b = 0xF4 then some [(0x80, 0x8F), tail, tail]
  else none

def next : Owed → UInt8 → Option Owed
  | [], b => first b
  | (lo, hi) :: owed, b => if lo ≤ b ∧ b ≤ hi then some owed else none

def decode (owed : Owed) (s : Bytes) : Option Owed := s.foldlM next owed

def Valid (s : Bytes) : Prop := decode [] s = some []

instance (s : Bytes) : Decidable (Valid s) := inferInstanceAs (Decidable (_ = _))

def Ascii (s : Bytes) : Prop := ∀ c ∈ s, c < 0x80

instance (s : Bytes) : Decidable (Ascii s) := List.decidableBAll _ s

section Decode

variable {owed : Owed} {a b : Bytes}

theorem decode_append (owed : Owed) (a b : Bytes) :
    decode owed (a ++ b) = (decode owed a).bind fun owed => decode owed b :=
  List.foldlM_append

/-- No byte of ASCII is a continuation byte. -/
def Continues (owed : Owed) : Prop := ∀ r ∈ owed, 0x80 ≤ r.1

instance (owed : Owed) : Decidable (Continues owed) := List.decidableBAll _ owed

theorem continues_first {c : UInt8} (h : first c = some owed) : Continues owed := by
  unfold first at h
  repeat' split at h
  all_goals cases h
  all_goals decide

theorem Continues.next {c : UInt8} {owed' : Owed} (h : Continues owed)
    (hn : next owed c = some owed') : Continues owed' := by
  cases owed with
  | nil => exact continues_first hn
  | cons r rest =>
    obtain ⟨-, hn⟩ := Option.ite_none_right_eq_some.1 hn
    cases hn
    exact fun x hx => h x (List.mem_cons_of_mem _ hx)

theorem Continues.decode {s : Bytes} {owed' : Owed} (h : Continues owed)
    (hd : decode owed s = some owed') : Continues owed' := by
  induction s generalizing owed with
  | nil => exact Option.some.inj hd ▸ h
  | cons c s ih =>
    obtain ⟨o, ho, hd⟩ := Option.bind_eq_some_iff.1 (List.foldlM_cons.symm.trans hd)
    exact ih (h.next ho) hd

/-- ASCII can only follow a complete character. -/
theorem decode_ascii (h : Continues owed) {c : UInt8} (hc : c < 0x80) (s : Bytes) :
    decode owed (c :: s) = if owed = [] then decode [] s else none := by
  unfold decode
  rw [List.foldlM_cons]
  cases owed with
  | nil => simp only [Utf8.next, first, hc, ↓reduceIte, Option.bind_eq_bind, Option.bind_some]
  | cons r rest =>
    have hr : ¬r.1 ≤ c := by
      have hle := h r List.mem_cons_self
      rw [UInt8.not_le]
      exact UInt8.lt_of_lt_of_le hc hle
    simp only [Utf8.next, hr, false_and, ↓reduceIte, Option.bind_eq_bind, Option.bind_none,
      reduceCtorEq]

theorem decode_of_ascii {s : Bytes} (h : Ascii s) : decode [] s = some [] := by
  induction s with
  | nil => rfl
  | cons c s ih =>
    rw [decode_ascii (List.forall_mem_nil _) (h c List.mem_cons_self), if_pos rfl]
    exact ih fun c hc => h c (List.mem_cons_of_mem _ hc)

/-- ASCII in front changes nothing. -/
theorem valid_ascii_append (ha : Ascii a) (b : Bytes) : Valid (a ++ b) ↔ Valid b := by
  unfold Valid
  rw [decode_append, decode_of_ascii ha, Option.bind_some]

/-- Nor does ASCII behind. -/
theorem valid_append_ascii (hb : Ascii b) (a : Bytes) : Valid (a ++ b) ↔ Valid a := by
  unfold Valid
  rw [decode_append]
  cases hd : decode [] a with
  | none => simp only [Option.bind_none, reduceCtorEq]
  | some owed =>
    have hcont : Continues owed := Continues.decode (List.forall_mem_nil _) hd
    rw [Option.bind_some]
    cases b with
    | nil => rfl
    | cons c b =>
      rw [decode_ascii hcont (hb c List.mem_cons_self),
        decode_of_ascii fun c hc => hb c (List.mem_cons_of_mem _ hc), ite_eq_left_iff,
        Option.some.injEq]
      constructor
      · intro h
        by_contra hne
        cases h hne
      · exact fun h hne => absurd h hne

theorem valid_of_ascii (h : Ascii a) : Valid a := decode_of_ascii h

end Decode

end Utf8

end Cxx
