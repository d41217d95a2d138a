import Mathlib.Algebra.Ring.Int.Defs
import Mathlib.Algebra.Ring.Nat
import Mathlib.Data.List.Basic
import Mathlib.Data.List.Infix
import Mathlib.Data.List.TakeWhile
import Mathlib.Tactic.Common
import Mathlib.Tactic.Ring

/-!
# Byte strings, C++ style

`std::string` as a list of bytes, with the part of its interface that a line-oriented text
format needs: searching, cutting, splitting at newlines, printing integers in decimal and reading
them back with `stoi`, `stoll` and `stoul`. The readers skip leading blanks, accept a sign and
ignore whatever follows the digits (`Numeral`, `readInt_eq_some_iff`); `stoll_intToDec`,
`stoul_natToDec` and `stoi_natToDec` are the round trips.
-/

namespace Cxx

abbrev Bytes := List UInt8

def lit (s : String) : Bytes := s.toList.map fun c => UInt8.ofNat c.toNat

/-- What a C++ function can throw, with its `what()`. -/
inductive Exn
  | invalidArgument (what : Bytes)
  | outOfRange (what : Bytes)
  | lengthError (what : Bytes)
  | runtimeError (what : Bytes)
  | jsonError (what : Bytes)
  deriving DecidableEq, Repr

def Exn.what : Exn → Bytes
  | invalidArgument w | outOfRange w | lengthError w | runtimeError w | jsonError w => w

def newline : UInt8 := 10
def colon : UInt8 := 58

/-! ## Searching and cutting -/

section Find

/-- `s.find(c, pos)`, with `none` for `npos`. -/
def find (c : UInt8) (s : Bytes) (pos : Nat) : Option Nat :=
  ((s.drop pos).findIdx? (· == c)).map (· + pos)

/-- `pos + 1` in `size_t`: after `npos` it wraps around to 0. -/
def next : Option Nat → Nat
  | none => 0
  | some pos => pos + 1

/-- `s.find(text)`. -/
def findText (text s : Bytes) : Option Nat := s.tails.findIdx? (text.isPrefixOf ·)

/-- `s.substr(pos, len)`, for `pos ≤ s.size()`. -/
def substr (s : Bytes) (pos len : Nat) : Bytes := (s.drop pos).take len

def substrFrom (s : Bytes) (pos : Nat) : Bytes := s.drop pos

/-- `m - n` in `size_t`. -/
def sizeSub (m n : Nat) : Nat := (m + 2 ^ 64 - n) % 2 ^ 64

theorem sizeSub_of_le {m n : Nat} (h : n ≤ m) (hm : m < 2 ^ 64) : sizeSub m n = m - n := by
  unfold sizeSub
  omega

variable {c : UInt8} {a b s : Bytes}

theorem find_eq_none : find c s 0 = none ↔ c ∉ s := by
  simp only [find, List.drop_zero, Nat.add_zero, Option.map_id']
  rw [List.findIdx?_eq_none_iff]
  constructor
  · intro h hc
    simpa using h c hc
  · intro h x hx
    exact beq_false_of_ne fun e => h (e ▸ hx)

theorem find_append_cons (h : c ∉ a) (b : Bytes) : find c (a ++ c :: b) 0 = some a.length := by
  have ha : a.findIdx? (· == c) = none :=
    List.findIdx?_eq_none_iff.2 fun x hx => beq_false_of_ne fun e => h (e ▸ hx)
  simp [find, List.findIdx?_append, ha, List.findIdx?_cons]

theorem find_append_length (a b : Bytes) :
    find c (a ++ b) a.length = (find c b 0).map (· + a.length) := by
  simp [find]

/-- A found character splits the string at its first occurrence. -/
theorem find_eq_some {i : Nat} (h : find c s 0 = some i) :
    ∃ a b, s = a ++ c :: b ∧ c ∉ a ∧ a.length = i := by
  simp only [find, List.drop_zero, Nat.add_zero, Option.map_id'] at h
  obtain ⟨hi, hc, hlt⟩ := List.findIdx?_eq_some_iff_getElem.1 h
  have hci : s[i] = c := by simpa using hc
  refine ⟨s.take i, s.drop (i + 1), ?_, fun hmem => ?_, by simp [Nat.le_of_lt hi]⟩
  · rw [← hci, ← List.drop_eq_getElem_cons hi, List.take_append_drop]
  · obtain ⟨j, hj, hjc⟩ := List.mem_iff_getElem.1 hmem
    rw [List.length_take] at hj
    have hne := hlt j (by omega)
    rw [List.getElem_take] at hjc
    exact hne (by simp [hjc])

section FindText

variable {text text' s : Bytes} {i j : Nat}

/-- The first place at which the text begins. -/
theorem findText_eq_some_iff : findText text s = some i ↔
    i ≤ s.length ∧ text <+: s.drop i ∧ ∀ j < i, ¬text <+: s.drop j := by
  unfold findText
  rw [List.findIdx?_eq_some_iff_getElem]
  simp only [List.getElem_tails, List.isPrefixOf_iff_prefix, List.length_tails]
  constructor
  · rintro ⟨hi, htext, hfirst⟩
    exact ⟨Nat.lt_succ_iff.1 hi, htext, hfirst⟩
  · rintro ⟨hi, htext, hfirst⟩
    exact ⟨Nat.lt_succ_iff.2 hi, htext, hfirst⟩

/-- A found text splits the string. -/
theorem findText_eq_some (h : findText text s = some i) :
    ∃ a b, s = a ++ (text ++ b) ∧ a.length = i := by
  obtain ⟨hi, ⟨b, hb⟩, -⟩ := findText_eq_some_iff.1 h
  refine ⟨s.take i, b, ?_, List.length_take_of_le hi⟩
  rw [hb, List.take_append_drop]

theorem findText_of_start (h : text <+: s) : findText text s = some 0 :=
  findText_eq_some_iff.2 ⟨Nat.zero_le _, h, fun _ hj => absurd hj (Nat.not_lt_zero _)⟩

/-- A text cannot begin inside of another one that does not hold its first byte. -/
theorem prefix_drop_disjoint {c : UInt8} (hi : text <+: s.drop i) (hj : c :: text' <+: s.drop j)
    (hc : c ∉ text) (hij : i ≤ j) : i + text.length ≤ j := by
  by_contra hlt
  have hk : j - i < text.length := by omega
  have hat : s[j]? = some c := by
    obtain ⟨b, hb⟩ := hj
    have hhead := congrArg (·[0]?) hb
    simpa using hhead.symm
  have hin : s[j]? = some text[j - i] := by
    obtain ⟨b, hb⟩ := hi
    have hget := congrArg (·[j - i]?) hb
    simp only [List.getElem?_append_left hk, List.getElem?_eq_getElem hk, List.getElem?_drop,
      Nat.add_sub_cancel' hij] at hget
    exact hget.symm
  have heq : text[j - i] = c := Option.some.inj (hin.symm.trans hat)
  exact hc (heq ▸ List.getElem_mem hk)

end FindText

end Find

/-! ## Lines -/

section Lines

/-- The first line of a text and what follows its newline, if it has one. -/
def splitLine (s : Bytes) : Bytes × Option Bytes :=
  (s.takeWhile (· != newline), (s.dropWhile (· != newline)).tail?)

theorem splitLine_cons_newline {l : Bytes} (h : newline ∉ l) (r : Bytes) :
    splitLine (l ++ newline :: r) = (l, some r) := by
  have hl : ∀ x ∈ l, (x != newline) = true := fun x hx => bne_iff_ne.2 fun e => h (e ▸ hx)
  simp [splitLine, List.takeWhile_append_of_pos hl, List.dropWhile_append_of_pos hl]

theorem splitLine_of_not_mem {l : Bytes} (h : newline ∉ l) : splitLine l = (l, none) := by
  have hl : ∀ x ∈ l, (x != newline) = true := fun x hx => bne_iff_ne.2 fun e => h (e ▸ hx)
  have ht : l.takeWhile (· != newline) = l := List.takeWhile_eq_self_iff.2 hl
  have hd : l.dropWhile (· != newline) = [] := List.dropWhile_eq_nil_iff.2 hl
  simp [splitLine, ht, hd]

theorem line_cases (s : Bytes) :
    (newline ∉ s) ∨ ∃ l r, newline ∉ l ∧ s = l ++ newline :: r := by
  by_cases h : newline ∈ s
  · obtain ⟨i, hi⟩ : ∃ i, find newline s 0 = some i := by
      cases hf : find newline s 0 with
      | none => exact absurd h (find_eq_none.1 hf)
      | some i => exact ⟨i, rfl⟩
    obtain ⟨l, r, rfl, hl, -⟩ := find_eq_some hi
    exact Or.inr ⟨l, r, hl, rfl⟩
  · exact Or.inl h

/-- The lines that `getline` reads from a text. A newline at the end begins no line. -/
def linesOf (s : Bytes) : List Bytes :=
  let pieces := s.splitOn newline
  if pieces.getLast? = some [] then pieces.dropLast else pieces

theorem linesOf_of_not_mem {l : Bytes} (h : newline ∉ l) :
    linesOf l = if l = [] then [] else [l] := by
  have hpieces : l.splitOn newline = [l] := List.splitOn_eq_singleton h
  unfold linesOf
  simp only [hpieces, List.getLast?_singleton, List.dropLast_singleton, Option.some.injEq]

theorem linesOf_cons_newline {l : Bytes} (h : newline ∉ l) (r : Bytes) :
    linesOf (l ++ newline :: r) = l :: linesOf r := by
  have hpieces : (l ++ newline :: r).splitOn newline = l :: r.splitOn newline :=
    List.splitOn_append_cons_self_of_not_mem h r
  have hne : r.splitOn newline ≠ [] := List.splitOn_ne_nil newline r
  have hlast : (l :: r.splitOn newline).getLast? = (r.splitOn newline).getLast? := by
    rw [← List.singleton_append, List.getLast?_append_of_ne_nil _ hne]
  unfold linesOf
  simp only [hpieces, hlast, List.dropLast_cons_of_ne_nil hne]
  split <;> rfl

theorem infix_of_mem_linesOf {l s : Bytes} (h : l ∈ linesOf s) : l <:+: s := by
  induction hn : s.length using Nat.strong_induction_on generalizing s with
  | _ n ih =>
    rcases line_cases s with hs | ⟨m, r, hm, rfl⟩
    · rw [linesOf_of_not_mem hs] at h
      split at h
      · exact absurd h List.not_mem_nil
      · rw [List.mem_singleton.1 h]
    · rw [linesOf_cons_newline hm] at h
      rcases List.mem_cons.1 h with rfl | h
      · exact (List.prefix_append l _).isInfix
      · rw [List.length_append, List.length_cons] at hn
        have hr : l <:+: r := ih r.length (by omega) h rfl
        exact hr.trans ((List.suffix_cons newline r).trans (List.suffix_append m _)).isInfix

end Lines

/-! ## Decimal numbers

`natToDec` and `intToDec` are `operator<<` of unsigned and signed integers. -/

section Decimal

def natToDec (n : Nat) : Bytes := (Nat.toDigits 10 n).map fun c => UInt8.ofNat c.toNat

def intToDec : Int → Bytes
  | .ofNat n => natToDec n
  | .negSucc n => 45 :: natToDec (n + 1)

def isSpace (c : UInt8) : Bool := c == 32 || (9 ≤ c && c ≤ 13)

def isDigit (c : UInt8) : Bool := 48 ≤ c && c ≤ 57

def digitsValue (s : Bytes) : Nat := s.foldl (fun n c => 10 * n + (c.toNat - 48)) 0

def readDigits (s : Bytes) : Option Nat :=
  match s.takeWhile isDigit with
  | [] => none
  | ds => some (digitsValue ds)

/-- The integer `strtol` reads in base 10 before any range check: blanks, a sign, digits, and
anything after them. -/
def readInt (s : Bytes) : Option Int :=
  match s.dropWhile isSpace with
  | 45 :: s => (readDigits s).map fun n => -(n : Int)
  | 43 :: s => (readDigits s).map fun n => (n : Int)
  | s => (readDigits s).map fun n => (n : Int)

def INT_MIN : Int := -2 ^ 31
def INT_MAX : Int := 2 ^ 31 - 1
def LLONG_MIN : Int := -2 ^ 63
def LLONG_MAX : Int := 2 ^ 63 - 1
def ULONG_MAX : Int := 2 ^ 64 - 1

def stoi (s : Bytes) : Except Exn Int :=
  match readInt s with
  | none => .error (.invalidArgument (lit "stoi"))
  | some z => if INT_MIN ≤ z ∧ z ≤ INT_MAX then .ok z else .error (.outOfRange (lit "stoi"))

def stoll (s : Bytes) : Except Exn Int :=
  match readInt s with
  | none => .error (.invalidArgument (lit "stoll"))
  | some z => if LLONG_MIN ≤ z ∧ z ≤ LLONG_MAX then .ok z else .error (.outOfRange (lit "stoll"))

/-- `strtoul` negates in `unsigned long`: `-1` reads as `ULONG_MAX`. -/
def stoul (s : Bytes) : Except Exn Nat :=
  match readInt s with
  | none => .error (.invalidArgument (lit "stoul"))
  | some z =>
    if -ULONG_MAX ≤ z ∧ z ≤ ULONG_MAX then .ok (z % 2 ^ 64).toNat
    else .error (.outOfRange (lit "stoul"))

theorem toNat_of_isDigit {c : Char} (h : c.isDigit = true) : 48 ≤ c.toNat ∧ c.toNat ≤ 57 := by
  simp only [Char.isDigit, ge_iff_le, UInt32.le_iff_toNat_le, Bool.and_eq_true,
    decide_eq_true_eq] at h
  exact h

theorem natToDec_isDigit {n : Nat} {c : UInt8} (h : c ∈ natToDec n) : isDigit c = true := by
  obtain ⟨d, hd, rfl⟩ := List.mem_map.1 h
  obtain ⟨h1, h2⟩ := toNat_of_isDigit (Nat.isDigit_of_mem_toDigits (by decide) (by decide) hd)
  have hmod : d.toNat % 2 ^ 8 = d.toNat := Nat.mod_eq_of_lt (by omega)
  simp only [isDigit, Bool.and_eq_true, decide_eq_true_eq, UInt8.le_iff_toNat_le,
    UInt8.toNat_ofNat', hmod]
  exact ⟨h1, h2⟩

theorem natToDec_ne_nil (n : Nat) : natToDec n ≠ [] := by
  simp [natToDec, Nat.toDigits_ne_nil]

theorem digitsValue_natToDec (n : Nat) : digitsValue (natToDec n) = n := by
  have hfold : ∀ (l : List Char) (m : Nat), (∀ c ∈ l, c.isDigit = true) →
      (l.map fun c => UInt8.ofNat c.toNat).foldl (fun n c => 10 * n + (c.toNat - 48)) m =
        Nat.ofDigitChars 10 l m := by
    intro l
    induction l with
    | nil => intro m _; simp
    | cons c l ih =>
      intro m hl
      have h2 := (toNat_of_isDigit (hl c List.mem_cons_self)).2
      have hmod : c.toNat % 2 ^ 8 = c.toNat := Nat.mod_eq_of_lt (by omega)
      rw [List.map_cons, List.foldl_cons, ih _ fun d hd => hl d (List.mem_cons_of_mem _ hd),
        Nat.ofDigitChars_cons, UInt8.toNat_ofNat', hmod]
      rfl
  rw [digitsValue, natToDec,
    hfold _ 0 fun c hc => Nat.isDigit_of_mem_toDigits (by decide) (by decide) hc,
    Nat.ofDigitChars_ten_toDigits]

theorem isSpace_of_isDigit {c : UInt8} (h : isDigit c = true) : isSpace c = false := by
  simp only [isDigit, isSpace, Bool.and_eq_true, decide_eq_true_eq, UInt8.le_iff_toNat_le,
    Bool.or_eq_false_iff, beq_eq_false_iff_ne, Bool.and_eq_false_iff, decide_eq_false_iff_not,
    ne_eq, ← UInt8.toNat_inj] at h ⊢
  have h48 : (48 : UInt8).toNat = 48 := rfl
  have h32 : (32 : UInt8).toNat = 32 := rfl
  have h13 : (13 : UInt8).toNat = 13 := rfl
  omega

theorem isDigit_ne {c d : UInt8} (h : isDigit c = true) (hd : isDigit d = false) : c ≠ d :=
  fun e => by rw [e, hd] at h; cases h

section Digits

variable {s : Bytes}

theorem readDigits_digits (hne : s ≠ []) (hs : ∀ c ∈ s, isDigit c = true) :
    readDigits s = some (digitsValue s) := by
  unfold readDigits
  rw [List.takeWhile_eq_self_iff.2 hs]
  cases s with
  | nil => exact absurd rfl hne
  | cons c s => rfl

/-- A digit string reads as its value. -/
theorem readInt_digits (hne : s ≠ []) (hs : ∀ c ∈ s, isDigit c = true) :
    readInt s = some (digitsValue s : Int) := by
  obtain ⟨c, r, rfl⟩ := List.exists_cons_of_ne_nil hne
  have hc := hs c List.mem_cons_self
  have hdrop : (c :: r).dropWhile isSpace = c :: r :=
    List.dropWhile_cons_of_neg (by rw [isSpace_of_isDigit hc]; decide)
  have h45 : c ≠ 45 := isDigit_ne hc (by decide)
  have h43 : c ≠ 43 := isDigit_ne hc (by decide)
  unfold readInt
  rw [hdrop]
  split
  · next heq => exact absurd (List.cons.inj heq).1 h45
  · next heq => exact absurd (List.cons.inj heq).1 h43
  · rw [readDigits_digits hne hs]; rfl

theorem foldl_digits (s : Bytes) (m : Nat) :
    s.foldl (fun n c => 10 * n + (c.toNat - 48)) m = m * 10 ^ s.length + digitsValue s := by
  induction s generalizing m with
  | nil => simp [digitsValue]
  | cons c s ih =>
    have hc : digitsValue (c :: s) = (c.toNat - 48) * 10 ^ s.length + digitsValue s := by
      rw [digitsValue, List.foldl_cons, ih, Nat.mul_zero, Nat.zero_add]
    rw [List.foldl_cons, ih, hc, List.length_cons, Nat.pow_succ]
    ring

theorem digitsValue_append (a b : Bytes) :
    digitsValue (a ++ b) = digitsValue a * 10 ^ b.length + digitsValue b := by
  rw [digitsValue, List.foldl_append, foldl_digits]
  rfl

end Digits

theorem readDigits_natToDec (n : Nat) : readDigits (natToDec n) = some n := by
  rw [readDigits_digits (natToDec_ne_nil n) fun _ hc => natToDec_isDigit hc, digitsValue_natToDec]

theorem readInt_natToDec (n : Nat) : readInt (natToDec n) = some (n : Int) := by
  rw [readInt_digits (natToDec_ne_nil n) fun _ hc => natToDec_isDigit hc, digitsValue_natToDec]

/-- The first digits of a number are a smaller number. -/
theorem digitsValue_lt_of_append {n : Nat} {a b : Bytes} (h : natToDec n = a ++ b) (ha : a ≠ [])
    (hb : b ≠ []) : digitsValue a < n := by
  have hn : digitsValue a * 10 ^ b.length + digitsValue b = n := by
    rw [← digitsValue_append, ← h, digitsValue_natToDec]
  have hten : 10 ≤ 10 ^ b.length := Nat.le_self_pow (List.length_pos_iff.2 hb).ne' 10
  by_contra hle
  have hzero : n = 0 := by
    by_contra hpos
    have hmul : digitsValue a * 10 ≤ digitsValue a * 10 ^ b.length := Nat.mul_le_mul_left _ hten
    omega
  rw [hzero] at h
  have hlen : a.length + b.length = 1 := by rw [← List.length_append, ← h]; rfl
  have ha' := List.length_pos_iff.2 ha
  have hb' := List.length_pos_iff.2 hb
  omega

theorem readInt_intToDec : ∀ z : Int, readInt (intToDec z) = some z
  | .ofNat n => readInt_natToDec n
  | .negSucc n => by
    have hdrop : (45 :: natToDec (n + 1)).dropWhile isSpace = 45 :: natToDec (n + 1) :=
      List.dropWhile_cons_of_neg (by decide)
    simp only [readInt, intToDec, hdrop, readDigits_natToDec]
    rfl

/-- `stoll` reads back what `<<` printed. -/
theorem stoll_intToDec {z : Int} (hmin : LLONG_MIN ≤ z) (hmax : z ≤ LLONG_MAX) :
    stoll (intToDec z) = .ok z := by
  simp [stoll, readInt_intToDec, hmin, hmax]

theorem stoul_natToDec {n : Nat} (h : n < 2 ^ 64) : stoul (natToDec n) = .ok n := by
  have hmin : -ULONG_MAX ≤ (n : Int) := by simp only [ULONG_MAX]; omega
  have hmax : (n : Int) ≤ ULONG_MAX := by simp only [ULONG_MAX]; omega
  have hmod : ((n : Int) % 2 ^ 64).toNat = n := by omega
  simp only [stoul, readInt_natToDec, hmin, hmax, and_self, ↓reduceIte, hmod]

theorem stoi_natToDec {n : Nat} (h : (n : Int) ≤ INT_MAX) : stoi (natToDec n) = .ok (n : Int) := by
  have hmin : INT_MIN ≤ (n : Int) := by
    simp only [INT_MIN]
    omega
  simp only [stoi, readInt_natToDec, hmin, h, and_self, ↓reduceIte]

theorem not_mem_natToDec {c : UInt8} (hc : isDigit c = false) (n : Nat) : c ∉ natToDec n :=
  fun h => isDigit_ne (natToDec_isDigit h) hc rfl

theorem not_mem_intToDec {c : UInt8} (hc : isDigit c = false) (hminus : c ≠ 45) :
    ∀ z : Int, c ∉ intToDec z
  | .ofNat n => not_mem_natToDec hc n
  | .negSucc n => fun h => (List.mem_cons.1 h).elim hminus (not_mem_natToDec hc (n + 1))

/-! ### The texts a number is read from -/

/-- What a sign in front of the digits of `n` makes of it. -/
inductive Signed : Bytes → Nat → Int → Prop
  | plain (n : Nat) : Signed [] n n
  | plus (n : Nat) : Signed [43] n n
  | minus (n : Nat) : Signed [45] n (-n)

/-- Blanks, a sign, the digits as far as they go, and anything after them. -/
inductive Numeral (s : Bytes) (z : Int) : Prop
  | intro (blanks sign digits rest : Bytes) (text : s = blanks ++ (sign ++ (digits ++ rest)))
      (blanks_space : ∀ c ∈ blanks, isSpace c = true) (digits_ne : digits ≠ [])
      (digits_digit : ∀ c ∈ digits, isDigit c = true) (ends : ∀ c ∈ rest.head?, isDigit c = false)
      (value : Signed sign (digitsValue digits) z)

section Numeral

variable {s : Bytes} {z : Int}

theorem head_dropWhile_eq_false {p : UInt8 → Bool} {s : Bytes} :
    ∀ c ∈ (s.dropWhile p).head?, p c = false := by
  intro c hc
  have hnot := List.head?_dropWhile_not p s
  rw [hc] at hnot
  exact hnot

theorem readDigits_eq_some {n : Nat} (h : readDigits s = some n) :
    ∃ digits rest, s = digits ++ rest ∧ digits ≠ [] ∧ (∀ c ∈ digits, isDigit c = true) ∧
      (∀ c ∈ rest.head?, isDigit c = false) ∧ n = digitsValue digits := by
  refine ⟨s.takeWhile isDigit, s.dropWhile isDigit, List.takeWhile_append_dropWhile.symm, ?_,
    fun c hc => List.mem_takeWhile_imp hc, head_dropWhile_eq_false, ?_⟩
  · intro hnil
    rw [readDigits, hnil] at h
    cases h
  · unfold readDigits at h
    split at h
    · cases h
    · exact (Option.some.inj h).symm

theorem takeWhile_digits {digits rest : Bytes} (hd : ∀ c ∈ digits, isDigit c = true)
    (hr : ∀ c ∈ rest.head?, isDigit c = false) :
    (digits ++ rest).takeWhile isDigit = digits := by
  rw [List.takeWhile_append_of_pos hd]
  cases rest with
  | nil => rw [List.takeWhile_nil, List.append_nil]
  | cons c r => rw [List.takeWhile_cons_of_neg (by rw [hr c rfl]; decide), List.append_nil]

theorem readDigits_append {digits rest : Bytes} (hne : digits ≠ [])
    (hd : ∀ c ∈ digits, isDigit c = true) (hr : ∀ c ∈ rest.head?, isDigit c = false) :
    readDigits (digits ++ rest) = some (digitsValue digits) := by
  unfold readDigits
  rw [takeWhile_digits hd hr]
  cases digits with
  | nil => exact absurd rfl hne
  | cons c ds => rfl

theorem dropWhile_blanks {blanks t : Bytes} (hb : ∀ c ∈ blanks, isSpace c = true)
    (ht : ∀ c ∈ t.head?, isSpace c = false) : (blanks ++ t).dropWhile isSpace = t := by
  rw [List.dropWhile_append_of_pos hb]
  cases t with
  | nil => rfl
  | cons c r => rw [List.dropWhile_cons_of_neg (by rw [ht c rfl]; decide)]

/-- **What a number is read from**, before any range check. -/
theorem readInt_eq_some_iff : readInt s = some z ↔ Numeral s z := by
  constructor
  · intro h
    -- the three branches differ in the sign that has been taken off
    have build : ∀ (sign t : Bytes) (f : Nat → Int), s.dropWhile isSpace = sign ++ t →
        (∀ n, Signed sign n (f n)) → (readDigits t).map f = some z → Numeral s z := by
      intro sign t f hdrop hsign hread
      obtain ⟨n, hn, rfl⟩ := Option.map_eq_some_iff.1 hread
      obtain ⟨digits, rest, rfl, hne, hd, hr, rfl⟩ := readDigits_eq_some hn
      refine .intro (s.takeWhile isSpace) sign digits rest ?_ ?_ hne hd hr (hsign _)
      · rw [← hdrop, List.takeWhile_append_dropWhile]
      · exact fun c hc => List.mem_takeWhile_imp hc
    unfold readInt at h
    split at h
    · next t hdrop =>
      refine build [45] t _ hdrop .minus ?_
      rw [← h]
      cases readDigits t <;> rfl
    · next t hdrop =>
      refine build [43] t _ hdrop .plus ?_
      rw [← h]
      cases readDigits t <;> rfl
    · refine build [] _ _ rfl .plain ?_
      rw [← h]
      cases readDigits (s.dropWhile isSpace) <;> rfl
  · rintro ⟨blanks, sign, digits, rest, rfl, hb, hne, hd, hr, hsign⟩
    have hread := readDigits_append hne hd hr
    cases hsign with
    | plain =>
      obtain ⟨c, ds, rfl⟩ := List.exists_cons_of_ne_nil hne
      have hc := hd c List.mem_cons_self
      have h45 : c ≠ 45 := isDigit_ne hc (by decide)
      have h43 : c ≠ 43 := isDigit_ne hc (by decide)
      have hdrop := dropWhile_blanks (t := c :: (ds ++ rest)) hb (by
        rintro d ⟨⟩
        exact isSpace_of_isDigit hc)
      unfold readInt
      rw [List.nil_append, List.cons_append, hdrop]
      split
      · next heq => exact absurd (List.cons.inj heq).1 h45
      · next heq => exact absurd (List.cons.inj heq).1 h43
      · rw [← List.cons_append, hread]; rfl
    | plus =>
      have hdrop := dropWhile_blanks (t := 43 :: (digits ++ rest)) hb (by rintro d ⟨⟩; decide)
      simp only [readInt, List.singleton_append, hdrop, hread]
      rfl
    | minus =>
      have hdrop := dropWhile_blanks (t := 45 :: (digits ++ rest)) hb (by rintro d ⟨⟩; decide)
      simp only [readInt, List.singleton_append, hdrop, hread]
      rfl

theorem stoi_eq_ok_iff : stoi s = .ok z ↔ Numeral s z ∧ INT_MIN ≤ z ∧ z ≤ INT_MAX := by
  rw [← readInt_eq_some_iff]
  unfold stoi
  cases readInt s with
  | none => exact iff_of_false nofun fun h => nomatch h.1
  | some n =>
    simp only [Option.some.injEq]
    split
    · next hn => exact ⟨fun h => ⟨Except.ok.inj h, Except.ok.inj h ▸ hn⟩, fun h => congrArg _ h.1⟩
    · next hn => exact iff_of_false nofun fun h => hn (h.1.symm ▸ h.2)

end Numeral

end Decimal

end Cxx
