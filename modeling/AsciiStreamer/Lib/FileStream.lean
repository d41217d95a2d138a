import AsciiStreamer.Lib.Text

/-!
# Input file streams

`std::ifstream` over a file whose bytes do not change while it is open: the file, the part not
read yet, and the state bits. A read past the end sets `eofbit`, one that delivers too little sets
`failbit`, every extraction on a stream that is not good sets `failbit` and does nothing else, and
`seekg` (`seekBeg`, `seekEnd`) clears `eofbit` but moves only a stream that has not failed. `open` on a stream that is
open already fails and leaves it open on its old file.
-/

namespace Cxx

structure IFStream where
  data : Bytes := []
  rest : Bytes := []
  isOpen : Bool := false
  eof : Bool := false
  fail : Bool := false
  deriving DecidableEq, Repr

namespace IFStream

def good (f : IFStream) : Bool := !f.eof && !f.fail

/-- `f.open(name)`, where `content` is what the name denotes, `none` if it cannot be opened. -/
def open' (f : IFStream) (content : Option Bytes) : IFStream :=
  if f.isOpen then { f with fail := true }
  else match content with
    | none => { f with fail := true }
    | some d => { data := d, rest := d, isOpen := true }

/-- `f.close()`: the state bits stay. -/
def close (f : IFStream) : IFStream :=
  if f.isOpen then { f with isOpen := false, rest := [] } else { f with fail := true }

/-- `std::getline(f, str)`: the stream and the string it leaves. -/
def getline (f : IFStream) (str : Bytes) : IFStream × Bytes :=
  if f.good then
    match splitLine f.rest with
    | (l, some r) => ({ f with rest := r }, l)
    | (l, none) => ({ f with rest := [], eof := true, fail := l.isEmpty }, l)
  else ({ f with fail := true }, str)

/-- `f.read(&buf[0], n)` into a buffer of `n` zero bytes. -/
def read (f : IFStream) (n : Nat) : IFStream × Bytes :=
  if f.good then
    if n ≤ f.rest.length then ({ f with rest := f.rest.drop n }, f.rest.take n)
    else ({ f with rest := [], eof := true, fail := true },
      f.rest ++ List.replicate (n - f.rest.length) 0)
  else ({ f with fail := true }, List.replicate n 0)

def ignore1 (f : IFStream) : IFStream :=
  if f.good then
    match f.rest with
    | [] => { f with eof := true }
    | _ :: r => { f with rest := r }
  else { f with fail := true }

def seekBeg (f : IFStream) : IFStream :=
  if f.fail then { f with eof := false } else { f with eof := false, rest := f.data }

def seekEnd (f : IFStream) : IFStream :=
  if f.fail then { f with eof := false } else { f with eof := false, rest := [] }

def tellg (f : IFStream) : Int :=
  if f.fail then -1 else f.data.length - f.rest.length

/-- `while (getline(f, line) && line != stop)`, with a body that can throw. Every round but the
last takes a byte off the file, so the bytes that are left bound the rounds. -/
def scanLines {α : Type} (stop : Bytes) (body : α → Bytes → Except Exn α) :
    Nat → IFStream → Bytes → α → Except Exn α
  | 0, _, _, a => .ok a
  | fuel + 1, f, line, a =>
    let (f, line) := f.getline line
    if f.fail || line == stop then .ok a
    else match body a line with
      | .error e => .error e
      | .ok a => scanLines stop body fuel f line a

section Lemmas

variable {f : IFStream} {l r : Bytes}

theorem good_iff : f.good = true ↔ f.eof = false ∧ f.fail = false := by
  simp [good]

theorem getline_line (hg : f.good = true) (hr : f.rest = l ++ newline :: r) (hl : newline ∉ l)
    (str : Bytes) : f.getline str = ({ f with rest := r }, l) := by
  simp only [getline, hg, ↓reduceIte, hr, splitLine_cons_newline hl]

theorem getline_last (hg : f.good = true) (hr : newline ∉ f.rest) (str : Bytes) :
    f.getline str =
      ({ f with rest := [], eof := true, fail := f.rest.isEmpty }, f.rest) := by
  simp only [getline, hg, ↓reduceIte, splitLine_of_not_mem hr]

theorem getline_of_not_good (hg : f.good = false) (str : Bytes) :
    f.getline str = ({ f with fail := true }, str) := by
  simp only [getline, hg, Bool.false_eq_true, ↓reduceIte]

theorem read_enough (hg : f.good = true) {p : Bytes} (hr : f.rest = p ++ r) :
    f.read p.length = ({ f with rest := r }, p) := by
  have hle : p.length ≤ f.rest.length := by rw [hr, List.length_append]; omega
  simp only [read, hg, ↓reduceIte, hle]
  rw [hr, List.drop_left, List.take_left]

theorem read_short (hg : f.good = true) {n : Nat} (hn : f.rest.length < n) :
    f.read n = ({ f with rest := [], eof := true, fail := true },
      f.rest ++ List.replicate (n - f.rest.length) 0) := by
  simp only [read, hg, ↓reduceIte, Nat.not_le.2 hn]

theorem read_of_not_good (hg : f.good = false) (n : Nat) :
    f.read n = ({ f with fail := true }, List.replicate n 0) := by
  simp only [read, hg, Bool.false_eq_true, ↓reduceIte]

theorem ignore1_cons (hg : f.good = true) {c : UInt8} (hr : f.rest = c :: r) :
    f.ignore1 = { f with rest := r } := by
  simp only [ignore1, hg, ↓reduceIte, hr]

theorem ignore1_nil (hg : f.good = true) (hr : f.rest = []) :
    f.ignore1 = { f with eof := true } := by
  simp only [ignore1, hg, ↓reduceIte, hr]

theorem ignore1_fail (hf : f.fail = true) : f.ignore1.fail = true := by
  have hg : f.good = false := by simp [good, hf]
  simp only [ignore1, hg, Bool.false_eq_true, ↓reduceIte]

section Scan

variable {α : Type} {stop : Bytes} {body : α → Bytes → Except Exn α} {a a' : α}

theorem scanLines_line (hg : f.good = true) (hr : f.rest = l ++ newline :: r) (hl : newline ∉ l)
    (hne : l ≠ stop) (hbody : body a l = .ok a') (fuel : Nat) (line : Bytes) :
    scanLines stop body (fuel + 1) f line a = scanLines stop body fuel { f with rest := r } l a' := by
  have hstop : (f.fail || l == stop) = false := by
    simp [(good_iff.1 hg).2, hne]
  simp only [scanLines, getline_line hg hr hl, hstop, Bool.false_eq_true, ↓reduceIte, hbody]

theorem scanLines_stop (hg : f.good = true) (hr : f.rest = stop ++ newline :: r)
    (hl : newline ∉ stop) (fuel : Nat) (line : Bytes) :
    scanLines stop body (fuel + 1) f line a = .ok a := by
  simp only [scanLines, getline_line hg hr hl, BEq.rfl, Bool.or_true, ↓reduceIte]

theorem scanLines_of_not_good (hg : f.good = false) (fuel : Nat) (line : Bytes) :
    scanLines stop body fuel f line a = .ok a := by
  cases fuel with
  | zero => rfl
  | succ fuel => simp only [scanLines, getline_of_not_good hg, Bool.true_or, ↓reduceIte]

/-- **What the loop computes**: it goes through the lines of the file up to `stop`. -/
theorem scanLines_eq (fuel : Nat) {f : IFStream} (hg : f.good = true) (hfuel : f.rest.length < fuel)
    (line : Bytes) : scanLines stop body fuel f line a =
      ((linesOf f.rest).takeWhile (· != stop)).foldlM body a := by
  induction fuel generalizing f line a with
  | zero => exact absurd hfuel (Nat.not_lt_zero _)
  | succ fuel ih =>
    rcases line_cases f.rest with hl | ⟨l, r, hl, hr⟩
    · rw [linesOf_of_not_mem hl, scanLines, getline_last hg hl]
      by_cases hnil : f.rest = []
      · simp only [hnil, List.isEmpty_nil, Bool.true_or, ↓reduceIte, List.takeWhile_nil,
          List.foldlM_nil]
        rfl
      · rw [if_neg hnil]
        by_cases hstop : f.rest = stop
        · rw [List.takeWhile_cons_of_neg (by simp [hstop])]
          simp only [hstop, BEq.rfl, Bool.or_true, ↓reduceIte]
          rfl
        · rw [List.takeWhile_cons_of_pos (by simpa using hstop), List.foldlM_cons]
          have hnone : (f.rest.isEmpty || f.rest == stop) = false := by simp [hnil, hstop]
          simp only [hnone, Bool.false_eq_true, ↓reduceIte]
          cases body a f.rest with
          | error e => rfl
          | ok b => exact scanLines_of_not_good (by simp [good]) fuel f.rest
    · rw [hr, linesOf_cons_newline hl]
      by_cases hstop : l = stop
      · subst hstop
        rw [scanLines_stop hg hr hl, List.takeWhile_cons_of_neg (by simp)]
        rfl
      · rw [List.takeWhile_cons_of_pos (by simpa using hstop), List.foldlM_cons]
        cases hbody : body a l with
        | error e =>
          have hbeq : (f.fail || l == stop) = false := by
            simp [(good_iff.1 hg).2, hstop]
          simp only [scanLines, getline_line hg hr hl, hbeq, Bool.false_eq_true, ↓reduceIte, hbody]
          rfl
        | ok b =>
          rw [hr, List.length_append, List.length_cons] at hfuel
          rw [scanLines_line hg hr hl hstop hbody]
          exact ih (by exact hg) (by simp only; omega) l

end Scan

@[simp] theorem getline_isOpen (str : Bytes) : (f.getline str).1.isOpen = f.isOpen := by
  unfold getline; split
  · split <;> rfl
  · rfl

@[simp] theorem getline_data (str : Bytes) : (f.getline str).1.data = f.data := by
  unfold getline; split
  · split <;> rfl
  · rfl

@[simp] theorem read_data (n : Nat) : (f.read n).1.data = f.data := by
  unfold read; split
  · split <;> rfl
  · rfl

@[simp] theorem ignore1_data : f.ignore1.data = f.data := by
  unfold ignore1; split
  · split <;> rfl
  · rfl

/-! ## The place in the file -/

section Position

/-- What has not been read yet is the end of the file. -/
def Positioned (f : IFStream) : Prop := f.rest <:+ f.data

/-- `f'` is `f` after calls that stay on its file. -/
structure OnSameFile (f f' : IFStream) : Prop where
  data : f'.data = f.data
  positioned : f.Positioned → f'.Positioned

theorem OnSameFile.refl (f : IFStream) : OnSameFile f f := ⟨rfl, id⟩

theorem OnSameFile.trans {f f' f'' : IFStream} (h : OnSameFile f f') (h' : OnSameFile f' f'') :
    OnSameFile f f'' := ⟨h'.data.trans h.data, fun hf => h'.positioned (h.positioned hf)⟩

/-- A call that reads on. -/
theorem OnSameFile.of_suffix {f f' : IFStream} (hdata : f'.data = f.data)
    (hrest : f'.rest <:+ f.rest) : OnSameFile f f' := by
  refine ⟨hdata, fun hf => ?_⟩
  unfold Positioned at hf ⊢
  rw [hdata]
  exact hrest.trans hf

theorem open_positioned (h : f.isOpen = false) (d : Bytes) :
    (f.open' (some d)).Positioned ∧ (f.open' (some d)).data = d := by
  simp only [open', h, Bool.false_eq_true, ↓reduceIte]
  exact ⟨List.suffix_refl d, trivial⟩

theorem onSameFile_getline (str : Bytes) : OnSameFile f (f.getline str).1 := by
  refine .of_suffix (getline_data str) ?_
  unfold getline
  split
  · rcases line_cases f.rest with hl | ⟨l, r, hl, hr⟩
    · rw [splitLine_of_not_mem hl]
      exact List.nil_suffix
    · rw [hr, splitLine_cons_newline hl]
      exact (List.suffix_cons newline r).trans (List.suffix_append l _)
  · exact List.suffix_refl _

theorem onSameFile_read (n : Nat) : OnSameFile f (f.read n).1 := by
  refine .of_suffix (read_data n) ?_
  unfold read
  split
  · split
    · exact List.drop_suffix n f.rest
    · exact List.nil_suffix
  · exact List.suffix_refl _

theorem onSameFile_ignore1 : OnSameFile f f.ignore1 := by
  refine .of_suffix ignore1_data ?_
  unfold ignore1
  split
  · split
    · exact List.suffix_refl _
    · next c r hr =>
      rw [hr]
      exact List.suffix_cons c r
  · exact List.suffix_refl _

theorem onSameFile_close : OnSameFile f f.close := by
  unfold close
  split
  · exact .of_suffix rfl List.nil_suffix
  · exact .of_suffix rfl (List.suffix_refl _)

theorem onSameFile_seekEnd : OnSameFile f f.seekEnd := by
  unfold seekEnd
  split
  · exact .of_suffix rfl (List.suffix_refl _)
  · exact .of_suffix rfl List.nil_suffix

theorem onSameFile_seekBeg : OnSameFile f f.seekBeg := by
  unfold seekBeg
  split
  · exact .of_suffix rfl (List.suffix_refl _)
  · exact ⟨rfl, fun _ => List.suffix_refl f.data⟩

/-- The bytes stand in the text, filled up with zeros where the text ends. -/
def Piece (text bytes : Bytes) : Prop := ∃ before piece after k,
  text = before ++ piece ++ after ∧ bytes = piece ++ List.replicate k 0 ∧ (k = 0 ∨ after = [])

/-- What `read` delivers is in the file. -/
theorem read_piece (h : f.Positioned) (n : Nat) : Piece f.data (f.read n).2 := by
  obtain ⟨before, hdata⟩ := h
  unfold read
  split
  · split
    · refine ⟨before, f.rest.take n, f.rest.drop n, 0, ?_, (List.append_nil _).symm, Or.inl rfl⟩
      rw [List.append_assoc, List.take_append_drop]
      exact hdata.symm
    · refine ⟨before, f.rest, [], n - f.rest.length, ?_, rfl, Or.inr rfl⟩
      rw [List.append_nil]
      exact hdata.symm
  · refine ⟨f.data, [], [], n, ?_, rfl, Or.inr rfl⟩
    rw [List.append_nil, List.append_nil]

end Position

end Lemmas

end IFStream

end Cxx
