import Mathlib.Data.List.Basic
import AsciiStreamer.Lib.Text

/-!
# Walking a directory tree

A walk is a list of steps from a directory: stay, go up, or go down to a name; at the root, going up
stays there. Every walk has a normal form, so many steps up and then down some names (`shorten`),
and ends where its normal form ends, whatever the directory it starts from (`walk_eq`). This
decides when a walk ends below the directory it started from (`below_walk_iff`). The second part
reads file names as walks.
-/

universe u

namespace Path

variable {α : Type u}

inductive Step (α : Type u)
  | stay
  | up
  | down (name : α)
  deriving DecidableEq, Repr

/-- A directory is the list of the names from the root to it. -/
def Step.from (dir : List α) : Step α → List α
  | stay => dir
  | up => dir.dropLast
  | down name => dir ++ [name]

def walk (dir : List α) (steps : List (Step α)) : List α := steps.foldl Step.from dir

@[simp] theorem walk_cons (dir : List α) (s : Step α) (steps : List (Step α)) :
    walk dir (s :: steps) = walk (s.from dir) steps := rfl

theorem walk_append (dir : List α) (steps steps' : List (Step α)) :
    walk dir (steps ++ steps') = walk (walk dir steps) steps' := List.foldl_append

/-! ## Normal forms -/

/-- First up `ups` times, then down the names. -/
structure Way (α : Type u) where
  ups : Nat := 0
  names : List α := []
  deriving DecidableEq, Repr

namespace Way

/-- One step more: a step up takes back the last name, if there is one. -/
def next (w : Way α) : Step α → Way α
  | .stay => w
  | .up => if w.names.isEmpty then { w with ups := w.ups + 1 }
    else { w with names := w.names.dropLast }
  | .down name => { w with names := w.names ++ [name] }

/-- Where the way leads from a directory. -/
def dest (w : Way α) (dir : List α) : List α := dir.take (dir.length - w.ups) ++ w.names

theorem dest_next (w : Way α) (s : Step α) (dir : List α) :
    (w.next s).dest dir = s.from (w.dest dir) := by
  cases s with
  | stay => rfl
  | down name => exact (List.append_assoc _ _ _).symm
  | up =>
    unfold next dest Step.from
    by_cases h : w.names = []
    · simp only [h, List.isEmpty_nil, ↓reduceIte, List.append_nil]
      rw [List.dropLast_eq_take, List.take_take, List.length_take]
      apply congrArg (dir.take ·)
      omega
    · simp only [List.isEmpty_iff, h, ↓reduceIte]
      rw [List.dropLast_append_of_ne_nil h]

end Way

def shorten (steps : List (Step α)) : Way α := steps.foldl Way.next {}

theorem foldl_next_dest (steps : List (Step α)) (w : Way α) (dir : List α) :
    (steps.foldl Way.next w).dest dir = walk (w.dest dir) steps := by
  induction steps generalizing w with
  | nil => rfl
  | cons s steps ih =>
    rw [List.foldl_cons, ih, Way.dest_next]
    rfl

/-- **A walk ends where its normal form ends.** -/
theorem walk_eq (dir : List α) (steps : List (Step α)) : walk dir steps = (shorten steps).dest dir := by
  have h := foldl_next_dest steps {} dir
  have hstart : ({} : Way α).dest dir = dir := by
    unfold Way.dest
    rw [Nat.sub_zero, List.take_length, List.append_nil]
  rw [hstart] at h
  exact h.symm

/-! ## Below a directory -/

/-- The path leads down from `root` by at least one name. -/
def Below (root path : List α) : Prop := ∃ rest, rest ≠ [] ∧ path = root ++ rest

/-- The way goes down again through the directories it has gone up, and further. -/
def Way.Returns (w : Way α) (root : List α) : Prop :=
  ∃ rest, rest ≠ [] ∧ w.names = root.drop (root.length - w.ups) ++ rest

/-- Where a walk has to go to end at a place below its start. -/
theorem walk_eq_append_iff (root : List α) (steps : List (Step α)) (rest : List α) :
    walk root steps = root ++ rest ↔
      (shorten steps).names = root.drop (root.length - (shorten steps).ups) ++ rest := by
  rw [walk_eq]
  unfold Way.dest
  generalize root.length - (shorten steps).ups = k
  -- the way and the root have their first `k` names in common
  have hroot : root ++ rest = root.take k ++ (root.drop k ++ rest) := by
    rw [← List.append_assoc, List.take_append_drop]
  rw [hroot, List.append_cancel_left_eq]

/-- **When a walk ends below its start.** -/
theorem below_walk_iff (root : List α) (steps : List (Step α)) :
    Below root (walk root steps) ↔ (shorten steps).Returns root := by
  unfold Below Way.Returns
  simp only [walk_eq_append_iff]

/-- A walk whose normal form does not go up ends below its start if it goes anywhere. -/
theorem Way.returns_of_ups_eq_zero {w : Way α} (h : w.ups = 0) (root : List α) :
    w.Returns root ↔ w.names ≠ [] := by
  unfold Way.Returns
  rw [h, Nat.sub_zero, List.drop_length]
  constructor
  · rintro ⟨rest, hrest, hnames⟩
    rw [hnames]
    exact hrest
  · intro hnames
    exact ⟨w.names, hnames, rfl⟩

theorem foldl_next_of_no_up {steps : List (Step α)} (h : .up ∉ steps) (w : Way α) :
    ∃ names, steps.foldl Way.next w = { w with names := w.names ++ names } ∧
      ∀ name, .down name ∈ steps → name ∈ names := by
  induction steps generalizing w with
  | nil => exact ⟨[], by rw [List.append_nil]; rfl, nofun⟩
  | cons s steps ih =>
    obtain ⟨names, hw, hnames⟩ := ih (fun hmem => h (List.mem_cons_of_mem _ hmem)) (w.next s)
    rw [List.foldl_cons, hw]
    cases s with
    | up => exact absurd List.mem_cons_self h
    | stay =>
      refine ⟨names, rfl, fun name hmem => ?_⟩
      rcases List.mem_cons.1 hmem with heq | hmem
      · cases heq
      · exact hnames name hmem
    | down d =>
      refine ⟨d :: names, ?_, fun name hmem => ?_⟩
      · simp only [Way.next, List.append_assoc, List.singleton_append]
      · rcases List.mem_cons.1 hmem with heq | hmem
        · cases heq
          exact List.mem_cons_self
        · exact List.mem_cons_of_mem _ (hnames name hmem)

/-- A walk that never goes up, and goes down somewhere, ends below its start. -/
theorem below_walk_of_no_up {steps : List (Step α)} (h : .up ∉ steps) {name : α}
    (hname : .down name ∈ steps) (root : List α) : Below root (walk root steps) := by
  obtain ⟨names, hw, hnames⟩ := foldl_next_of_no_up h {}
  have hshort : shorten steps = { names := names } := hw
  rw [below_walk_iff, hshort, Way.returns_of_ups_eq_zero rfl]
  exact List.ne_nil_of_mem (hnames name hname)

end Path

/-! ## File names -/

namespace Cxx

open Path

def slash : UInt8 := 47

/-- What a function that takes a C string sees of it. -/
def cString (s : Bytes) : Bytes := s.takeWhile (· ≠ 0)

def stepOf (component : Bytes) : Step Bytes :=
  if component = [] ∨ component = lit "." then .stay
  else if component = lit ".." then .up
  else .down component

def pathSteps (path : Bytes) : List (Step Bytes) := (path.splitOn slash).map stepOf

/-- What a name denotes in the working directory `cwd`, symbolic links aside. -/
def resolve (cwd : List Bytes) (path : Bytes) : List Bytes :=
  walk (if path.head? = some slash then [] else cwd) (pathSteps path)

theorem pathSteps_append_slash (a b : Bytes) :
    pathSteps (a ++ slash :: b) = pathSteps a ++ pathSteps b := by
  unfold pathSteps
  rw [List.splitOn_append_cons_self, List.map_append]

end Cxx
