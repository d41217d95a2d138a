import Mathlib.Data.List.Nodup
import AsciiStreamer.Lib.Path

/-!
# A directory of files

What the calls of a POSIX system on paths into one directory answer, and what they leave of it. The
directory, whose name is `dir`, holds regular files and nothing else. A path behind it names a file
(`Plain`), or the directory itself, which goes like a file as soon as it is empty. There is one lemma
for each call about the paths that name a file, and `removal` says all that a `remove` can do.
-/

namespace Cxx

/-- The names of the files in a directory. -/
structure Folder where
  names : List Bytes
  nodup : names.Nodup

namespace Folder

/-- `NAME_MAX` and `PATH_MAX`. -/
def nameMax : Nat := 255

def pathMax : Nat := 4096

def tooLong : Exn := .runtimeError (lit "filesystem error: File name too long")

def notEmpty : Exn := .runtimeError (lit "filesystem error: cannot remove: Directory not empty")

def invalid : Exn := .runtimeError (lit "filesystem error: cannot remove: Invalid argument")

/-- A file is opened for output: there it is. -/
def create (f : Folder) (name : Bytes) : Folder :=
  if h : name ∈ f.names then f
  else ⟨f.names ++ [name], List.nodup_append.2
    ⟨f.nodup, List.nodup_singleton name, fun _ ha _ hb hab =>
      h (List.mem_singleton.1 hb ▸ hab ▸ ha)⟩⟩

def erase (f : Folder) (name : Bytes) : Folder := ⟨f.names.erase name, f.nodup.erase name⟩

/-- What there is to list, also where the directory has been removed. -/
def namesOf : Option Folder → List Bytes
  | none => []
  | some f => f.names

/-- What a path has behind `dir/`. -/
def entry (dir path : Bytes) : Bytes := (cString path).drop (dir.length + 1)

/-! ## Calls -/

/-- `std::filesystem::exists`. The directory is `none` once it has been removed. -/
def existsAt (dir : Bytes) (f : Option Folder) (path : Bytes) : Except Exn Bool :=
  if pathMax ≤ (cString path).length then .error tooLong
  else match f with
    | none => .ok false
    | some f =>
      let name := entry dir path
      if nameMax < name.length then .error tooLong
      else .ok (name = [] ∨ name = lit "." ∨ name ∈ f.names)

/-- `std::filesystem::remove`. -/
def remove (dir : Bytes) (f : Option Folder) (path : Bytes) : Option Folder × Except Exn Bool :=
  if pathMax ≤ (cString path).length then (f, .error tooLong)
  else match f with
    | none => (none, .ok false)
    | some f =>
      let name := entry dir path
      if nameMax < name.length then (some f, .error tooLong)
      else if name = [] then if f.names = [] then (none, .ok true) else (some f, .error notEmpty)
      else if name = lit "." then (some f, .error invalid)
      else if name ∈ f.names then (some (f.erase name), .ok true)
      else (some f, .ok false)

/-! ## Names of files -/

/-- A name that a path can have behind its directory to name a file in it. -/
structure Plain (name : Bytes) : Prop where
  slash : slash ∉ name
  nul : 0 ∉ name
  nonempty : name ≠ []
  dot : name ≠ lit "."
  up : name ≠ lit ".."
  short : name.length ≤ nameMax

instance : DecidablePred Plain := fun name =>
  decidable_of_iff (Cxx.slash ∉ name ∧ 0 ∉ name ∧ name ≠ [] ∧ name ≠ lit "." ∧ name ≠ lit ".." ∧
      name.length ≤ nameMax)
    ⟨fun ⟨h₁, h₂, h₃, h₄, h₅, h₆⟩ => ⟨h₁, h₂, h₃, h₄, h₅, h₆⟩,
      fun ⟨h₁, h₂, h₃, h₄, h₅, h₆⟩ => ⟨h₁, h₂, h₃, h₄, h₅, h₆⟩⟩

section Calls

variable {dir name : Bytes} {f : Option Folder}

theorem names_create {f : Folder} (h : name ∉ f.names) :
    (f.create name).names = f.names ++ [name] := by
  unfold create
  rw [dif_neg h]

theorem cString_of_nul {s : Bytes} (h : 0 ∉ s) : cString s = s := by
  unfold cString
  refine List.takeWhile_eq_self_iff.2 fun c hc => ?_
  rw [decide_eq_true_eq]
  rintro rfl
  exact h hc

/-- A directory name in front does not hide where the string ends. -/
theorem cString_behind (hdir : 0 ∉ dir) (name : Bytes) :
    cString (dir ++ Cxx.slash :: name) = dir ++ Cxx.slash :: cString name := by
  have hall : ∀ c ∈ dir, decide (c ≠ 0) = true := by
    intro c hc
    rw [decide_eq_true_eq]
    rintro rfl
    exact hdir hc
  unfold cString
  rw [List.takeWhile_append_of_pos hall, List.takeWhile_cons_of_pos (by decide)]

theorem entry_behind (hdir : 0 ∉ dir) (name : Bytes) :
    entry dir (dir ++ Cxx.slash :: name) = cString name := by
  unfold entry
  rw [cString_behind hdir, ← List.drop_drop, List.drop_left]
  rfl

/-- A path to a file in the directory is not too long. -/
theorem Plain.length_lt (h : Plain name) (hdir : 0 ∉ dir) (hlen : dir.length < 256) :
    (cString (dir ++ Cxx.slash :: name)).length < pathMax := by
  have hshort := h.short
  rw [cString_behind hdir, cString_of_nul h.nul, List.length_append, List.length_cons]
  unfold nameMax at hshort
  unfold pathMax
  omega

/-- **A file exists** if its name is in the directory. -/
theorem existsAt_plain (h : Plain name) (hdir : 0 ∉ dir) (hlen : dir.length < 256) :
    existsAt dir f (dir ++ Cxx.slash :: name) = .ok (decide (name ∈ namesOf f)) := by
  unfold existsAt
  rw [if_neg (Nat.not_le.2 (h.length_lt hdir hlen))]
  cases f with
  | none => rfl
  | some d =>
    simp only [entry_behind hdir, cString_of_nul h.nul]
    rw [if_neg (Nat.not_lt.2 h.short)]
    refine congrArg Except.ok (decide_eq_decide.2 ?_)
    rw [or_iff_right h.nonempty, or_iff_right h.dot]
    exact Iff.rfl

theorem remove_plain (h : Plain name) (hdir : 0 ∉ dir) (hlen : dir.length < 256) {d : Folder}
    (hmem : name ∈ d.names) : remove dir (some d) (dir ++ Cxx.slash :: name) =
      (some (d.erase name), .ok true) := by
  unfold remove
  rw [if_neg (Nat.not_le.2 (h.length_lt hdir hlen))]
  simp only [entry_behind hdir, cString_of_nul h.nul]
  rw [if_neg (Nat.not_lt.2 h.short), if_neg h.nonempty, if_neg h.dot, if_pos hmem]

/-- What a `remove` does, and whether there was anything to remove. -/
inductive Removal (dir : Bytes) (f : Option Folder) (path : Bytes) : Prop
  | failed (e : Exn) (self : remove dir f path = (f, .error e))
  | absent (found : existsAt dir f path = .ok false) (self : remove dir f path = (f, .ok false))
  | file (d : Folder) (before : f = some d) (mem : entry dir path ∈ d.names)
      (found : existsAt dir f path = .ok true)
      (self : remove dir f path = (some (d.erase (entry dir path)), .ok true))
  | itself (d : Folder) (before : f = some d) (names : d.names = []) (name : entry dir path = [])
      (found : existsAt dir f path = .ok true) (self : remove dir f path = (none, .ok true))

theorem removal (dir : Bytes) (f : Option Folder) (path : Bytes) : Removal dir f path := by
  by_cases hpath : pathMax ≤ (cString path).length
  · exact .failed tooLong (if_pos hpath)
  cases f with
  | none => exact .absent (if_neg hpath) (if_neg hpath)
  | some d =>
    by_cases hlong : nameMax < (entry dir path).length
    · exact .failed tooLong ((if_neg hpath).trans (if_pos hlong))
    have hfound : existsAt dir (some d) path = .ok (decide (entry dir path = [] ∨
        entry dir path = lit "." ∨ entry dir path ∈ d.names)) :=
      (if_neg hpath).trans (if_neg hlong)
    by_cases hnone : entry dir path = []
    · by_cases hempty : d.names = []
      · refine .itself d rfl hempty hnone ?_ ((if_neg hpath).trans ((if_neg hlong).trans ?_))
        · rw [hfound, decide_eq_true (Or.inl hnone)]
        · exact (if_pos hnone).trans (if_pos hempty)
      · refine .failed notEmpty ((if_neg hpath).trans ((if_neg hlong).trans ?_))
        exact (if_pos hnone).trans (if_neg hempty)
    by_cases hdot : entry dir path = lit "."
    · refine .failed invalid ((if_neg hpath).trans ((if_neg hlong).trans ?_))
      exact (if_neg hnone).trans (if_pos hdot)
    by_cases hmem : entry dir path ∈ d.names
    · refine .file d rfl hmem ?_ ((if_neg hpath).trans ((if_neg hlong).trans ?_))
      · rw [hfound, decide_eq_true (Or.inr (Or.inr hmem))]
      · exact (if_neg hnone).trans ((if_neg hdot).trans (if_pos hmem))
    · refine .absent ?_ ((if_neg hpath).trans ((if_neg hlong).trans ?_))
      · rw [hfound, decide_eq_false (not_or.2 ⟨hnone, not_or.2 ⟨hdot, hmem⟩⟩)]
      · exact (if_neg hnone).trans ((if_neg hdot).trans (if_neg hmem))

end Calls

end Folder

end Cxx
