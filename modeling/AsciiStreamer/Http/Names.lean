import AsciiStreamer.Http.Handler

/-!
# The names of recordings that clients send

A client names the recording to delete or to play, and the path that the server uses is
`recordings/` with the name behind it: a walk that starts in the recordings directory
(`resolve_recordingPath`). A name to delete is checked, and can lead nowhere but to the directory
itself or to a child of it; a name to play is only not empty (`direct_child_iff`).
-/

namespace AsciiStreamer

open Cxx Path HttpSession

/-- What a client sends: the target of a `DELETE` request, or the file name of a
`playback_start`. -/
inductive NameRequest
  | delete (target : Bytes)
  | playbackStart (filename : Bytes)

namespace NameRequest

/-- The path handed to `filesystem::remove` or to the stream of the player, unless the name is
rejected. -/
def path : NameRequest → Option Bytes
  | delete target => match route docRoot .delete target with
    | .deleteRecording filename =>
      if refusedName filename then none else some (recordingPath filename)
    | _ => none
  | playbackStart filename => if filename = [] then none else some (lit "recordings/" ++ filename)

end NameRequest

def recordingsDir (cwd : List Bytes) : List Bytes := cwd ++ [lit "recordings"]

/-- The path names an entry of the recordings directory. -/
def DirectChild (cwd : List Bytes) (path : Bytes) : Prop :=
  ∃ entry, resolve cwd (cString path) = recordingsDir cwd ++ [entry]

/-- A name to delete must name something. A name to play must lead back to where it starts, and one
step down. -/
def NameRequest.Stays (cwd : List Bytes) : NameRequest → Prop
  | delete target =>
    let name := cString (substrFrom target 12)
    name ≠ [] ∧ name ≠ lit "."
  | playbackStart filename =>
    let way := shorten (pathSteps (cString filename))
    ∃ entry, way.names =
      (recordingsDir cwd).drop ((recordingsDir cwd).length - way.ups) ++ [entry]

section Names

variable {cwd : List Bytes}

/-- **A name is a walk from the recordings directory.** -/
theorem resolve_recordingPath (cwd : List Bytes) (filename : Bytes) :
    resolve cwd (cString (recordingPath filename)) =
      walk (recordingsDir cwd) (pathSteps (cString filename)) := by
  have hcut : cString (recordingPath filename) =
      lit "recordings" ++ slash :: cString filename := rfl
  have hsteps : pathSteps (lit "recordings") = [.down (lit "recordings")] := by decide
  unfold resolve
  rw [hcut, if_neg (by simp [lit, slash]), pathSteps_append_slash, hsteps]
  rfl

/-- A name that is not refused is a single component, and not `..`. -/
theorem pathSteps_of_not_refused {filename : Bytes} (h : refusedName filename = false) :
    pathSteps (cString filename) = [stepOf (cString filename)] ∧ cString filename ≠ lit ".." := by
  unfold refusedName at h
  rw [Bool.or_eq_false_iff] at h
  have hpre : cString filename <+: filename := List.takeWhile_prefix _
  constructor
  · have hslash : slash ∉ filename := by
      rw [← find_eq_none, ← Option.not_isSome_iff_eq_none, h.2]
      decide
    unfold pathSteps
    rw [List.splitOn_eq_singleton fun hmem => hslash (hpre.subset hmem)]
    rfl
  · intro hup
    rw [findText_of_start (hup ▸ hpre)] at h
    exact absurd h.1 (by decide)

/-- A name to delete leads to the directory itself, or to a child of it. -/
theorem delete_child_iff {filename : Bytes} (h : refusedName filename = false) :
    DirectChild cwd (recordingPath filename) ↔
      cString filename ≠ [] ∧ cString filename ≠ lit "." := by
  obtain ⟨hsteps, hup⟩ := pathSteps_of_not_refused h
  unfold DirectChild
  rw [resolve_recordingPath, hsteps]
  unfold stepOf
  by_cases hstay : cString filename = [] ∨ cString filename = lit "."
  · rw [if_pos hstay]
    constructor
    · rintro ⟨entry, heq⟩
      have hlen := congrArg List.length heq
      rw [List.length_append, List.length_singleton] at hlen
      exact absurd hlen (Nat.ne_of_lt (Nat.lt_succ_self _))
    · exact fun hne => absurd hstay (not_or.2 hne)
  · rw [if_neg hstay, if_neg hup]
    exact ⟨fun _ => not_or.1 hstay, fun _ => ⟨cString filename, rfl⟩⟩

theorem play_child_iff (filename : Bytes) : DirectChild cwd (lit "recordings/" ++ filename) ↔
    (NameRequest.playbackStart filename).Stays cwd := by
  have hpath := resolve_recordingPath cwd filename
  unfold recordingPath at hpath
  unfold DirectChild NameRequest.Stays
  simp only [hpath, walk_eq_append_iff]

/-- **Where the names of clients lead**: to an entry of the recordings directory, if the name to
delete is neither empty nor a dot and the way of the name to play comes back and goes one step
down. -/
theorem direct_child_iff (cwd : List Bytes) (r : NameRequest) {path : Bytes}
    (h : r.path = some path) : DirectChild cwd path ↔ r.Stays cwd := by
  cases r with
  | delete target =>
    unfold NameRequest.path at h
    simp only at h
    split at h
    · next filename hroute =>
      have hname : filename = substrFrom target 12 := by
        unfold route at hroute
        repeat' split at hroute
        all_goals cases hroute
        rfl
      split at h
      · cases h
      · next hr =>
        cases h
        rw [delete_child_iff (Bool.eq_false_iff.2 hr), hname]
        rfl
    · cases h
  | playbackStart filename =>
    unfold NameRequest.path at h
    simp only [Option.ite_none_left_eq_some] at h
    obtain ⟨-, h⟩ := h
    cases h
    exact play_child_iff filename

theorem direct_child_iff_up : DirectChild [lit "srv"] (lit "recordings/../server.key") ↔
    (NameRequest.playbackStart (lit "../server.key")).Stays [lit "srv"] :=
  direct_child_iff [lit "srv"] (.playbackStart (lit "../server.key")) rfl

theorem not_directChild_of_length {path : Bytes}
    (h : (resolve cwd (cString path)).length ≠ cwd.length + 2) : ¬DirectChild cwd path := by
  rintro ⟨entry, heq⟩
  rw [heq] at h
  simp [recordingsDir] at h

/-- The target `/recordings/` leads to the directory itself, and a file name with `..` out of it. -/
theorem names_escape :
    (∃ path, (NameRequest.delete (lit "/recordings/")).path = some path ∧
      resolve [lit "srv"] (cString path) = recordingsDir [lit "srv"] ∧
      ¬DirectChild [lit "srv"] path) ∧
    ∃ path, (NameRequest.playbackStart (lit "../server.key")).path = some path ∧
      resolve [lit "srv"] (cString path) = [lit "srv", lit "server.key"] ∧
      ¬DirectChild [lit "srv"] path := by
  refine ⟨⟨lit "recordings/", ?_, ?_, not_directChild_of_length ?_⟩,
    lit "recordings/../server.key", ?_, ?_, not_directChild_of_length ?_⟩
  all_goals decide

end Names

end AsciiStreamer
