import AsciiStreamer.Http.HttpSession

/-!
# Confinement of the static files

The path that is opened is `doc_root` with the target behind it, so the target is a walk that starts
in `doc_root`: `targetSteps`. It is confined to `doc_root` exactly if the walk's normal form comes
back to where it started and goes on from there (`confined_iff`); nothing checks that it does.
-/

namespace AsciiStreamer

open Cxx Path HttpSession

/-- If the request reaches the static files, the path that is opened names a file under
`doc_root`. -/
def Confined (cwd : List Bytes) (docRoot : Bytes) (method : Verb) (target : Bytes) : Prop :=
  ∀ path, route docRoot method target = .file path →
    Below (resolve cwd docRoot) (resolve cwd (cString path))

/-! ## The condition -/

/-- No branch before the last one takes the request. -/
structure ReachesFiles (method : Verb) (target : Bytes) : Prop where
  options : method ≠ .options
  fixed : target ∉ [lit "/cameras", lit "/api", lit "/tunnel_status", lit "/test_tunnel",
    lit "/recordings"]
  delete : ¬(lit "/recordings/" <+: target ∧ method = .delete)

/-- The name of the file in the target. -/
def fileTarget (target : Bytes) : Bytes :=
  cString (if target.getLast? = some slash then target ++ lit "index.html" else target)

/-- The steps from `doc_root` to the file: a target without a slash in front continues the last
name of `doc_root`. -/
def targetSteps (target : Bytes) : List (Step Bytes) :=
  match fileTarget target with
  | 47 :: t => pathSteps t
  | t => .up :: pathSteps (lit "web" ++ t)

section Confinement

variable {cwd : List Bytes} {method : Verb} {target : Bytes}

theorem route_eq_file_iff {path : Bytes} : route docRoot method target = .file path ↔
    ReachesFiles method target ∧ path = staticPath docRoot target := by
  unfold route
  constructor
  · intro h
    rcases ite_eq_iff.1 h with ⟨-, h⟩ | ⟨hoptions, h⟩
    · cases h
    rcases ite_eq_iff.1 h with ⟨-, h⟩ | ⟨hcameras, h⟩
    · cases h
    rcases ite_eq_iff.1 h with ⟨-, h⟩ | ⟨hapi, h⟩
    · cases h
    rcases ite_eq_iff.1 h with ⟨-, h⟩ | ⟨hstatus, h⟩
    · cases h
    rcases ite_eq_iff.1 h with ⟨-, h⟩ | ⟨htest, h⟩
    · cases h
    rcases ite_eq_iff.1 h with ⟨-, h⟩ | ⟨hrecordings, h⟩
    · cases h
    rcases ite_eq_iff.1 h with ⟨-, h⟩ | ⟨hdelete, h⟩
    · cases h
    refine ⟨⟨hoptions, ?_, hdelete⟩, (Route.file.inj h).symm⟩
    simp only [List.mem_cons, List.not_mem_nil, or_false, not_or]
    exact ⟨hcameras, hapi, hstatus, htest, hrecordings⟩
  · rintro ⟨⟨hoptions, hfixed, hdelete⟩, rfl⟩
    simp only [List.mem_cons, List.not_mem_nil, or_false, not_or] at hfixed
    obtain ⟨hcameras, hapi, hstatus, htest, hrecordings⟩ := hfixed
    rw [if_neg hoptions, if_neg hcameras, if_neg hapi, if_neg hstatus, if_neg htest,
      if_neg hrecordings, if_neg hdelete]

/-- The path that is opened is `doc_root` with the file's name behind it. -/
theorem cString_staticPath (target : Bytes) :
    cString (staticPath docRoot target) = docRoot ++ fileTarget target := by
  have hcut : ∀ t : Bytes, cString (docRoot ++ t) = docRoot ++ cString t := by
    intro t
    -- no byte of `doc_root` is zero
    rfl
  have hlast : (docRoot ++ target).getLast? = some slash ↔ target.getLast? = some slash := by
    rw [List.getLast?_append]
    cases target.getLast? with
    | none => decide
    | some c => rfl
  unfold staticPath fileTarget
  simp only [hlast]
  split
  · rw [List.append_assoc, hcut]
  · rw [hcut]

/-- `doc_root` is `web` beside the working directory. -/
theorem resolve_docRoot (cwd : List Bytes) : resolve cwd docRoot = cwd.dropLast ++ [lit "web"] := by
  have hsteps : pathSteps docRoot = [.up, .down (lit "web")] := by decide
  unfold resolve
  rw [hsteps, if_neg (by decide)]
  rfl

/-- **The target is a walk from `doc_root`.** -/
theorem resolve_target (cwd : List Bytes) (target : Bytes) :
    resolve cwd (docRoot ++ fileTarget target) =
      walk (resolve cwd docRoot) (targetSteps target) := by
  have hhead : (docRoot ++ fileTarget target).head? ≠ some slash := by
    have hdot : docRoot.head? = some 46 := by decide
    intro h
    rw [List.head?_append, hdot, Option.some_or] at h
    exact absurd (Option.some.inj h) (by decide)
  unfold targetSteps
  unfold resolve at *
  rw [if_neg hhead, if_neg (by decide)]
  split
  · next t ht =>
    rw [ht]
    change walk cwd (pathSteps (docRoot ++ slash :: t)) = _
    rw [pathSteps_append_slash, walk_append]
  · -- the first name of the target continues `web`
    have hsplit : docRoot ++ fileTarget target =
        lit ".." ++ slash :: (lit "web" ++ fileTarget target) := rfl
    have hup : pathSteps (lit "..") = [.up] := by decide
    have hweb : walk cwd (pathSteps docRoot) = cwd.dropLast ++ [lit "web"] := by
      have hroot := resolve_docRoot cwd
      unfold resolve at hroot
      rw [if_neg (by decide)] at hroot
      exact hroot
    rw [hsplit, pathSteps_append_slash, hup, List.singleton_append, walk_cons, walk_cons, hweb]
    change _ = walk ((cwd.dropLast ++ [lit "web"]).dropLast) _
    rw [List.dropLast_concat]
    rfl

/-- **When a request is confined to `doc_root`**: exactly if it does not reach the static files, or
the way its target goes returns to `doc_root` and goes on. -/
theorem confined_iff (cwd : List Bytes) (method : Verb) (target : Bytes) :
    Confined cwd docRoot method target ↔
      (ReachesFiles method target →
        (shorten (targetSteps target)).Returns (resolve cwd docRoot)) := by
  have hbelow : Below (resolve cwd docRoot) (resolve cwd (cString (staticPath docRoot target))) ↔
      (shorten (targetSteps target)).Returns (resolve cwd docRoot) := by
    rw [cString_staticPath, resolve_target]
    exact below_walk_iff _ _
  constructor
  · intro h hreach
    exact hbelow.1 (h _ (route_eq_file_iff.2 ⟨hreach, rfl⟩))
  · intro h path hpath
    obtain ⟨hreach, rfl⟩ := route_eq_file_iff.1 hpath
    exact hbelow.2 (h hreach)

/-- A target without a step up is confined, as soon as it names something. -/
theorem confined_of_no_up (hup : .up ∉ targetSteps target) {name : Bytes}
    (hname : .down name ∈ targetSteps target) : Confined cwd docRoot method target := by
  intro path hpath
  obtain ⟨-, rfl⟩ := route_eq_file_iff.1 hpath
  rw [cString_staticPath, resolve_target]
  exact below_walk_of_no_up hup hname _

/-- The working directory of a server that has been built in `build`. -/
def buildDir : List Bytes := [lit "srv", lit "build"]

/-- From there `/../build/server.key` is the private key of the server, and it is sent back. -/
theorem key_disclosed : ¬Confined buildDir docRoot .other (lit "/../build/server.key") ∧
    ∃ path, route docRoot .other (lit "/../build/server.key") = .file path ∧
      ∀ files key, files (resolve buildDir (lit "server.key")) = some key →
        (serveFile files buildDir path).body = key := by
  have hroute : route docRoot .other (lit "/../build/server.key") =
      .file (lit "../web/../build/server.key") := by decide +kernel
  refine ⟨fun h => ?_, _, hroute, fun files key hkey => ?_⟩
  · have hfile : resolve buildDir (cString (lit "../web/../build/server.key")) =
        [lit "srv", lit "build", lit "server.key"] := by decide
    obtain ⟨rest, -, hrest⟩ := h _ hroute
    rw [hfile, resolve_docRoot] at hrest
    have hname : lit "build" = lit "web" := (List.cons.inj (List.cons.inj hrest).2).1
    exact absurd hname (by decide)
  · have hsame : resolve buildDir (cString (lit "../web/../build/server.key")) =
        resolve buildDir (lit "server.key") := by decide
    unfold serveFile
    rw [hsame, hkey]

end Confinement

end AsciiStreamer
