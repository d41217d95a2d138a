import AsciiStreamer.Stream.StreamSystem

/-!
# The resolution text

`start_streaming` cuts the text at its first `x` and reads both parts with `stoi`. Without an `x`
each part is the whole text, because `npos + 1` is 0; and `stoi` skips blanks, takes a sign and
stops at the first character that is no digit. `parsed_exactly_iff` says on which texts the parser
is that of the grammar `WxH` all the same.
-/

namespace AsciiStreamer

open Cxx

/-! ## The grammar and the parser -/

/-- Two positive ints in decimal, with one `x` between them and nothing else. -/
structure WxH (resolution : Bytes) (width height : Nat) : Prop where
  width_pos : 0 < width
  width_le : (width : Int) ≤ INT_MAX
  height_pos : 0 < height
  height_le : (height : Int) ≤ INT_MAX
  text : resolution = natToDec width ++ StreamController.xChar :: natToDec height

namespace StreamController

/-- What `start_streaming` reads from the text before it touches the camera. -/
def parseResolution (resolution : Bytes) : Except Exn (Int × Int) :=
  match stoi (widthText resolution) with
  | .error e => .error e
  | .ok width =>
    match stoi (heightText resolution) with
    | .error e => .error e
    | .ok height => .ok (width, height)

end StreamController

open StreamController

/-- An idle controller takes `resolution` exactly if it is of the form `WxH`, with these numbers as
the size of its frames; with any other text it throws and no stream starts. -/
structure ParsedExactly (resolution : Bytes) : Prop where
  accepts : ∀ width height : Nat, WxH resolution width height →
    ∀ (c : StreamController) (cameraIndex fps : Int) (env : CameraEnv), c.isStreaming = false →
      parseResolution resolution = .ok (width, height) ∧
        (c.startStreaming cameraIndex resolution fps env).self.frameWidth = width ∧
        (c.startStreaming cameraIndex resolution fps env).self.frameHeight = height
  rejects : (∀ width height, ¬WxH resolution width height) →
    ∀ (c : StreamController) (cameraIndex fps : Int) (env : CameraEnv), c.isStreaming = false →
      (∃ e, parseResolution resolution = .error e) ∧
        (∃ e, (c.startStreaming cameraIndex resolution fps env).next = .inr (.error e)) ∧
        (c.startStreaming cameraIndex resolution fps env).spawned = false ∧
        (c.startStreaming cameraIndex resolution fps env).self.isStreaming = false

/-! ## The condition -/

/-- The text begins, behind blanks and a sign, with an `int`; anything may follow. -/
def HoldsInt (text : Bytes) : Prop := ∃ z, Numeral text z ∧ INT_MIN ≤ z ∧ z ≤ INT_MAX

/-- The text is not of the form `WxH`, but numbers can be read where the parser looks for them. -/
inductive Misread (resolution : Bytes) : Prop
  | noX (absent : xChar ∉ resolution) (whole : HoldsInt resolution)
  | parts (width height : Bytes) (text : resolution = width ++ xChar :: height)
      (first : xChar ∉ width) (width_int : HoldsInt width) (height_int : HoldsInt height)
      (other : ∀ w h, ¬WxH resolution w h)

section Parsing

variable {resolution : Bytes}

theorem widthText_of_not_mem (h : xChar ∉ resolution) : widthText resolution = resolution := by
  rw [widthText, find_eq_none.2 h]

theorem heightText_of_not_mem (h : xChar ∉ resolution) : heightText resolution = resolution := by
  rw [heightText, find_eq_none.2 h]
  rfl

theorem widthText_append {a : Bytes} (h : xChar ∉ a) (b : Bytes) :
    widthText (a ++ xChar :: b) = a := by
  rw [widthText, find_append_cons h]
  exact List.take_left

theorem heightText_append {a : Bytes} (h : xChar ∉ a) (b : Bytes) :
    heightText (a ++ xChar :: b) = b := by
  rw [heightText, find_append_cons h]
  show (a ++ xChar :: b).drop (a.length + 1) = b
  rw [← List.singleton_append, ← List.append_assoc]
  exact List.drop_left' (by rw [List.length_append, List.length_singleton])

theorem holdsInt_iff {text : Bytes} : HoldsInt text ↔ ∃ z, stoi text = .ok z :=
  exists_congr fun _ => stoi_eq_ok_iff.symm

theorem parseResolution_ok_iff {w h : Int} : parseResolution resolution = .ok (w, h) ↔
    stoi (widthText resolution) = .ok w ∧ stoi (heightText resolution) = .ok h := by
  unfold parseResolution
  cases stoi (widthText resolution) with
  | error e => exact iff_of_false nofun fun hw => nomatch hw.1
  | ok w' =>
    cases stoi (heightText resolution) with
    | error e => exact iff_of_false nofun fun hh => nomatch hh.2
    | ok h' => simp only [Except.ok.injEq, Prod.mk.injEq]

/-- The parser succeeds where both parts begin with a number. -/
theorem parseResolution_ok_of_holdsInt (hw : HoldsInt (widthText resolution))
    (hh : HoldsInt (heightText resolution)) : ∃ x, parseResolution resolution = .ok x := by
  obtain ⟨w, hw⟩ := holdsInt_iff.1 hw
  obtain ⟨h, hh⟩ := holdsInt_iff.1 hh
  exact ⟨(w, h), parseResolution_ok_iff.2 ⟨hw, hh⟩⟩

theorem WxH.parse {w h : Nat} (hr : WxH resolution w h) :
    parseResolution resolution = .ok ((w : Int), (h : Int)) := by
  have hx : xChar ∉ natToDec w := not_mem_natToDec (by decide) w
  rw [parseResolution_ok_iff, hr.text, widthText_append hx, heightText_append hx]
  exact ⟨stoi_natToDec hr.width_le, stoi_natToDec hr.height_le⟩

theorem WxH.mem {w h : Nat} (hr : WxH resolution w h) : xChar ∈ resolution := by
  rw [hr.text]
  exact List.mem_append_right _ List.mem_cons_self

/-- What the parser takes is of the form `WxH`, or it is misread. -/
theorem misread_of_parse {x : Int × Int} (hp : parseResolution resolution = .ok x)
    (hother : ∀ w h, ¬WxH resolution w h) : Misread resolution := by
  obtain ⟨w, h⟩ := x
  obtain ⟨hw, hh⟩ := parseResolution_ok_iff.1 hp
  by_cases hx : xChar ∈ resolution
  · obtain ⟨i, hi⟩ : ∃ i, find xChar resolution 0 = some i := by
      rw [← Option.ne_none_iff_exists']
      exact fun hnone => find_eq_none.1 hnone hx
    obtain ⟨a, b, rfl, ha, -⟩ := find_eq_some hi
    rw [widthText_append ha] at hw
    rw [heightText_append ha] at hh
    exact .parts a b rfl ha (holdsInt_iff.2 ⟨w, hw⟩) (holdsInt_iff.2 ⟨h, hh⟩) hother
  · rw [widthText_of_not_mem hx] at hw
    exact .noX hx (holdsInt_iff.2 ⟨w, hw⟩)

theorem Misread.parse (h : Misread resolution) :
    (∃ x, parseResolution resolution = .ok x) ∧ ∀ w h, ¬WxH resolution w h := by
  cases h with
  | noX absent whole =>
    refine ⟨parseResolution_ok_of_holdsInt ?_ ?_, fun w h hr => absent hr.mem⟩
    · rwa [widthText_of_not_mem absent]
    · rwa [heightText_of_not_mem absent]
  | parts a b text first width height other =>
    subst text
    refine ⟨parseResolution_ok_of_holdsInt ?_ ?_, other⟩
    · rwa [widthText_append first]
    · rwa [heightText_append first]

/-! ## What the controller makes of it -/

variable {c : StreamController} {cameraIndex fps : Int} {env : CameraEnv}

/-- Once the text has been read, its numbers are the size of the frames, whatever follows. -/
theorem startStreaming_size {w h : Int} (hidle : c.isStreaming = false)
    (hp : parseResolution resolution = .ok (w, h)) :
    (c.startStreaming cameraIndex resolution fps env).self.frameWidth = w ∧
      (c.startStreaming cameraIndex resolution fps env).self.frameHeight = h := by
  obtain ⟨hw, hh⟩ := parseResolution_ok_iff.1 hp
  have hopening := openStream_opening c cameraIndex resolution fps env
  unfold startStreaming
  rw [hidle, if_neg (by decide)]
  generalize c.openStream cameraIndex resolution fps env = x at hopening ⊢
  obtain ⟨c', r⟩ := x
  cases hopening with
  | width e width => cases hw.symm.trans width
  | height w' e width height => cases hh.symm.trans height
  | camera w' h' width height opens =>
    cases hw.symm.trans width
    cases hh.symm.trans height
    exact ⟨rfl, rfl⟩
  | throws w' h' e width height opens throws =>
    cases hw.symm.trans width
    cases hh.symm.trans height
    exact ⟨rfl, rfl⟩
  | started w' h' width height opens setResolution setAsciiChars =>
    cases hw.symm.trans width
    cases hh.symm.trans height
    exact ⟨rfl, rfl⟩

/-- A text that does not parse is what `start_streaming` throws for. -/
theorem startStreaming_throws {e : Exn} (hidle : c.isStreaming = false)
    (hp : parseResolution resolution = .error e) :
    (∃ e, (c.startStreaming cameraIndex resolution fps env).next = .inr (.error e)) ∧
      (c.startStreaming cameraIndex resolution fps env).spawned = false ∧
      (c.startStreaming cameraIndex resolution fps env).self.isStreaming = false := by
  unfold startStreaming
  rw [hidle, if_neg (by decide)]
  rcases openStream_cases c cameraIndex resolution fps env hidle with
    ⟨hb, -⟩ | ⟨-, c', e', hopen, -, -⟩
  · obtain ⟨w, hw⟩ := hb.width
    obtain ⟨h, hh⟩ := hb.height
    cases hp.symm.trans (parseResolution_ok_iff.2 ⟨hw, hh⟩)
  · rw [hopen]
    exact ⟨⟨e', rfl⟩, rfl, rfl⟩

end Parsing

/-- **The resolution parser** is that of the grammar `WxH` on exactly the texts that it does not
misread. -/
theorem parsed_exactly_iff (resolution : Bytes) :
    ParsedExactly resolution ↔ ¬Misread resolution := by
  constructor
  · intro h hmis
    obtain ⟨⟨x, hx⟩, hother⟩ := hmis.parse
    obtain ⟨⟨e, he⟩, -⟩ := h.rejects hother {} 0 0 .working rfl
    cases hx.symm.trans he
  · intro hmis
    refine ⟨fun w h hr c cameraIndex fps env hidle => ?_,
      fun hother c cameraIndex fps env hidle => ?_⟩
    · exact ⟨hr.parse, startStreaming_size hidle hr.parse⟩
    · cases hp : parseResolution resolution with
      | error e => exact ⟨⟨e, rfl⟩, startStreaming_throws hidle hp⟩
      | ok x => exact absurd (misread_of_parse hp hother) hmis

/-- A single number is taken for both the width and the height, and a stream starts. -/
theorem not_parsed_exactly_number : ¬ParsedExactly (lit "120") ∧
    parseResolution (lit "120") = .ok (120, 120) ∧
    (({} : StreamController).startStreaming 0 (lit "120") 10 .working).spawned = true := by
  refine ⟨fun h => ?_, by decide +kernel, by decide +kernel⟩
  have hother : ∀ w h, ¬WxH (lit "120") w h := by
    intro w h hr
    have hx : xChar ∉ lit "120" := by decide
    exact hx hr.mem
  obtain ⟨⟨e, he⟩, -⟩ := h.rejects hother {} 0 10 .working rfl
  have hok : parseResolution (lit "120") = .ok (120, 120) := by decide +kernel
  cases hok.symm.trans he

end AsciiStreamer
