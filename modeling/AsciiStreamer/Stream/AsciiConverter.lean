import Mathlib.Data.Rat.Floor
import AsciiStreamer.Lib.Json
import AsciiStreamer.Lib.Raster
import AsciiStreamer.Recording.PlaybackController

/-!
# The converter (`src/ascii_converter.cpp`)

`convert` turns a frame into text: OpenCV makes it gray and resizes it, a table of 256 characters is
filled from the configured ones, and two loops write a row of characters and a newline for every row
of pixels. The table picks the nearest of the evenly spaced levels (`lutIndex_eq_level`), so the
text is the picture, cell by cell (`ascii_conversion`).
-/

namespace AsciiStreamer

open Cxx Raster

/-! ## The code -/

/-- The part of OpenCV that `convert` uses. `pixel m y x` is `m.ptr<uchar>(y)[x]`. -/
structure OpenCV (Mat : Type) where
  empty : Mat → Bool
  cvtColor : Mat → Except Exn Mat
  resize : Mat → Int → Int → Except Exn Mat
  rows : Mat → Nat
  cols : Mat → Nat
  pixel : Mat → Nat → Nat → UInt8

namespace AsciiConverter

/-- `255.0 / (num_chars - 1)`, with `none` for infinity. -/
def charStep (numChars : Nat) : Option Rat :=
  if numChars - 1 = 0 then none else some (255 / ((numChars - 1 : Nat) : Rat))

/-- `i / char_step`. -/
def steps (i : Nat) : Option Rat → Rat
  | none => 0
  | some step => i / step

/-- `std::clamp`. -/
def clamp (z lo hi : Int) : Int := if z < lo then lo else if hi < z then hi else z

/-- The index of the character for a pixel of value `i`. -/
def lutIndex (P : Platform) (numChars i : Nat) : Int :=
  let index := castInt P (steps i (charStep numChars) + 1 / 2)
  clamp index 0 (Json.toInt32 ((numChars - 1 : Nat) : Int))

/-- The lookup table. Indexing a string at its size gives a NUL. -/
def lut (P : Platform) (asciiChars : Bytes) (i : UInt8) : UInt8 :=
  asciiChars.getD (lutIndex P asciiChars.length i.toNat).toNat 0

/-- The two loops, which append to `ascii_frame`. -/
def render {Mat : Type} (cv : OpenCV Mat) (table : UInt8 → UInt8) (processed : Mat) : Bytes :=
  (List.range (cv.rows processed)).foldl (fun asciiFrame y =>
    (List.range (cv.cols processed)).foldl (fun asciiFrame x =>
      asciiFrame ++ [table (cv.pixel processed y x)]) asciiFrame ++ [newline]) []

/-- `reserve` only sets memory aside. -/
def convert (P : Platform) {Mat : Type} (cv : OpenCV Mat) (asciiChars : Bytes) (frame : Mat)
    (outputWidth outputHeight : Int) : Except Exn Bytes :=
  if cv.empty frame then .ok []
  else if asciiChars = [] then .ok (lit "CONFIG ERROR")
  else
    match cv.cvtColor frame with
    | .error e => .error e
    | .ok processed =>
      match cv.resize processed outputWidth outputHeight with
      | .error e => .error e
      | .ok processed => .ok (render cv (lut P asciiChars) processed)

end AsciiConverter

open AsciiConverter

/-! ## What the calls of the library give -/

/-- OpenCV makes of the frame a gray picture of the size asked for. -/
structure Processed {Mat : Type} (cv : OpenCV Mat) (frame : Mat) (width height : Nat)
    (processed : Mat) : Prop where
  nonempty : cv.empty frame = false
  calls : ∃ gray, cv.cvtColor frame = .ok gray ∧ cv.resize gray width height = .ok processed
  rows : cv.rows processed = height
  cols : cv.cols processed = width

/-! ## The table -/

section Table

variable {P : Platform} {numChars i : Nat}

/-- A conversion of a fraction that is not negative drops what is behind the point. -/
theorem castInt_natDiv {a b : Nat} (hmax : ((a / b : Nat) : Int) ≤ INT_MAX) :
    castInt P ((a : Rat) / b) = ((a / b : Nat) : Int) := by
  have hq : (0 : Rat) ≤ (a : Rat) / b := div_nonneg (Nat.cast_nonneg a) (Nat.cast_nonneg b)
  have hnum : 0 ≤ ((a : Rat) / b).num := Rat.num_nonneg.2 hq
  have hfloor : ((a : Rat) / b).num.tdiv ((a : Rat) / b).den = ((a / b : Nat) : Int) := by
    rw [Int.tdiv_eq_ediv_of_nonneg hnum, ← Rat.floor_def]
    exact Rat.floor_natCast_div_natCast a b
  have hmin : INT_MIN ≤ ((a / b : Nat) : Int) :=
    le_trans (by decide : INT_MIN ≤ 0) (Int.natCast_nonneg (a / b))
  simp only [castInt, hfloor, hmin, hmax, and_self, ↓reduceIte]

/-- One half added to the steps, over a common denominator. -/
theorem steps_add_half (i numChars : Nat) : steps i (charStep numChars) + 1 / 2 =
    ((2 * (i * (numChars - 1)) + 255 : Nat) : Rat) / ((2 * 255 : Nat) : Rat) := by
  unfold charStep
  by_cases h : numChars - 1 = 0
  · rw [if_pos h, h]
    norm_num [steps]
  · have hne : ((numChars - 1 : Nat) : Rat) ≠ 0 := Nat.cast_ne_zero.2 h
    rw [if_neg h]
    simp only [steps]
    push_cast
    field_simp
    ring

/-- **The table picks the nearest level.** -/
theorem lutIndex_eq_level (hpos : 0 < numChars) (hint : (numChars : Int) ≤ INT_MAX)
    (hi : i ≤ 255) : lutIndex P numChars i = (level 255 numChars i : Int) := by
  have hlt : level 255 numChars i < numChars := level_lt (by decide) hpos hi
  have hmax : ((level 255 numChars i : Nat) : Int) ≤ INT_MAX := by omega
  have hcast : castInt P (steps i (charStep numChars) + 1 / 2) =
      (level 255 numChars i : Int) := by
    rw [steps_add_half]
    exact castInt_natDiv hmax
  have hhi : Json.toInt32 ((numChars - 1 : Nat) : Int) = ((numChars - 1 : Nat) : Int) := by
    simp only [Json.toInt32, INT_MAX] at *
    omega
  unfold lutIndex
  simp only [hcast, hhi]
  unfold clamp
  rw [if_neg (by omega), if_neg (by omega)]

theorem lut_eq {chars : Bytes} (hne : chars ≠ []) (hint : (chars.length : Int) ≤ INT_MAX)
    (p : UInt8) : chars[level 255 chars.length p.toNat]? = some (lut P chars p) := by
  have hpos : 0 < chars.length := List.length_pos_iff.2 hne
  have hp : p.toNat ≤ 255 := Nat.le_of_lt_succ p.toNat_lt
  have hlt : level 255 chars.length p.toNat < chars.length := level_lt (by decide) hpos hp
  unfold lut
  rw [lutIndex_eq_level hpos hint hp, Int.toNat_natCast, List.getD_eq_getElem?_getD,
    List.getElem?_eq_getElem hlt, Option.getD_some]

/-- The characters in reverse order, and the brightness inverted. -/
theorem lut_reverse {chars : Bytes} (hne : chars ≠ []) (hint : (chars.length : Int) ≤ INT_MAX)
    (p : UInt8) : lut P chars.reverse p = lut P chars (255 - p) := by
  have hpos : 0 < chars.length := List.length_pos_iff.2 hne
  have hp : p.toNat ≤ 255 := Nat.le_of_lt_succ p.toNat_lt
  have hlt : level 255 chars.length p.toNat < chars.length := level_lt (by decide) hpos hp
  have hinv : (255 - p).toNat = 255 - p.toNat := UInt8.toNat_sub_of_le _ _ hp
  have hleft := lut_eq (P := P) (fun h => hne (List.reverse_eq_nil_iff.1 h))
    (by rwa [List.length_reverse]) p
  have hright := lut_eq (P := P) hne hint (255 - p)
  rw [hinv, level_complement (by decide) hpos hp] at hright
  rw [List.length_reverse, List.getElem?_reverse hlt, hright, Option.some.injEq] at hleft
  exact hleft.symm

end Table

/-! ## The loops -/

section Loops

variable {Mat : Type} {cv : OpenCV Mat}

/-- The loops write the picture row by row. -/
theorem render_eq (table : UInt8 → UInt8) (m : Mat) : render cv table m =
    textRows (cv.rows m) (cv.cols m) (fun y x => table (cv.pixel m y x)) newline := by
  unfold render textRows
  simp only [List.foldl_append_eq_append, ← List.flatMap_def, ← List.map_eq_flatMap,
    List.append_assoc, List.nil_append]

end Loops

/-! ## The conversion -/

/-- The text is the picture, with every pixel shown as the character of the nearest level. -/
structure Drawn (chars : Bytes) (width height : Nat) (pixel : Nat → Nat → UInt8) (text : Bytes) :
    Prop where
  length : text.length = height * (width + 1)
  newlines : ∀ y < height, text[y * (width + 1) + width]? = some newline
  cells : ∀ y < height, ∀ x < width, ∃ k, Nearest 255 chars.length (pixel y x).toNat k ∧
    text[y * (width + 1) + x]? = chars[k]?

/-- What the nearest of `n` levels is like, seen over all pixel values. -/
structure LevelMap (n : Nat) : Prop where
  unique : ∀ p : UInt8, ∃! k, Nearest 255 n p.toNat k
  monotone : ∀ (p q : UInt8) (k l : Nat), Nearest 255 n p.toNat k → Nearest 255 n q.toNat l →
    p ≤ q → k ≤ l
  black : ∀ k, Nearest 255 n (0 : UInt8).toNat k → k = 0
  white : ∀ k, Nearest 255 n (255 : UInt8).toNat k → k = n - 1

theorem levelMap {n : Nat} (hn : 0 < n) : LevelMap n where
  unique p := by
    have hnearest := nearest_level (M := 255) (by decide) hn (Nat.le_of_lt_succ p.toNat_lt)
    exact ⟨_, hnearest, fun l hl => hl.unique hnearest⟩
  monotone p q k l hk hl hpq := by
    rw [hk.eq_level (by decide) (Nat.le_of_lt_succ p.toNat_lt),
      hl.eq_level (by decide) (Nat.le_of_lt_succ q.toNat_lt)]
    exact level_mono (UInt8.le_iff_toNat_le.1 hpq)
  black k hk := (hk.eq_level (by decide) (by decide)).trans (level_zero (by decide))
  white k hk := (hk.eq_level (by decide) (by decide)).trans (level_max (by decide))

section Convert

variable {P : Platform} {Mat : Type} {cv : OpenCV Mat} {chars : Bytes} {frame processed : Mat}
  {width height : Nat}

theorem convert_eq (hne : chars ≠ []) (h : Processed cv frame width height processed) :
    convert P cv chars frame width height = .ok (textRows height width
      (fun y x => lut P chars (cv.pixel processed y x)) newline) := by
  obtain ⟨gray, hgray, hresize⟩ := h.calls
  unfold convert
  rw [h.nonempty, if_neg Bool.false_ne_true, if_neg hne, hgray]
  simp only [hresize]
  rw [render_eq, h.rows, h.cols]

/-- **The conversion of a frame**: one character and newline at each exact place, the character that
of the nearest level, and the same text for the inverted picture with the characters reversed. -/
theorem ascii_conversion (P : Platform) {Mat : Type} (cv : OpenCV Mat) (chars : Bytes)
    (frame processed : Mat) (width height : Nat) (hne : chars ≠ [])
    (hint : (chars.length : Int) ≤ INT_MAX) (h : Processed cv frame width height processed) :
    ∃ text, convert P cv chars frame width height = .ok text ∧
      Drawn chars width height (cv.pixel processed) text ∧ LevelMap chars.length ∧
      ∀ frame' processed', Processed cv frame' width height processed' →
        (∀ y < height, ∀ x < width, cv.pixel processed' y x = 255 - cv.pixel processed y x) →
        convert P cv chars.reverse frame width height = convert P cv chars frame' width height := by
  have hpos : 0 < chars.length := List.length_pos_iff.2 hne
  refine ⟨_, convert_eq hne h, ⟨length_textRows, fun y hy => getElem?_textRows_mark hy, ?_⟩,
    levelMap hpos, ?_⟩
  · intro y hy x hx
    have hp := Nat.le_of_lt_succ (cv.pixel processed y x).toNat_lt
    refine ⟨_, nearest_level (by decide) hpos hp, ?_⟩
    rw [getElem?_textRows_cell hy hx, lut_eq hne hint]
  · intro frame' processed' h' hinverted
    have hne' : chars.reverse ≠ [] := fun hnil => hne (List.reverse_eq_nil_iff.1 hnil)
    rw [convert_eq hne' h, convert_eq hne h']
    refine congrArg Except.ok (textRows_congr fun y hy x hx => ?_)
    rw [lut_reverse hne hint, hinverted y hy x hx]

end Convert

/-! ### A picture of four pixels -/

/-- Rows of pixels, each with its channels. -/
abbrev Picture := List (List (List UInt8))

/-- Three channels weighted as `cv::COLOR_BGR2GRAY` does. -/
def grayPixel : List UInt8 → List UInt8
  | [b, g, r] => [UInt8.ofNat ((1868 * b.toNat + 9617 * g.toNat + 4899 * r.toNat + 8192) / 2 ^ 14)]
  | channels => channels

/-- OpenCV on such pictures, where resizing is asked to change nothing. -/
def pictures : OpenCV Picture where
  empty m := m.isEmpty
  cvtColor m := .ok (m.map fun row => row.map grayPixel)
  resize m width height :=
    if (m.length : Int) = height ∧ ∀ row ∈ m, (row.length : Int) = width then .ok m
    else .error (.runtimeError (lit "resize"))
  rows m := m.length
  cols m := (m.headD []).length
  pixel m y x := ((m.getD y []).getD x []).headD 0

/-- Black, two grays and white. -/
def fourPixels : Picture :=
  [[[0, 0, 0], [127, 127, 127]], [[191, 191, 191], [255, 255, 255]]]

def fourGrays : Picture := [[[0], [127]], [[191], [255]]]

theorem ascii_conversion_fourPixels :
    ∃ text, convert x86_64 pictures (lit "@%#*+=-:. ") fourPixels (2 : Nat) (2 : Nat) = .ok text ∧
      Drawn (lit "@%#*+=-:. ") 2 2 (pictures.pixel fourGrays) text ∧ LevelMap 10 ∧
      ∀ frame' processed', Processed pictures frame' 2 2 processed' →
        (∀ y < 2, ∀ x < 2, pictures.pixel processed' y x = 255 - pictures.pixel fourGrays y x) →
        convert x86_64 pictures (lit "@%#*+=-:. ").reverse fourPixels (2 : Nat) (2 : Nat) =
          convert x86_64 pictures (lit "@%#*+=-:. ") frame' (2 : Nat) (2 : Nat) := by
  have hprocessed : Processed pictures fourPixels 2 2 fourGrays :=
    ⟨rfl, ⟨fourGrays, by decide, by decide⟩, rfl, rfl⟩
  exact ascii_conversion x86_64 pictures (lit "@%#*+=-:. ") fourPixels fourGrays 2 2 (by decide)
    (by decide) hprocessed

example : convert x86_64 pictures (lit "@%#*+=-:. ") fourPixels 2 2 = .ok (lit "@+\n: \n") := by
  decide +kernel

end AsciiStreamer
