import Mathlib.Data.Rat.Defs
import AsciiStreamer.Lib.Text

/-!
# Typed access to a JSON document

The access functions of nlohmann-json on a parsed document: `operator[]` and `value` on objects,
and the conversions to a string, an `int` and a `double`. A conversion from the wrong type throws
a `type_error` whose text names both types.
-/

namespace Cxx

inductive Json
  | null
  | boolean (b : Bool)
  | integer (z : Int)
  | float (q : Rat)
  | string (s : Bytes)
  | array (elements : List Json)
  | object (fields : List (Bytes × Json))

namespace Json

def typeName : Json → Bytes
  | null => lit "null"
  | boolean _ => lit "boolean"
  | integer _ | float _ => lit "number"
  | string _ => lit "string"
  | array _ => lit "array"
  | object _ => lit "object"

def typeError (id text : Bytes) (j : Json) : Exn :=
  .jsonError (lit "[json.exception.type_error." ++ id ++ lit "] " ++ text ++ j.typeName)

/-- `static_cast<int>` of a 64-bit integer keeps the low 32 bits. -/
def toInt32 (z : Int) : Int := (z + 2 ^ 31) % 2 ^ 32 - 2 ^ 31

/-- The field of an object, if it is there. -/
def find? (fields : List (Bytes × Json)) (key : Bytes) : Option Json :=
  (fields.find? fun f => f.1 = key).map Prod.snd

/-- `j[key]`: a missing field is null, and null itself becomes an empty object. -/
def field (j : Json) (key : Bytes) : Except Exn Json :=
  match j with
  | object fields => .ok ((find? fields key).getD null)
  | null => .ok null
  | j => .error (typeError (lit "305") (lit "cannot use operator[] with a string argument with ") j)

def getString : Json → Except Exn Bytes
  | string s => .ok s
  | j => .error (typeError (lit "302") (lit "type must be string, but is ") j)

/-- `cast` is the conversion of a `double` to `int`. -/
def getInt (cast : Rat → Int) : Json → Except Exn Int
  | integer z => .ok (toInt32 z)
  | float q => .ok (cast q)
  | boolean b => .ok (if b then 1 else 0)
  | j => .error (typeError (lit "302") (lit "type must be number, but is ") j)

def getDouble : Json → Except Exn Rat
  | integer z => .ok z
  | float q => .ok q
  | j => .error (typeError (lit "302") (lit "type must be number, but is ") j)

/-- `j.value(key, default)`. -/
def value {α : Type} (j : Json) (key : Bytes) (get : Json → Except Exn α) (default : α) :
    Except Exn α :=
  match j with
  | object fields => match find? fields key with
    | some v => get v
    | none => .ok default
  | j => .error (typeError (lit "306") (lit "cannot use value() with ") j)

end Json

/-- A computation with an exception returns what its last part returns. -/
theorem bind_ok {ε : Type} {α β : Type} {x : Except ε α} {f : α → Except ε β} {b : β} :
    x >>= f = .ok b ↔ ∃ a, x = .ok a ∧ f a = .ok b := by
  constructor
  · intro h
    cases x with
    | error e => cases h
    | ok a => exact ⟨a, rfl, h⟩
  · rintro ⟨a, rfl, h⟩
    exact h

section Succeeds

variable {ε α β : Type}

/-- The computation has not thrown. -/
def Succeeds (x : Except ε α) : Prop := ∃ a, x = .ok a

theorem succeeds_ok (a : α) : Succeeds (.ok a : Except ε α) := ⟨a, rfl⟩

theorem not_succeeds_error (e : ε) : ¬Succeeds (.error e : Except ε α) := by
  rintro ⟨a, h⟩
  cases h

theorem succeeds_map {x : Except ε α} (f : α → β) : Succeeds (x.map f) ↔ Succeeds x := by
  cases x with
  | error e =>
    exact ⟨fun h => absurd h (not_succeeds_error e), fun h => absurd h (not_succeeds_error e)⟩
  | ok a => exact ⟨fun _ => succeeds_ok a, fun _ => succeeds_ok (f a)⟩

theorem succeeds_bind {x : Except ε α} {f : α → Except ε β} :
    Succeeds (x >>= f) ↔ ∃ a, x = .ok a ∧ Succeeds (f a) := by
  constructor
  · rintro ⟨b, hb⟩
    obtain ⟨a, ha, hf⟩ := bind_ok.1 hb
    exact ⟨a, ha, b, hf⟩
  · rintro ⟨a, ha, b, hb⟩
    exact ⟨b, bind_ok.2 ⟨a, ha, hb⟩⟩

end Succeeds

end Cxx
