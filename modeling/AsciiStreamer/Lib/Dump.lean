import AsciiStreamer.Lib.Json
import AsciiStreamer.Lib.Utf8

/-!
# Writing a JSON document

`dump` of nlohmann-json without indentation: it escapes what a string must escape and copies the
rest, byte for byte. A string that is not UTF-8 makes it throw; nothing else does (`dump_succeeds_iff`).
-/

namespace Cxx.Json

/-! ## Building -/

/-- `fields[key] = v`. The object keeps its keys in order. -/
def insertField (key : Bytes) (v : Json) : List (Bytes × Json) → List (Bytes × Json)
  | [] => [(key, v)]
  | (k, w) :: fields =>
    if key = k then (key, v) :: fields
    else if key < k then (key, v) :: (k, w) :: fields
    else (k, w) :: insertField key v fields

/-! ## Strings -/

def hexDigit (n : Nat) (letter : UInt8) : UInt8 :=
  if n < 10 then UInt8.ofNat (48 + n) else letter + UInt8.ofNat (n - 10)

def hexByte (letter c : UInt8) : Bytes :=
  [hexDigit (c.toNat / 16) letter, hexDigit (c.toNat % 16) letter]

def escapeByte (c : UInt8) : Bytes :=
  if c = 8 then lit "\\b"
  else if c = 9 then lit "\\t"
  else if c = 10 then lit "\\n"
  else if c = 12 then lit "\\f"
  else if c = 13 then lit "\\r"
  else if c = 34 then lit "\\\""
  else if c = 92 then lit "\\\\"
  else if c < 0x20 then lit "\\u00" ++ hexByte 97 c
  else [c]

def utf8Error (text : Bytes) (c : UInt8) : Exn :=
  .jsonError (lit "[json.exception.type_error.316] " ++ text ++ lit "0x" ++ hexByte 65 c)

/-- The rest of a string from its byte `i` on, `last` being the one before. -/
def escape (owed : Utf8.Owed) (i : Nat) (last : UInt8) : Bytes → Except Exn Bytes
  | [] => if owed = [] then .ok []
    else .error (utf8Error (lit "incomplete UTF-8 string; last byte: ") last)
  | c :: s => match Utf8.next owed c with
    | none => .error (utf8Error (lit "invalid UTF-8 byte at index " ++ natToDec i ++ lit ": ") c)
    | some owed => (escape owed (i + 1) c s).map (escapeByte c ++ ·)

def dumpString (s : Bytes) : Except Exn Bytes :=
  (escape [] 0 0 s).map fun t => lit "\"" ++ t ++ lit "\""

/-! ## Documents -/

section Dump

variable (printDouble : Rat → Bytes)

mutual

def dump : Json → Except Exn Bytes
  | null => .ok (lit "null")
  | boolean b => .ok (if b then lit "true" else lit "false")
  | integer z => .ok (intToDec z)
  | float q => .ok (printDouble q)
  | string s => dumpString s
  | array es => (dumpElements es).map fun ts => lit "[" ++ [44].intercalate ts ++ lit "]"
  | object fs => (dumpFields fs).map fun ts => lit "\x7b" ++ [44].intercalate ts ++ lit "\x7d"

def dumpElements : List Json → Except Exn (List Bytes)
  | [] => .ok []
  | j :: js => do
    let t ← dump j
    return t :: (← dumpElements js)

def dumpFields : List (Bytes × Json) → Except Exn (List Bytes)
  | [] => .ok []
  | (k, v) :: fs => do
    let key ← dumpString k
    let value ← dump v
    return (key ++ lit ":" ++ value) :: (← dumpFields fs)

end

end Dump

/-! ## When it throws -/

section Throws

theorem escape_succeeds_iff : ∀ (s : Bytes) (owed : Utf8.Owed) (i : Nat) (last : UInt8),
    Succeeds (escape owed i last s) ↔ Utf8.decode owed s = some []
  | [], owed, i, last => by
    have hd : Utf8.decode owed [] = some owed := rfl
    rw [hd, Option.some.injEq, escape]
    by_cases h : owed = []
    · simp only [h, ↓reduceIte, succeeds_ok]
    · simp only [h, ↓reduceIte, not_succeeds_error]
  | c :: s, owed, i, last => by
    have hd : Utf8.decode owed (c :: s) = (Utf8.next owed c).bind fun o => Utf8.decode o s :=
      List.foldlM_cons
    rw [hd, escape]
    cases Utf8.next owed c with
    | none => simp only [not_succeeds_error, Option.bind_none, reduceCtorEq]
    | some o =>
      rw [Option.bind_some]
      exact (succeeds_map _).trans (escape_succeeds_iff s o (i + 1) c)

theorem dumpString_succeeds_iff (s : Bytes) : Succeeds (dumpString s) ↔ Utf8.Valid s :=
  (succeeds_map _).trans (escape_succeeds_iff s [] 0 0)

mutual

/-- The strings of a document, its keys among them. -/
def strings : Json → List Bytes
  | string s => [s]
  | array es => elementStrings es
  | object fs => fieldStrings fs
  | _ => []

def elementStrings : List Json → List Bytes
  | [] => []
  | j :: js => strings j ++ elementStrings js

def fieldStrings : List (Bytes × Json) → List Bytes
  | [] => []
  | (k, v) :: fs => k :: (strings v ++ fieldStrings fs)

end

variable {printDouble : Rat → Bytes}

mutual

/-- **When `dump` throws**: exactly if one of the strings is not UTF-8. -/
theorem dump_succeeds_iff : ∀ j : Json,
    Succeeds (dump printDouble j) ↔ ∀ s ∈ strings j, Utf8.Valid s
  | null => by simp [dump, strings, succeeds_ok]
  | boolean b => by simp [dump, strings, succeeds_ok]
  | integer z => by simp [dump, strings, succeeds_ok]
  | float q => by simp [dump, strings, succeeds_ok]
  | string s => by
    rw [dump, dumpString_succeeds_iff, strings]
    exact List.forall_mem_singleton.symm
  | array es => by
    rw [dump, succeeds_map, strings]
    exact dumpElements_succeeds_iff es
  | object fs => by
    rw [dump, succeeds_map, strings]
    exact dumpFields_succeeds_iff fs

theorem dumpElements_succeeds_iff : ∀ js : List Json,
    Succeeds (dumpElements printDouble js) ↔ ∀ s ∈ elementStrings js, Utf8.Valid s
  | [] => by simp [dumpElements, elementStrings, succeeds_ok]
  | j :: js => by
    rw [dumpElements, elementStrings, List.forall_mem_append, ← dump_succeeds_iff j,
      ← dumpElements_succeeds_iff js, succeeds_bind]
    constructor
    · rintro ⟨t, ht, h⟩
      exact ⟨⟨t, ht⟩, (succeeds_map _).1 h⟩
    · rintro ⟨⟨t, ht⟩, h⟩
      exact ⟨t, ht, (succeeds_map _).2 h⟩

theorem dumpFields_succeeds_iff : ∀ fs : List (Bytes × Json),
    Succeeds (dumpFields printDouble fs) ↔ ∀ s ∈ fieldStrings fs, Utf8.Valid s
  | [] => by simp [dumpFields, fieldStrings, succeeds_ok]
  | (k, v) :: fs => by
    rw [dumpFields, fieldStrings, List.forall_mem_cons, List.forall_mem_append, ← dump_succeeds_iff v,
      ← dumpFields_succeeds_iff fs, ← dumpString_succeeds_iff k, succeeds_bind]
    constructor
    · rintro ⟨key, hkey, h⟩
      obtain ⟨value, hvalue, h⟩ := succeeds_bind.1 h
      exact ⟨⟨key, hkey⟩, ⟨value, hvalue⟩, (succeeds_map _).1 h⟩
    · rintro ⟨⟨key, hkey⟩, ⟨value, hvalue⟩, h⟩
      exact ⟨key, hkey, succeeds_bind.2 ⟨value, hvalue, (succeeds_map _).2 h⟩⟩

end

end Throws

end Cxx.Json
