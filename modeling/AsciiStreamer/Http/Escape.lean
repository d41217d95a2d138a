import Mathlib.Data.List.Nodup
import AsciiStreamer.Http.Handler

/-!
# What escapes from the handlers

A handler of the HTTP side returns exactly if the calls it makes outside of a `try` do
(`HttpEvent.Harmless`): the write, the calls on the file that a request deletes, and `dump`, which
throws if the name or the timestamp of a listed recording is not UTF-8. One other event ends `main`
(`main_runs_iff`).
-/

namespace AsciiStreamer

open Cxx Json HttpSession

/-- The loop over the recordings gets to the entry. -/
def Reached (entries : List DirEntry) (entry : DirEntry) : Prop :=
  ∃ pre post, entries = pre ++ entry :: post ∧ ∀ e ∈ pre, Succeeds e.listed

/-- What an entry says about its file is UTF-8. -/
structure DirEntry.Textual (entry : DirEntry) : Prop where
  filename : Utf8.Valid entry.filename
  timestamp : ∀ value, entry.timestamp = some value → Utf8.Valid value

/-- The calls a request makes before the write go well. -/
def RequestOk (env : HttpEnv) : Route → Prop
  | .api => Succeeds env.localEndpoint ∧ Utf8.Valid env.apiKey ∧
      if env.cloudTunnelUrl ≠ [] then Utf8.Valid (eraseScheme env.cloudTunnelUrl)
      else Utf8.Valid env.localIp
  | .tunnelStatus => Utf8.Valid env.cloudTunnelUrl
  | .recordings => ∀ entry, Reached env.directory.entries entry →
      ∀ fields, entry.listed = .ok (some fields) → entry.Textual
  | .deleteRecording filename => refusedName filename = false →
      ∃ found, env.fileExists (recordingPath filename) = .ok found ∧
        (found = true → Succeeds (env.remove (recordingPath filename)))
  | _ => True

/-- Nothing escapes from the handler. -/
def HttpEvent.Harmless (docRoot : Bytes) : HttpEvent → Prop
  | .accept ec remoteEndpoint => ec = none → Succeeds remoteEndpoint
  | .request env method target =>
    Succeeds env.write ∧ RequestOk env (route docRoot method target)

/-! ## The strings of a body -/

section Strings

variable {entry : DirEntry} {fields : List (Bytes × Json)}

theorem ascii_key : ∀ k ∈ [lit "duration", lit "filename", lit "frame_count",
    lit "last_modified", lit "size", lit "timestamp"], Utf8.Valid k := by
  decide

/-- Name and timestamp are all the text there is in a description. -/
theorem valid_fields_iff (i : FileInfo) : (∀ s ∈ fieldStrings i.fields, Utf8.Valid s) ↔
    Utf8.Valid i.filename ∧ ∀ value, i.timestamp = some value → Utf8.Valid value := by
  have hkeys := ascii_key
  simp only [List.forall_mem_cons] at hkeys
  obtain ⟨hduration, hfilename, hcount, hmodified, hsize, htimestamp, -⟩ := hkeys
  obtain ⟨filename, size, lastModified, _ | timestamp, _ | duration, _ | count⟩ := i <;>
    simp [FileInfo.fields, fieldStrings, strings, hduration, hfilename, hcount, hmodified, hsize,
      htimestamp]

theorem valid_listed_iff (h : entry.listed = .ok (some fields)) :
    (∀ s ∈ fieldStrings fields, Utf8.Valid s) ↔ entry.Textual := by
  obtain ⟨i, rfl, hname, htime⟩ := DirEntry.fileInfo_text (fileInfo_of_listed h)
  rw [valid_fields_iff, hname, htime]
  exact ⟨fun h => ⟨h.1, h.2⟩, fun h => ⟨h.filename, h.timestamp⟩⟩

theorem reached_cons {e : DirEntry} {es : List DirEntry} :
    Reached (e :: es) entry ↔ entry = e ∨ Succeeds e.listed ∧ Reached es entry := by
  constructor
  · rintro ⟨pre, post, heq, hpre⟩
    cases pre with
    | nil =>
      rw [List.nil_append, List.cons.injEq] at heq
      exact Or.inl heq.1.symm
    | cons x pre =>
      rw [List.cons_append, List.cons.injEq] at heq
      obtain ⟨rfl, heq⟩ := heq
      exact Or.inr ⟨hpre e List.mem_cons_self, pre, post, heq,
        fun x hx => hpre x (List.mem_cons_of_mem _ hx)⟩
  · rintro (rfl | ⟨he, pre, post, rfl, hpre⟩)
    · exact ⟨[], es, rfl, List.forall_mem_nil _⟩
    · exact ⟨e :: pre, post, rfl, List.forall_mem_cons.2 ⟨he, hpre⟩⟩

/-- **The text of the listing** is the text of the entries that the loop gets to. -/
theorem valid_listEntries_iff (entries : List DirEntry) :
    (∀ s ∈ elementStrings (listEntries entries), Utf8.Valid s) ↔
      ∀ entry, Reached entries entry →
        ∀ fields, entry.listed = .ok (some fields) → entry.Textual := by
  induction entries with
  | nil =>
    constructor
    · rintro - entry ⟨pre, post, heq, -⟩
      simp at heq
    · exact fun _ => List.forall_mem_nil _
  | cons e es ih =>
    simp only [reached_cons, forall_eq_or_imp, and_imp]
    rw [listEntries]
    cases he : e.listed with
    | error x =>
      simp only [elementStrings, List.not_mem_nil, not_succeeds_error, false_implies, reduceCtorEq,
        implies_true, and_self]
    | ok x =>
      have hok : Succeeds (.ok x : Except Exn (Option (List (Bytes × Json)))) := succeeds_ok x
      cases x with
      | none =>
        simp only [ih, hok, true_implies, Except.ok.injEq, reduceCtorEq, false_implies,
          implies_true, true_and]
      | some fields =>
        simp only [elementStrings, strings, List.forall_mem_append, ih, hok, true_implies,
          Except.ok.injEq, Option.some.injEq, forall_eq', valid_listed_iff he]

theorem valid_recordings_iff (d : Directory) : (∀ s ∈ strings (recordings d), Utf8.Valid s) ↔
    ∀ entry, Reached d.entries entry →
      ∀ fields, entry.listed = .ok (some fields) → entry.Textual := by
  rw [← valid_listEntries_iff]
  unfold recordings
  cases listEntries d.entries with
  | nil => simp only [strings, elementStrings]
  | cons j js => simp only [strings]

theorem natToDec_ascii (n : Nat) : Utf8.Ascii (natToDec n) := by
  intro c hc
  have hdigit := natToDec_isDigit hc
  simp only [isDigit, Bool.and_eq_true, decide_eq_true_eq] at hdigit
  exact UInt8.lt_of_le_of_lt hdigit.2 (by decide)

/-- Cameras are numbered, so their names are UTF-8. -/
theorem valid_cameras (opens : Nat → Bool) : ∀ s ∈ strings (cameras opens), Utf8.Valid s := by
  have hkey : Utf8.Valid (lit "index") ∧ Utf8.Valid (lit "name") := by decide
  have hname (n : Nat) : Utf8.Valid (lit "/dev/video" ++ natToDec n) :=
    (Utf8.valid_ascii_append (by decide) _).2 (Utf8.valid_of_ascii (natToDec_ascii n))
  have hobject (n : Nat) : ∀ s ∈ strings (.object (insertField (lit "name")
      (.string (lit "/dev/video" ++ natToDec n))
        (insertField (lit "index") (.integer n) []))), Utf8.Valid s := by
    have hstrings : strings (.object (insertField (lit "name")
        (.string (lit "/dev/video" ++ natToDec n))
          (insertField (lit "index") (.integer n) []))) =
        [lit "index", lit "name", lit "/dev/video" ++ natToDec n] := rfl
    rw [hstrings]
    simp only [List.forall_mem_cons, List.not_mem_nil, false_implies, implies_true, and_true]
    exact ⟨hkey.1, hkey.2, hname n⟩
  have harray : ∀ is : List Nat, ∀ s ∈ elementStrings ((is.map fun i =>
      (i, lit "/dev/video" ++ natToDec i)).map fun camera => .object
        (insertField (lit "name") (.string camera.2)
          (insertField (lit "index") (.integer camera.1) []))), Utf8.Valid s := by
    intro is
    induction is with
    | nil => exact List.forall_mem_nil _
    | cons i is ih => exact List.forall_mem_append.2 ⟨hobject i, ih⟩
  unfold cameras
  cases hc : listCameras opens with
  | nil => exact List.forall_mem_nil _
  | cons c cs =>
    have hall := harray ((List.range 10).filter opens)
    change ∀ s ∈ elementStrings ((listCameras opens).map _), Utf8.Valid s at hall
    rw [hc] at hall
    exact hall

theorem valid_tunnelEndpoint_iff (tunnelUrl : Bytes) :
    Utf8.Valid (tunnelEndpoint tunnelUrl) ↔ Utf8.Valid (eraseScheme tunnelUrl) := by
  unfold tunnelEndpoint
  rw [Utf8.valid_append_ascii (by decide), Utf8.valid_ascii_append (by decide)]

theorem valid_localAddress_iff (localIp : Bytes) (port : Nat) :
    Utf8.Valid (localAddress localIp port) ↔ Utf8.Valid localIp := by
  unfold localAddress
  rw [Utf8.valid_append_ascii (by decide), Utf8.valid_append_ascii (natToDec_ascii port),
    Utf8.valid_append_ascii (by decide), Utf8.valid_ascii_append (by decide)]

theorem valid_api_iff (env : HttpEnv) (port : Nat) : (∀ s ∈ strings (api env port), Utf8.Valid s) ↔
    Utf8.Valid env.apiKey ∧ if env.cloudTunnelUrl ≠ [] then
      Utf8.Valid (eraseScheme env.cloudTunnelUrl) else Utf8.Valid env.localIp := by
  have hkey : Utf8.Valid (lit "api_key") ∧ Utf8.Valid (lit "endpoint") := by decide
  have hstrings (endpoint : Bytes) : strings (.object (insertField (lit "endpoint")
      (.string endpoint) (insertField (lit "api_key") (.string env.apiKey) []))) =
        [lit "api_key", env.apiKey, lit "endpoint", endpoint] := rfl
  unfold api
  simp only [hstrings, List.forall_mem_cons, List.not_mem_nil, false_implies, implies_true,
    and_true, hkey, true_and]
  split
  · rw [valid_tunnelEndpoint_iff]
  · rw [valid_localAddress_iff]

theorem valid_tunnelStatus_iff (tunnelUrl : Bytes) :
    (∀ s ∈ strings (tunnelStatus tunnelUrl), Utf8.Valid s) ↔ Utf8.Valid tunnelUrl := by
  have hkey : Utf8.Valid (lit "available") ∧ Utf8.Valid (lit "url") := by decide
  have hstrings : strings (tunnelStatus tunnelUrl) =
      [lit "available", lit "url", tunnelUrl] := rfl
  simp only [hstrings, List.forall_mem_cons, List.not_mem_nil, false_implies, implies_true,
    and_true, hkey, true_and]

theorem valid_testTunnel (tunnelUrl : Bytes) :
    ∀ s ∈ strings (testTunnel tunnelUrl), Utf8.Valid s := by
  unfold testTunnel
  split <;> decide

end Strings

/-! ## What escapes -/

section Escape

variable {env : HttpEnv} {docRoot target : Bytes} {method : Verb}

theorem write_succeeds_iff (res : Response) :
    Succeeds (HttpSession.write env res) ↔ Succeeds env.write := succeeds_map _

theorem sendJson_succeeds_iff (j : Json) : Succeeds (sendJson env j) ↔
    Succeeds env.write ∧ ∀ s ∈ strings j, Utf8.Valid s := by
  unfold sendJson
  rw [succeeds_bind, ← @dump_succeeds_iff env.printDouble]
  simp only [write_succeeds_iff]
  constructor
  · rintro ⟨body, hbody, hwrite⟩
    exact ⟨hwrite, body, hbody⟩
  · rintro ⟨hwrite, body, hbody⟩
    exact ⟨body, hbody, hwrite⟩

theorem deleteRecording_succeeds_iff (filename : Bytes) :
    Succeeds (deleteRecording env filename) ↔
      Succeeds env.write ∧ RequestOk env (.deleteRecording filename) := by
  unfold deleteRecording
  cases hr : refusedName filename with
  | true =>
    simp only [↓reduceIte, write_succeeds_iff, RequestOk, hr, reduceCtorEq, false_implies, and_true]
  | false =>
    simp only [Bool.false_eq_true, ↓reduceIte, succeeds_bind, RequestOk, hr, true_implies]
    constructor
    · rintro ⟨found, hfound, h⟩
      cases found with
      | true =>
        obtain ⟨removed, hremoved, h⟩ := succeeds_bind.1 h
        exact ⟨(write_succeeds_iff _).1 h, true, hfound, fun _ => ⟨removed, hremoved⟩⟩
      | false => exact ⟨(write_succeeds_iff _).1 h, false, hfound, fun h => absurd h (by decide)⟩
    · rintro ⟨hwrite, found, hfound, hremove⟩
      refine ⟨found, hfound, ?_⟩
      cases found with
      | true =>
        obtain ⟨removed, hremoved⟩ := hremove rfl
        exact succeeds_bind.2 ⟨removed, hremoved, (write_succeeds_iff _).2 hwrite⟩
      | false => exact (write_succeeds_iff _).2 hwrite

/-- What escapes from a request, route by route. -/
theorem handleRequest_succeeds_iff : Succeeds (handleRequest env docRoot method target) ↔
    Succeeds env.write ∧ RequestOk env (route docRoot method target) := by
  unfold handleRequest
  cases route docRoot method target with
  | options => simp only [write_succeeds_iff, RequestOk, and_true]
  | file path => simp only [write_succeeds_iff, RequestOk, and_true]
  | cameras =>
    simp only [sendJson_succeeds_iff, RequestOk, and_true]
    exact and_iff_left (valid_cameras env.opens)
  | testTunnel =>
    simp only [sendJson_succeeds_iff, RequestOk, and_true]
    exact and_iff_left (valid_testTunnel env.cloudTunnelUrl)
  | tunnelStatus => simp only [sendJson_succeeds_iff, RequestOk, valid_tunnelStatus_iff]
  | recordings => simp only [sendJson_succeeds_iff, RequestOk, valid_recordings_iff]
  | deleteRecording filename => exact deleteRecording_succeeds_iff filename
  | api =>
    simp only [succeeds_bind, sendJson_succeeds_iff, valid_api_iff, RequestOk]
    constructor
    · rintro ⟨port, hport, hwrite, htext⟩
      exact ⟨hwrite, ⟨port, hport⟩, htext⟩
    · rintro ⟨hwrite, ⟨port, hport⟩, htext⟩
      exact ⟨port, hport, hwrite, htext⟩

theorem harmless_iff (e : HttpEvent) : Succeeds (e.run docRoot) ↔ e.Harmless docRoot := by
  cases e with
  | request env method target => exact (succeeds_map _).trans handleRequest_succeeds_iff
  | accept ec remoteEndpoint =>
    refine (succeeds_map _).trans ?_
    cases ec with
    | none =>
      refine (succeeds_map _).trans ?_
      simp only [HttpEvent.Harmless, true_implies]
    | some ec => simp only [acceptHandler, succeeds_ok, HttpEvent.Harmless, reduceCtorEq, false_implies]

/-- **What brings the server down**: `main` keeps running through a series of connections and
requests exactly if every one of them is harmless. -/
theorem main_runs_iff (docRoot : Bytes) (events : List HttpEvent) :
    main docRoot events = none ↔ ∀ e ∈ events, e.Harmless docRoot := by
  have hforM : ∀ es : List HttpEvent, Succeeds (es.forM (HttpEvent.run docRoot)) ↔
      ∀ e ∈ es, e.Harmless docRoot := by
    intro es
    induction es with
    | nil => exact ⟨fun _ => List.forall_mem_nil _, fun _ => succeeds_ok _⟩
    | cons e es ih =>
      have hcons : (e :: es).forM (HttpEvent.run docRoot) =
          (e.run docRoot >>= fun _ => es.forM (HttpEvent.run docRoot)) := rfl
      rw [hcons, succeeds_bind, List.forall_mem_cons, ← harmless_iff, ← ih]
      constructor
      · rintro ⟨u, hu, h⟩
        exact ⟨⟨u, hu⟩, h⟩
      · rintro ⟨⟨u, hu⟩, h⟩
        exact ⟨u, hu, h⟩
  rw [← hforM, main]
  cases events.forM (HttpEvent.run docRoot) with
  | ok u => exact ⟨fun _ => succeeds_ok u, fun _ => rfl⟩
  | error e => exact ⟨fun h => (nomatch h), fun h => absurd h (not_succeeds_error e)⟩

/-- A recording with a byte in its timestamp that is not UTF-8. -/
def badTimestamp : DirEntry where
  filename := lit "a.asr"
  isRegularFile := .ok true
  fileSize := .ok 48
  lastWriteTime := .ok 0
  content := some (lit "ASCII_STREAM_RECORD\ntimestamp:" ++ 0xFF :: lit "\nframes:\n")

/-- Nothing else goes wrong. -/
def badTimestampEnv : HttpEnv where
  opens _ := false
  apiKey := lit "key"
  localEndpoint := .ok 8080
  localIp := lit "127.0.0.1"
  cloudTunnelUrl := []
  directory := ⟨[badTimestamp], List.nodup_singleton _⟩
  fileExists _ := .ok true
  remove _ := .ok true
  files _ := none
  cwd := []
  write := .ok ()
  printDouble _ := []

/-- Whoever asks for the listing ends the server. -/
theorem main_ends_badTimestamp :
    main (lit "../web") [.request badTimestampEnv .other (lit "/recordings")] = some 1 := by
  decide +kernel

end Escape

end AsciiStreamer
