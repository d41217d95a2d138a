import AsciiStreamer.Recording.PlaybackController

/-!
# The recording format, as the player reads it

`Metadata` and `Frames` are the grammar of the two sections behind the first line of a recording:
metadata lines up to the line `frames:`, then complete frame records up to the end of the file or
to a line that is no frame header. `Frames` carries the list of records it is made of. The section
lemmas say what the player does on a stream that stands at such a section, and what it does on one
that stands at no such section: `loadRecording_cases` for the metadata, `readNextFrame_nil`,
`readNextFrame_cons` and `readNextFrame_stray` for the frames.
-/

namespace AsciiStreamer

open Cxx

/-! ## Grammar -/

/-- A metadata line whose number, if it has one, fits an `int`. -/
def FieldOk (l : Bytes) : Prop :=
  ∀ c, find colon l 0 = some c →
    substr l 0 c = lit "end_time" ∨ substr l 0 c = lit "frame_count" →
      ∃ z, stoi (substrFrom l (c + 1)) = .ok z

/-- `Metadata s body`: the metadata `s` ends with a line `frames:`, behind which `body` starts. -/
inductive Metadata : Bytes → Bytes → Prop
  | last : Metadata (lit "frames:") []
  | frames (body : Bytes) : Metadata (lit "frames:" ++ newline :: body) body
  | line {l r body : Bytes} : newline ∉ l → l ≠ lit "frames:" → FieldOk l → Metadata r body →
      Metadata (l ++ newline :: r) body

/-- `Frames P s fs`: the frame section `s` holds the records `fs`, each with its timestamp. -/
inductive Frames (P : Platform) : Bytes → List (Int × Bytes) → Prop
  | last {l : Bytes} : newline ∉ l → frameHeader l = none → Frames P l []
  | footer {l : Bytes} (r : Bytes) : newline ∉ l → frameHeader l = none →
      Frames P (l ++ newline :: r) []
  | frame {h ts len payload rest : Bytes} {t : Int} {fs : List (Int × Bytes)} : newline ∉ h →
      frameHeader h = some (ts, len) → stoll ts = .ok t → stoul len = .ok payload.length →
      payload.length ≤ P.maxSize → Frames P rest.tail fs →
      Frames P (h ++ newline :: (payload ++ rest)) ((t, payload) :: fs)

theorem Frames.nil (P : Platform) : Frames P [] [] := .last (by simp) rfl

/-! ## The metadata -/

section Metadata

theorem metadataLine_ok (info : RecordingInfo) {l : Bytes} (h : FieldOk l) :
    ∃ info', metadataLine info l = .ok info' := by
  unfold metadataLine
  cases hc : find colon l 0 with
  | none => exact ⟨info, rfl⟩
  | some c =>
    simp only
    by_cases h1 : substr l 0 c = lit "timestamp"
    · exact ⟨_, if_pos h1⟩
    · rw [if_neg h1]
      by_cases h2 : substr l 0 c = lit "end_time"
      · obtain ⟨z, hz⟩ := h c hc (Or.inl h2)
        exact ⟨{ info with duration := z }, by rw [if_pos h2, hz]; rfl⟩
      · rw [if_neg h2]
        by_cases h3 : substr l 0 c = lit "frame_count"
        · obtain ⟨z, hz⟩ := h c hc (Or.inr h3)
          exact ⟨{ info with frameCount := z }, by rw [if_pos h3, hz]; rfl⟩
        · exact ⟨info, if_neg h3⟩

theorem metadataLine_error (info : RecordingInfo) {l : Bytes} (h : ¬FieldOk l) :
    ∃ e, metadataLine info l = .error e := by
  unfold FieldOk at h
  push Not at h
  obtain ⟨c, hc, hkey, hz⟩ := h
  have herr : ∃ e, stoi (substrFrom l (c + 1)) = .error e := by
    cases hs : stoi (substrFrom l (c + 1)) with
    | error e => exact ⟨e, rfl⟩
    | ok z => exact absurd hs (hz z)
  obtain ⟨e, he⟩ := herr
  refine ⟨e, ?_⟩
  unfold metadataLine
  simp only [hc]
  rcases hkey with hkey | hkey <;> rw [hkey, he] <;> rfl

/-- The stream can be read and stands at `s`. -/
structure At (f : IFStream) (s : Bytes) : Prop where
  isOpen : f.isOpen = true
  good : f.good = true
  rest : f.rest = s

/-- The stream has not failed and what an extraction can still get from it is `s`. -/
structure Cursor (f : IFStream) (s : Bytes) : Prop where
  isOpen : f.isOpen = true
  fail : f.fail = false
  rest : (f.eof = false ∧ f.rest = s) ∨ (f.eof = true ∧ s = [])

theorem At.cursor {f : IFStream} {s : Bytes} (h : At f s) : Cursor f s :=
  ⟨h.isOpen, (IFStream.good_iff.1 h.good).2, Or.inl ⟨(IFStream.good_iff.1 h.good).1, h.rest⟩⟩

/-- A line of the file, read from a stream that stands at it. -/
theorem At.getline {f : IFStream} {l r : Bytes} (h : At f (l ++ newline :: r)) (hl : newline ∉ l)
    (str : Bytes) : ∃ f', f.getline str = (f', l) ∧ At f' r ∧ f'.data = f.data :=
  ⟨_, IFStream.getline_line h.good h.rest hl str, ⟨h.isOpen, h.good, rfl⟩, rfl⟩

/-- The last line of a file that does not end in a newline. -/
theorem At.getline_last {f : IFStream} {l : Bytes} (h : At f l) (hl : newline ∉ l) (str : Bytes) :
    ∃ f', f.getline str = (f', l) ∧ f'.isOpen = true ∧ f'.eof = true ∧ f'.fail = l.isEmpty ∧
      f'.data = f.data := by
  have hg := IFStream.getline_last h.good (h.rest ▸ hl) str
  rw [h.rest] at hg
  exact ⟨_, hg, h.isOpen, rfl, rfl, rfl⟩

theorem frames_line : newline ∉ lit "frames:" := by decide

theorem readMetadata_of_metadata {s body : Bytes} (h : Metadata s body) :
    ∀ {fuel : Nat} {f : IFStream}, At f s → s.length < fuel → ∀ (line : Bytes)
      (info : RecordingInfo), ∃ f' info', readMetadata fuel f line info = (f', info', none) ∧
        f'.isOpen = true ∧ f'.fail = false ∧ f'.data = f.data := by
  induction h with
  | last =>
    intro fuel f hf hfuel line info
    obtain ⟨fuel, rfl⟩ : ∃ n, fuel = n + 1 := ⟨fuel - 1, by omega⟩
    obtain ⟨f', hg, ho, -, hfail, hd⟩ := hf.getline_last frames_line line
    refine ⟨f', info, ?_, ho, hfail, hd⟩
    simp [readMetadata, hg]
  | frames body =>
    intro fuel f hf hfuel line info
    obtain ⟨fuel, rfl⟩ : ∃ n, fuel = n + 1 := ⟨fuel - 1, by omega⟩
    obtain ⟨f', hg, hat, hd⟩ := hf.getline frames_line line
    refine ⟨f', info, ?_, hat.isOpen, hat.cursor.fail, hd⟩
    simp [readMetadata, hg]
  | @line l r body hl hne hok _ ih =>
    intro fuel f hf hfuel line info
    obtain ⟨fuel, rfl⟩ : ∃ n, fuel = n + 1 := ⟨fuel - 1, by omega⟩
    obtain ⟨f', hg, hat, hd⟩ := hf.getline hl line
    obtain ⟨info', hinfo⟩ := metadataLine_ok info hok
    have hfuel' : r.length < fuel := by
      simp only [List.length_append, List.length_cons] at hfuel
      omega
    obtain ⟨f'', info'', hrec, ho, hfail, hd'⟩ := ih hat hfuel' l info'
    refine ⟨f'', info'', ?_, ho, hfail, hd'.trans hd⟩
    have hstop : (f'.fail || l == lit "frames:") = false := by
      simp [hat.cursor.fail, hne]
    simp only [readMetadata, hg, hstop, hinfo, Bool.false_eq_true, ↓reduceIte]
    exact hrec

theorem skipToFrames_of_metadata {s body : Bytes} (h : Metadata s body) :
    ∀ {fuel : Nat} {f : IFStream}, At f s → s.length < fuel → ∀ (line : Bytes),
      Cursor (skipToFrames fuel f line) body ∧ (skipToFrames fuel f line).data = f.data := by
  induction h with
  | last =>
    intro fuel f hf hfuel line
    obtain ⟨fuel, rfl⟩ : ∃ n, fuel = n + 1 := ⟨fuel - 1, by omega⟩
    obtain ⟨f', hg, ho, heof, hfail, hd⟩ := hf.getline_last frames_line line
    have hskip : skipToFrames (fuel + 1) f line = f' := by simp [skipToFrames, hg]
    rw [hskip]
    exact ⟨⟨ho, hfail, Or.inr ⟨heof, rfl⟩⟩, hd⟩
  | frames body =>
    intro fuel f hf hfuel line
    obtain ⟨fuel, rfl⟩ : ∃ n, fuel = n + 1 := ⟨fuel - 1, by omega⟩
    obtain ⟨f', hg, hat, hd⟩ := hf.getline frames_line line
    have hskip : skipToFrames (fuel + 1) f line = f' := by simp [skipToFrames, hg]
    rw [hskip]
    exact ⟨hat.cursor, hd⟩
  | @line l r body hl hne _ _ ih =>
    intro fuel f hf hfuel line
    obtain ⟨fuel, rfl⟩ : ∃ n, fuel = n + 1 := ⟨fuel - 1, by omega⟩
    obtain ⟨f', hg, hat, hd⟩ := hf.getline hl line
    have hfuel' : r.length < fuel := by
      simp only [List.length_append, List.length_cons] at hfuel
      omega
    have hstop : (f'.fail || l == lit "frames:") = false := by
      simp [hat.cursor.fail, hne]
    have hskip : skipToFrames (fuel + 1) f line = skipToFrames fuel f' l := by
      simp only [skipToFrames, hg, hstop, Bool.false_eq_true, ↓reduceIte]
    rw [hskip, ← hd]
    exact ih hat hfuel' l

theorem readMetadata_of_not_good {f : IFStream} (hf : f.good = false) (fuel : Nat) (line : Bytes)
    (info : RecordingInfo) :
    readMetadata (fuel + 1) f line info = ({ f with fail := true }, info, none) := by
  simp [readMetadata, IFStream.getline_of_not_good hf]

/-- Where no metadata section stands, the scan throws or runs into the end of the file. -/
theorem readMetadata_stray {s : Bytes} (h : ∀ body, ¬Metadata s body) :
    ∀ {fuel : Nat} {f : IFStream}, At f s → s.length < fuel → ∀ (line : Bytes)
      (info : RecordingInfo), (∃ f' info' e, readMetadata fuel f line info = (f', info', some e)) ∨
        ∃ f' info', readMetadata fuel f line info = (f', info', none) ∧ f'.isOpen = true ∧
          f'.fail = true := by
  induction hn : s.length using Nat.strong_induction_on generalizing s with
  | _ n ih =>
    intro fuel f hf hfuel line info
    obtain ⟨fuel, rfl⟩ : ∃ m, fuel = m + 1 := ⟨fuel - 1, by omega⟩
    rcases line_cases s with hs | ⟨l, r, hl, rfl⟩
    · obtain ⟨f', hg, ho, heof, hfail, -⟩ := hf.getline_last hs line
      have hne : s ≠ lit "frames:" := fun e => h [] (e ▸ .last)
      by_cases hemp : s = []
      · right
        subst hemp
        exact ⟨f', info, by simp [readMetadata, hg, hfail], ho, hfail⟩
      · have hstop : (f'.fail || s == lit "frames:") = false := by simp [hfail, hemp, hne]
        by_cases hok : FieldOk s
        · right
          obtain ⟨info', hinfo⟩ := metadataLine_ok info hok
          obtain ⟨fuel, rfl⟩ : ∃ m, fuel = m + 1 := by
            have : 0 < s.length := List.length_pos_of_ne_nil hemp
            exact ⟨fuel - 1, by omega⟩
          have hbad : f'.good = false := by simp [IFStream.good, heof]
          refine ⟨{ f' with fail := true }, info', ?_, ho, rfl⟩
          rw [readMetadata, hg]
          simp only [hstop, hinfo, Bool.false_eq_true, ↓reduceIte]
          exact readMetadata_of_not_good hbad fuel s info'
        · left
          obtain ⟨e, he⟩ := metadataLine_error info hok
          refine ⟨f', info, e, ?_⟩
          simp only [readMetadata, hg, hstop, he, Bool.false_eq_true, ↓reduceIte]
    · obtain ⟨f', hg, hat, -⟩ := hf.getline hl line
      have hne : l ≠ lit "frames:" := by
        rintro rfl
        exact h r (.frames r)
      have hstop : (f'.fail || l == lit "frames:") = false := by
        simp [hat.cursor.fail, hne]
      by_cases hok : FieldOk l
      · obtain ⟨info', hinfo⟩ := metadataLine_ok info hok
        simp only [List.length_append, List.length_cons] at hn hfuel
        have hrec := ih r.length (by omega) (fun body hb => h body (.line hl hne hok hb)) rfl hat
          (show r.length < fuel by omega) l info'
        simpa only [readMetadata, hg, hstop, hinfo, Bool.false_eq_true, ↓reduceIte] using hrec
      · left
        obtain ⟨e, he⟩ := metadataLine_error info hok
        refine ⟨f', info, e, ?_⟩
        simp only [readMetadata, hg, hstop, he, Bool.false_eq_true, ↓reduceIte]

theorem skipToFrames_fail {f : IFStream} (hf : f.fail = true) (fuel : Nat) (line : Bytes) :
    skipToFrames (fuel + 1) f line = f := by
  have hg : f.good = false := by simp [IFStream.good, hf]
  have hsame : { f with fail := true } = f := by rw [← hf]
  rw [skipToFrames, IFStream.getline_of_not_good hg, hsame]
  simp [hf]

end Metadata

/-! ## Loading -/

section Load

def magic : Bytes := lit "ASCII_STREAM_RECORD"

variable {p : PlaybackController} {d : Bytes}

theorem IFStream.open_at {f : IFStream} (h : f.isOpen = false) (d : Bytes) :
    At (f.open' (some d)) d ∧ (f.open' (some d)).data = d := by
  simp only [IFStream.open', h, Bool.false_eq_true, ↓reduceIte]
  exact ⟨⟨rfl, rfl, rfl⟩, trivial⟩

theorem Metadata.of_header {r body : Bytes} (h : Metadata r body) :
    Metadata (magic ++ newline :: r) body :=
  .line (by decide) (by decide) (fun c hc => by simp [show find colon magic 0 = none from rfl] at hc) h

/-- A file with the right first line and metadata loads, and leaves the cursor at its frames. -/
theorem loadRecording_of_metadata (hp : p.stopPlayback.playbackFile.isOpen = false) {r body : Bytes}
    (hm : Metadata r body) (name : Bytes) :
    ∃ f info, p.loadRecording name (some (magic ++ newline :: r)) =
        ({ p.stopPlayback with playbackFile := f, currentRecordingInfo := info }, .ok true) ∧
      Cursor f body ∧ f.data = magic ++ newline :: r := by
  obtain ⟨hat, hdata⟩ := IFStream.open_at hp (magic ++ newline :: r)
  obtain ⟨f₁, hg, hat₁, hd₁⟩ := hat.getline (by decide : newline ∉ magic) []
  have hfuel : r.length < f₁.rest.length + 1 := by rw [hat₁.rest]; omega
  obtain ⟨f₂, info, hread, ho₂, hfail₂, hd₂⟩ :=
    readMetadata_of_metadata hm hat₁ hfuel [] { filename := name }
  have hat₃ : At f₂.seekEnd.seekBeg (magic ++ newline :: r) := by
    refine ⟨?_, ?_, ?_⟩ <;> simp only [IFStream.seekEnd, IFStream.seekBeg, hfail₂,
      Bool.false_eq_true, ↓reduceIte]
    · exact ho₂
    · simp [IFStream.good]
    · exact hd₂.trans (hd₁.trans hdata)
  have hskip := skipToFrames_of_metadata hm.of_header hat₃
    (show _ < f₂.seekEnd.seekBeg.rest.length + 1 by rw [hat₃.rest]; omega) []
  refine ⟨_, { info with fileSize := (f₂.seekEnd.tellg % 2 ^ 64).toNat }, ?_, hskip.1, ?_⟩
  · have hopen : (p.stopPlayback.playbackFile.open' (some (magic ++ newline :: r))).isOpen = true :=
      hat.isOpen
    unfold PlaybackController.loadRecording
    simp only [hopen, Bool.not_true, Bool.false_eq_true, ↓reduceIte, hg, hread]
    rw [if_neg (by exact fun h => h rfl)]
  · rw [hskip.2]
    simp only [IFStream.seekEnd, IFStream.seekBeg, hfail₂, Bool.false_eq_true, ↓reduceIte]
    exact hd₂.trans (hd₁.trans hdata)

/-- A file with another first line is refused and closed. -/
theorem loadRecording_of_header_ne (hp : p.stopPlayback.playbackFile.isOpen = false)
    (hd : (splitLine d).1 ≠ magic) (name : Bytes) :
    ∃ f, p.loadRecording name (some d) = ({ p.stopPlayback with playbackFile := f }, .ok false) ∧
      f.isOpen = false := by
  obtain ⟨hat, -⟩ := IFStream.open_at hp d
  have hline : ((p.stopPlayback.playbackFile.open' (some d)).getline []).2 = (splitLine d).1 := by
    simp only [IFStream.getline, hat.good, ↓reduceIte, hat.rest]
    split <;> simp [*]
  have ho : ((p.stopPlayback.playbackFile.open' (some d)).getline []).1.isOpen = true := by
    rw [IFStream.getline_isOpen, hat.isOpen]
  rcases hg : (p.stopPlayback.playbackFile.open' (some d)).getline [] with ⟨f, header⟩
  rw [hg] at hline ho
  refine ⟨f.close, ?_, ?_⟩
  · unfold PlaybackController.loadRecording
    simp only [hat.isOpen, Bool.not_true, Bool.false_eq_true, ↓reduceIte, hg]
    rw [if_pos (by rw [show header = (splitLine d).1 from hline]; exact hd)]
  · simp only [IFStream.close, show f.isOpen = true from ho, ↓reduceIte]

/-- A file with the right first line and no metadata section behind it makes the load throw, or
is accepted with a stream that has failed. -/
theorem loadRecording_stray (hp : p.stopPlayback.playbackFile.isOpen = false)
    (hd : (splitLine d).1 = magic) (hm : ∀ r body, d = magic ++ newline :: r → ¬Metadata r body)
    (name : Bytes) :
    (∃ p' e, p.loadRecording name (some d) = (p', .error e)) ∨
      ∃ f info, p.loadRecording name (some d) =
          ({ p.stopPlayback with playbackFile := f, currentRecordingInfo := info }, .ok true) ∧
        f.isOpen = true ∧ f.fail = true := by
  obtain ⟨hat, -⟩ := IFStream.open_at hp d
  -- what remains to be shown once the first scan has run into the end of the file
  have tail : ∀ {f₁ f₂ : IFStream} {info : RecordingInfo},
      (p.stopPlayback.playbackFile.open' (some d)).getline [] = (f₁, magic) →
      readMetadata (f₁.rest.length + 1) f₁ [] { filename := name } = (f₂, info, none) →
      f₂.isOpen = true → f₂.fail = true →
      ∃ f info, p.loadRecording name (some d) =
          ({ p.stopPlayback with playbackFile := f, currentRecordingInfo := info }, .ok true) ∧
        f.isOpen = true ∧ f.fail = true := by
    intro f₁ f₂ info hg hread ho hfail
    have hfail' : f₂.seekEnd.seekBeg.fail = true := by
      simp [IFStream.seekEnd, IFStream.seekBeg, hfail]
    refine ⟨f₂.seekEnd.seekBeg, { info with fileSize := (f₂.seekEnd.tellg % 2 ^ 64).toNat }, ?_, ?_,
      hfail'⟩
    · unfold PlaybackController.loadRecording
      simp only [hat.isOpen, Bool.not_true, Bool.false_eq_true, ↓reduceIte, hg, hread,
        skipToFrames_fail hfail']
      rw [if_neg (by exact fun h => h rfl)]
    · simp [IFStream.seekEnd, IFStream.seekBeg, hfail, ho]
  rcases line_cases d with hline | ⟨l, r, hl, rfl⟩
  · rw [splitLine_of_not_mem hline] at hd
    obtain ⟨f₁, hg, ho, heof, -, -⟩ := hat.getline_last hline []
    have hbad : f₁.good = false := by simp [IFStream.good, heof]
    exact Or.inr (tail (hd ▸ hg) (readMetadata_of_not_good hbad _ _ _) ho rfl)
  · rw [splitLine_cons_newline hl] at hd
    subst hd
    obtain ⟨f₁, hg, hat₁, -⟩ := hat.getline hl []
    have hfuel : r.length < f₁.rest.length + 1 := by rw [hat₁.rest]; omega
    rcases readMetadata_stray (fun body => hm r body rfl) hat₁ hfuel [] { filename := name } with
      ⟨f₂, info, e, hread⟩ | ⟨f₂, info, hread, ho, hfail⟩
    · left
      refine ⟨{ p.stopPlayback with playbackFile := f₂, currentRecordingInfo := info }, e, ?_⟩
      unfold PlaybackController.loadRecording
      simp only [hat.isOpen, Bool.not_true, Bool.false_eq_true, ↓reduceIte, hg, hread]
      rw [if_neg (by exact fun h => h rfl)]
    · exact Or.inr (tail hg hread ho hfail)

end Load

/-! ## Reading frames -/

section Read

variable {P : Platform} {p : PlaybackController} {s : Bytes}

theorem readNextFrame_eq (hplay : p.isPlaying = true) (hpause : p.isPaused = false)
    (hfail : p.playbackFile.fail = false) {f : IFStream} {h : Bytes}
    (hg : p.playbackFile.getline [] = (f, h)) (hf : f.fail = false) :
    p.readNextFrame P = p.readFrame P f h := by
  simp only [PlaybackController.readNextFrame, hplay, hpause, hfail, Bool.not_true, Bool.or_self,
    Bool.false_eq_true, ↓reduceIte, hg, hf]

theorem readFrame_none {h : Bytes} (hh : frameHeader h = none) (f : IFStream) :
    p.readFrame P f h = { self := { p with playbackFile := f }.stopPlayback } := by
  rw [PlaybackController.readFrame, hh]

theorem readFrame_some {h ts len : Bytes} (hh : frameHeader h = some (ts, len)) {t : Int} {n : Nat}
    (ht : stoll ts = .ok t) (hlen : stoul len = .ok n) (hmax : n ≤ P.maxSize) (f : IFStream) :
    p.readFrame P f h = p.deliverFrame P f t n := by
  simp only [PlaybackController.readFrame, hh, ht, hlen, Nat.not_lt.2 hmax, ↓reduceIte]

/-- A header with its two colons makes the player throw, or its numbers are in range. -/
theorem readFrame_cases {h ts len : Bytes} (hh : frameHeader h = some (ts, len)) (f : IFStream) :
    (∃ e, p.readFrame P f h = { self := { p with playbackFile := f }, exn := some e }) ∨
      ∃ t n, stoll ts = .ok t ∧ stoul len = .ok n ∧ n ≤ P.maxSize := by
  cases ht : stoll ts with
  | error e => exact Or.inl ⟨e, by simp only [PlaybackController.readFrame, hh, ht]⟩
  | ok t =>
    cases hlen : stoul len with
    | error e => exact Or.inl ⟨e, by simp only [PlaybackController.readFrame, hh, ht, hlen]⟩
    | ok n =>
      by_cases hmax : P.maxSize < n
      · exact Or.inl ⟨.lengthError (lit "basic_string::_M_create"), by
          simp only [PlaybackController.readFrame, hh, ht, hlen, hmax, ↓reduceIte]⟩
      · exact Or.inr ⟨t, n, rfl, rfl, Nat.not_lt.1 hmax⟩

theorem stopPlayback_eq (hplay : p.isPlaying = true) {f : IFStream} (ho : f.isOpen = true) :
    { p with playbackFile := f }.stopPlayback =
      { p with
        isPlaying := false
        isPaused := false
        playbackTimer := p.playbackTimer.cancel
        playbackFile := f.close } := by
  simp [PlaybackController.stopPlayback, hplay, ho]

theorem close_isOpen {f : IFStream} (ho : f.isOpen = true) : f.close.isOpen = false := by
  simp [IFStream.close, ho]

theorem close_data {f : IFStream} (ho : f.isOpen = true) : f.close.data = f.data := by
  simp [IFStream.close, ho]

/-- At the end of the frames the player stops: the timer is cancelled and the file closed. -/
theorem readNextFrame_nil (hplay : p.isPlaying = true) (hpause : p.isPaused = false)
    (hc : Cursor p.playbackFile s) (hs : Frames P s []) :
    ∃ f, p.readNextFrame P = { self := { p with
        isPlaying := false
        isPaused := false
        playbackTimer := p.playbackTimer.cancel
        playbackFile := f } } ∧ f.isOpen = false ∧ f.data = p.playbackFile.data := by
  -- the line that stops the player, wherever it comes from
  have stop : ∀ {f : IFStream} {h : Bytes}, p.playbackFile.getline [] = (f, h) →
      f.isOpen = true → f.data = p.playbackFile.data →
      (f.fail = true ∨ f.fail = false ∧ frameHeader h = none) →
      ∃ f, p.readNextFrame P = { self := { p with
          isPlaying := false
          isPaused := false
          playbackTimer := p.playbackTimer.cancel
          playbackFile := f } } ∧ f.isOpen = false ∧ f.data = p.playbackFile.data := by
    intro f h hg ho hd hcase
    refine ⟨f.close, ?_, close_isOpen ho, (close_data ho).trans hd⟩
    rw [← stopPlayback_eq hplay ho]
    rcases hcase with hf | ⟨hf, hh⟩
    · simp [PlaybackController.readNextFrame, hplay, hpause, hc.fail, hg, hf]
    · rw [readNextFrame_eq hplay hpause hc.fail hg hf, readFrame_none hh]
  rcases hc.rest with ⟨heof, hrest⟩ | ⟨heof, hnil⟩
  · have hat : At p.playbackFile s := ⟨hc.isOpen, IFStream.good_iff.2 ⟨heof, hc.fail⟩, hrest⟩
    cases hs with
    | last hl hh =>
      obtain ⟨f, hg, ho, -, hfail, hd⟩ := hat.getline_last hl []
      cases he : s.isEmpty with
      | true => exact stop hg ho hd (Or.inl (hfail.trans he))
      | false => exact stop hg ho hd (Or.inr ⟨hfail.trans he, hh⟩)
    | footer r hl hh =>
      obtain ⟨f, hg, hat', hd⟩ := hat.getline hl []
      exact stop hg hat'.isOpen hd (Or.inr ⟨hat'.cursor.fail, hh⟩)
  · have hbad : p.playbackFile.good = false := by simp [IFStream.good, heof]
    exact stop (IFStream.getline_of_not_good hbad []) hc.isOpen rfl (Or.inl rfl)

/-- The stream behind the payload, once `ignore(1)` has skipped the byte after it. -/
theorem cursor_ignore1 {f : IFStream} {rest : Bytes} (h : At f rest) :
    Cursor f.ignore1 rest.tail := by
  cases rest with
  | nil =>
    rw [IFStream.ignore1_nil h.good h.rest]
    exact ⟨h.isOpen, (IFStream.good_iff.1 h.good).2, Or.inr ⟨rfl, rfl⟩⟩
  | cons c r =>
    rw [IFStream.ignore1_cons h.good h.rest]
    exact ⟨h.isOpen, (IFStream.good_iff.1 h.good).2, Or.inl ⟨(IFStream.good_iff.1 h.good).1, rfl⟩⟩

theorem deliverFrame_enough {f : IFStream} {payload rest : Bytes} (hat : At f (payload ++ rest))
    (t : Int) : ∃ f', p.deliverFrame P f t payload.length =
        { self := { p with
            playbackFile := f'
            nextFrameTime := t
            frameCallback := p.frameCallback.map (· ++ [payload])
            currentFrame := p.currentFrame + 1
            playbackTimer := p.playbackTimer.schedule (p.nextDelay P t) }
          frame := p.frameCallback.map fun _ => payload } ∧
      Cursor f' rest.tail ∧ f'.data = f.data := by
  have hread := IFStream.read_enough hat.good hat.rest
  have hat' : At (f.read payload.length).1 rest := by
    rw [hread]
    exact ⟨hat.isOpen, hat.good, rfl⟩
  refine ⟨(f.read payload.length).1.ignore1, ?_, cursor_ignore1 hat', by simp⟩
  rw [PlaybackController.deliverFrame, hread]

/-- At a frame record the player hands its payload to the callback, whole, and schedules the next
read. -/
theorem readNextFrame_cons (hplay : p.isPlaying = true) (hpause : p.isPaused = false)
    (hc : Cursor p.playbackFile s) {t : Int} {payload : Bytes} {fs : List (Int × Bytes)}
    (hs : Frames P s ((t, payload) :: fs)) :
    ∃ f s', p.readNextFrame P =
        { self := { p with
            playbackFile := f
            nextFrameTime := t
            frameCallback := p.frameCallback.map (· ++ [payload])
            currentFrame := p.currentFrame + 1
            playbackTimer := p.playbackTimer.schedule (p.nextDelay P t) }
          frame := p.frameCallback.map fun _ => payload } ∧
      Cursor f s' ∧ Frames P s' fs ∧ f.data = p.playbackFile.data := by
  cases hs with
  | @frame h ts len _ rest _ _ hh hheader ht hlen hmax hrest =>
    have heof : p.playbackFile.eof = false ∧
        p.playbackFile.rest = h ++ newline :: (payload ++ rest) := by
      rcases hc.rest with hr | ⟨-, hnil⟩
      · exact hr
      · simp at hnil
    have hat : At p.playbackFile (h ++ newline :: (payload ++ rest)) :=
      ⟨hc.isOpen, IFStream.good_iff.2 ⟨heof.1, hc.fail⟩, heof.2⟩
    obtain ⟨f, hg, hat', hd⟩ := hat.getline hh []
    obtain ⟨f', hdel, hcur, hd'⟩ := deliverFrame_enough (P := P) (p := p) hat' t
    refine ⟨f', rest.tail, ?_, hcur, hrest, hd'.trans hd⟩
    rw [readNextFrame_eq hplay hpause hc.fail hg hat'.cursor.fail,
      readFrame_some hheader ht hlen hmax, hdel]

/-- A player that has delivered a frame and waits to read the next one. -/
structure Delivering (p : PlaybackController) : Prop where
  isPlaying : p.isPlaying = true
  isPaused : p.isPaused = false
  pending : p.playbackTimer.pending.isSome = true

theorem deliverFrame_delivering (hplay : p.isPlaying = true) (hpause : p.isPaused = false)
    (f : IFStream) (t : Int) (n : Nat) : Delivering (p.deliverFrame P f t n).self :=
  ⟨hplay, hpause, rfl⟩

/-- What the player does where no frame section stands. -/
inductive StrayRead (P : Platform) (p : PlaybackController) (s : Bytes) : Prop
  | throws (p' : PlaybackController) (e : Exn)
      (eq : p.readNextFrame P = { self := p', exn := some e })
  /-- The file has not enough bytes for the frame. -/
  | fails (p' : PlaybackController) (frame : Option Bytes)
      (eq : p.readNextFrame P = { self := p', frame := frame }) (delivering : Delivering p')
      (fail : p'.playbackFile.fail = true)
  | strays (p' : PlaybackController) (frame : Option Bytes) (s' : Bytes)
      (eq : p.readNextFrame P = { self := p', frame := frame }) (delivering : Delivering p')
      (shorter : s'.length < s.length) (cursor : Cursor p'.playbackFile s')
      (stray : ∀ fs, ¬Frames P s' fs)

/-- A header line with nothing behind it. -/
theorem strayRead_bare (hplay : p.isPlaying = true) (hpause : p.isPaused = false)
    (hat : At p.playbackFile s) (hfail : p.playbackFile.fail = false) (hline : newline ∉ s)
    (hs : ∀ fs, ¬Frames P s fs) : StrayRead P p s := by
  obtain ⟨f, hg, -, hfeof, hfail', -⟩ := hat.getline_last hline []
  have hne : s.isEmpty = false := by
    cases s with
    | nil => exact absurd (Frames.nil P) (hs [])
    | cons c s => rfl
  have hread := readNextFrame_eq (P := P) hplay hpause hfail hg (hfail'.trans hne)
  cases hheader : frameHeader s with
  | none => exact absurd (Frames.last hline hheader) (hs [])
  | some fields =>
    rcases readFrame_cases (P := P) (p := p) hheader f with ⟨e, he⟩ | ⟨t, n, ht, hlen, hmax⟩
    · exact .throws _ e (hread.trans he)
    · rw [readFrame_some hheader ht hlen hmax] at hread
      have hbad : f.good = false := by simp [IFStream.good, hfeof]
      have hshort : (f.read n).1.fail = true := by rw [IFStream.read_of_not_good hbad]
      exact .fails _ _ hread (deliverFrame_delivering hplay hpause f t n)
        (IFStream.ignore1_fail hshort)

/-- A header line and what stands behind it. -/
theorem strayRead_header {h r : Bytes} (hplay : p.isPlaying = true) (hpause : p.isPaused = false)
    (hat : At p.playbackFile (h ++ newline :: r)) (hfail : p.playbackFile.fail = false)
    (hh : newline ∉ h) (hs : ∀ fs, ¬Frames P (h ++ newline :: r) fs) :
    StrayRead P p (h ++ newline :: r) := by
  obtain ⟨f, hg, hat', -⟩ := hat.getline hh []
  have hread := readNextFrame_eq (P := P) hplay hpause hfail hg hat'.cursor.fail
  cases hheader : frameHeader h with
  | none => exact absurd (Frames.footer r hh hheader) (hs [])
  | some fields =>
    rcases readFrame_cases (P := P) (p := p) hheader f with ⟨e, he⟩ | ⟨t, n, ht, hlen, hmax⟩
    · exact .throws _ e (hread.trans he)
    · rw [readFrame_some hheader ht hlen hmax] at hread
      have hdelivering := deliverFrame_delivering (P := P) hplay hpause f t n
      by_cases hn : n ≤ r.length
      · -- a complete record: what stands behind it is no frame section either
        obtain ⟨payload, rest, rfl, rfl⟩ : ∃ payload rest, r = payload ++ rest ∧
            payload.length = n :=
          ⟨r.take n, r.drop n, (List.take_append_drop n r).symm, by simp [hn]⟩
        obtain ⟨f', hdel, hcur, -⟩ := deliverFrame_enough (P := P) (p := p) hat' t
        rw [hdel] at hread hdelivering
        refine .strays _ _ rest.tail hread hdelivering ?_ hcur ?_
        · simp only [List.length_append, List.length_cons, List.length_tail]
          omega
        · intro fs hfs
          exact hs _ (.frame hh hheader ht hlen hmax hfs)
      · have hrest : f.rest.length < n := by
          rw [hat'.rest]
          omega
        have hshort : (f.read n).1.fail = true := by rw [IFStream.read_short hat'.good hrest]
        exact .fails _ _ hread hdelivering (IFStream.ignore1_fail hshort)

/-- Where no frame section stands, the player throws, or delivers something and is left with a
stream that has failed, or delivers a frame and stands again where no frame section does. -/
theorem readNextFrame_stray (hplay : p.isPlaying = true) (hpause : p.isPaused = false)
    (hc : Cursor p.playbackFile s) (hs : ∀ fs, ¬Frames P s fs) : StrayRead P p s := by
  have heof : p.playbackFile.eof = false ∧ p.playbackFile.rest = s := by
    rcases hc.rest with hr | ⟨-, hnil⟩
    · exact hr
    · exact absurd (hnil ▸ Frames.nil P) (hs [])
  have hat : At p.playbackFile s :=
    ⟨hc.isOpen, IFStream.good_iff.2 ⟨heof.1, hc.fail⟩, heof.2⟩
  rcases line_cases s with hline | ⟨h, r, hh, rfl⟩
  · exact strayRead_bare hplay hpause hat hc.fail hline hs
  · exact strayRead_header hplay hpause hat hc.fail hh hs

/-- A stream that has failed is left alone. -/
theorem readNextFrame_of_fail (hf : p.playbackFile.fail = true) :
    p.readNextFrame P = { self := p } := by
  simp [PlaybackController.readNextFrame, hf]

end Read

end AsciiStreamer
