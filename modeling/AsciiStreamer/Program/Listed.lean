import AsciiStreamer.Recording.CutOff
import AsciiStreamer.Http.Complete

/-!
# What the listing sees of the recorder's files

A recording in the directory has a name that ends with `.asr` (`recordingName_stem`), and what has been
flushed of it is the beginning of a header with frames behind it. Wherever it ends, every line that the
listing reads of it is the beginning of a header line (`metadata_cut`), so the listing can neither throw
nor come upon bytes that are not text.
-/

namespace AsciiStreamer

open Cxx Json HttpSession

/-! ## Names -/

section Names

theorem ascii_append {a b : Bytes} (ha : Utf8.Ascii a) (hb : Utf8.Ascii b) : Utf8.Ascii (a ++ b) := by
  intro c hc
  rcases List.mem_append.1 hc with hc | hc
  · exact ha c hc
  · exact hb c hc

theorem ascii_pad2 (n : Nat) : Utf8.Ascii (pad2 n) := by
  unfold pad2
  split
  · exact ascii_append (by decide) (natToDec_ascii n)
  · exact natToDec_ascii n

/-- The name of a recording is that of a file in the directory. -/
theorem recordingName_stem (t : Tm) : ∃ stem, stem ≠ [] ∧ Utf8.Ascii stem ∧
    recordingName t = recordingPath (stem ++ lit ".asr") := by
  have hfront : lit "recordings/ascii_stream_" = lit "recordings/" ++ lit "ascii_stream_" := by decide
  refine ⟨lit "ascii_stream_" ++ (natToDec t.year ++ (pad2 t.mon ++ (pad2 t.mday ++ (lit "_" ++
    (pad2 t.hour ++ (pad2 t.min ++ pad2 t.sec)))))), ?_, ?_, ?_⟩
  · exact List.append_ne_nil_of_left_ne_nil (by decide) _
  · refine ascii_append (by decide) (ascii_append (natToDec_ascii _) (ascii_append (ascii_pad2 _)
      (ascii_append (ascii_pad2 _) (ascii_append (by decide) (ascii_append (ascii_pad2 _)
        (ascii_append (ascii_pad2 _) (ascii_pad2 _)))))))
  · unfold recordingName recordingPath
    rw [hfront]
    simp only [List.append_assoc]

theorem extension_asr {stem : Bytes} (h : stem ≠ []) : extension (stem ++ lit ".asr") = lit ".asr" := by
  have hreverse : (stem ++ lit ".asr").reverse = lit "rsa" ++ dot :: stem.reverse := by
    rw [List.reverse_append]
    rfl
  have hdrop : (stem ++ lit ".asr").reverse.dropWhile (· != dot) = dot :: stem.reverse := by
    have hasr : ∀ c ∈ lit "rsa", (c != dot) = true := by decide +kernel
    rw [hreverse, List.dropWhile_append_of_pos hasr, List.dropWhile_cons_of_neg (by decide)]
  have hlength : (dot :: stem.reverse).length = stem.length + 1 := by
    rw [List.length_cons, List.length_reverse]
  have hstem : 0 < stem.length := List.length_pos_iff.2 h
  unfold extension
  simp only [hdrop, hlength]
  rw [if_neg, Nat.add_sub_cancel, List.drop_left]
  rintro (hup | hle)
  · have hlen := congrArg List.length hup
    rw [List.length_append] at hlen
    have hasr : (lit ".asr").length = 4 := rfl
    have hdots : (lit "..").length = 2 := rfl
    omega
  · omega

end Names

/-! ## Metadata that is cut off -/

section Cut

variable {l r rest line key value : Bytes} {keep : Bytes → Bool}

/-- A text that ends in a line or behind it. -/
theorem linesOf_cut (hl : newline ∉ l) (h : rest <+: l ++ newline :: r)
    (hm : line ∈ (linesOf rest).takeWhile keep) :
    line <+: l ∨ keep l = true ∧
      ∃ rest', rest' <+: r ∧ line ∈ (linesOf rest').takeWhile keep := by
  have within : ∀ {s : Bytes}, s <+: l → line ∈ (linesOf s).takeWhile keep → line <+: l := by
    intro s hs hmem
    rw [linesOf_of_not_mem fun hc => hl (hs.subset hc)] at hmem
    have hmem := (List.takeWhile_sublist _).subset hmem
    split at hmem
    · cases hmem
    · rw [List.mem_singleton.1 hmem]
      exact hs
  rcases prefix_append_cases h with hs | ⟨s', rfl, hs'⟩
  · exact Or.inl (within hs hm)
  · rcases List.prefix_cons_iff.1 hs' with rfl | ⟨rest', rfl, hrest'⟩
    · rw [List.append_nil] at hm
      exact Or.inl (within (List.prefix_refl l) hm)
    · rw [linesOf_cons_newline hl] at hm
      cases hkeep : keep l with
      | false =>
        rw [List.takeWhile_cons_of_neg (by rw [hkeep]; exact Bool.false_ne_true)] at hm
        cases hm
      | true =>
        rw [List.takeWhile_cons_of_pos hkeep] at hm
        rcases List.mem_cons.1 hm with rfl | hm
        · exact Or.inl (List.prefix_refl _)
        · exact Or.inr ⟨rfl, rest', hrest', hm⟩

/-- The beginning of a line with a key that is no number's. -/
theorem fieldOk_cut (h : line <+: key ++ colon :: value) (hc : colon ∉ key)
    (h1 : key ≠ lit "end_time") (h2 : key ≠ lit "frame_count") : FieldOk line := by
  rcases prefix_append_cases h with hs | ⟨s', rfl, hs'⟩
  · intro c hfind
    rw [find_eq_none.2 fun hmem => hc (hs.subset hmem)] at hfind
    cases hfind
  · rcases List.prefix_cons_iff.1 hs' with rfl | ⟨value', rfl, -⟩
    · intro c hfind
      rw [List.append_nil, find_eq_none.2 hc] at hfind
      cases hfind
    · exact fieldOk_of_key hc h1 h2

theorem ascii_timestampText (t : Tm) : Utf8.Ascii (timestampText t) := by
  have hyear := natToDec_ascii t.year
  have h1 : Utf8.Ascii (lit "-") := by decide
  have h2 : Utf8.Ascii (lit " ") := by decide
  have h3 : Utf8.Ascii (lit ":") := by decide
  unfold timestampText
  exact ascii_append (ascii_append (ascii_append (ascii_append (ascii_append (ascii_append
    (ascii_append (ascii_append (ascii_append (ascii_append hyear h1) (ascii_pad2 _)) h1)
      (ascii_pad2 _)) h2) (ascii_pad2 _)) h3) (ascii_pad2 _)) h3) (ascii_pad2 _)

/-- **What the listing reads of a recording**, wherever it ends so far. -/
theorem metadata_cut {text body : Bytes} {t : Tm} (h : text <+: headerText t ++ body) :
    ∀ line ∈ metadataLines text, FieldOk line ∧ Utf8.Ascii line := by
  have hversion : lit "version:1.0" = lit "version" ++ colon :: lit "1.0" := by decide
  have htimestamp : lit "timestamp:" = lit "timestamp" ++ [colon] := by decide
  have hframes : lit "frames:" = lit "frames" ++ [colon] := by decide
  have hstamp : newline ∉ lit "timestamp:" ++ timestampText t := by
    rw [List.mem_append, not_or]
    exact ⟨by decide, newline_not_mem_timestampText t⟩
  have good : ∀ {key value line : Bytes}, line <+: key ++ colon :: value → colon ∉ key →
      key ≠ lit "end_time" → key ≠ lit "frame_count" → Utf8.Ascii (key ++ colon :: value) →
        FieldOk line ∧ Utf8.Ascii line :=
    fun hcut hc h1 h2 hascii => ⟨fieldOk_cut hcut hc h1 h2, fun c hmem => hascii c (hcut.subset hmem)⟩
  rw [headerText_append] at h
  intro line hline
  unfold metadataLines at hline
  rcases prefix_append_cases h with hs | ⟨s', rfl, hs'⟩
  · rw [splitLine_of_not_mem fun hc => absurd (hs.subset hc) (by decide)] at hline
    cases hline
  rcases List.prefix_cons_iff.1 hs' with rfl | ⟨rest, rfl, hrest⟩
  · rw [List.append_nil, splitLine_of_not_mem (by decide)] at hline
    cases hline
  rw [splitLine_cons_newline (by decide)] at hline
  rcases linesOf_cut (by decide) hrest hline with hcut | ⟨-, rest', hrest', hline⟩
  · rw [hversion] at hcut
    exact good hcut (by decide) (by decide) (by decide) (by decide)
  rcases linesOf_cut hstamp hrest' hline with hcut | ⟨-, rest'', hrest'', hline⟩
  · rw [htimestamp, List.append_assoc, List.singleton_append] at hcut
    refine good hcut (by decide) (by decide) (by decide) ?_
    exact ascii_append (by decide) (ascii_append (a := [colon]) (by decide) (ascii_timestampText t))
  rcases linesOf_cut (by decide) hrest'' hline with hcut | ⟨hkeep, -⟩
  · rw [hframes] at hcut
    exact good hcut (by decide) (by decide) (by decide) (by decide)
  · exact absurd hkeep (by decide)

end Cut

/-! ## Entries -/

/-- **An entry for a recording** is listed whatever has been flushed of it. -/
theorem listed_of_cut {entry : DirEntry} {stem text body : Bytes} {t : Tm} (hstem : stem ≠ [])
    (hascii : Utf8.Ascii stem) (hname : entry.filename = stem ++ lit ".asr")
    (hregular : entry.isRegularFile = .ok true) (hsize : Succeeds entry.fileSize)
    (htime : Succeeds entry.lastWriteTime) (hcontent : entry.content = some text)
    (hcut : text <+: headerText t ++ body) :
    entry.isRecording = true ∧ entry.Readable ∧ entry.Textual := by
  have hmetadata : entry.metadata = metadataLines text := by
    unfold DirEntry.metadata
    rw [hcontent]
  have hlines := metadata_cut hcut
  refine ⟨?_, ⟨⟨true, hregular⟩, fun _ => hsize, fun _ => htime, fun _ line hline => ?_⟩, ?_, ?_⟩
  · unfold DirEntry.isRecording
    rw [hregular, hname, extension_asr hstem]
    rfl
  · exact (hlines line (hmetadata ▸ hline)).1
  · rw [hname]
    exact Utf8.valid_of_ascii (ascii_append hascii (by decide))
  · intro value hvalue
    unfold DirEntry.timestamp at hvalue
    obtain ⟨line, hline, hvalue⟩ := List.mem_filterMap.1 (List.mem_of_getLast? hvalue)
    rw [hmetadata] at hline
    unfold FileInfo.timestampValue at hvalue
    split at hvalue
    · cases hvalue
    · next colonPos hfind =>
      obtain ⟨-, hvalue⟩ := Option.ite_none_right_eq_some.1 hvalue
      cases hvalue
      refine Utf8.valid_of_ascii fun c hc => ?_
      exact (hlines line hline).2 c (List.mem_of_mem_drop hc)

end AsciiStreamer
