import AsciiStreamer.Recording.RoundTrip
import AsciiStreamer.Recording.Shown

/-!
# A recording that is cut off

What is on the disk while a recording runs, or after a crash, is the beginning of its text. The
player does not test whether it has got all the bytes it has asked for: behind the first digit of
a length and before the end of the payload, a cut makes it deliver a frame that was never recorded
(`Torn`). Everywhere else it delivers some of the frames, whole (`cut_off_iff`).
-/

namespace AsciiStreamer

open Cxx

/-- Whatever playing the file delivers are the first of these frames. -/
def NothingInvented (P : Platform) (content : Bytes) (frames : List Bytes) : Prop :=
  ∀ name p, PlaybackController.loadRecording {} name (some content) = (p, .ok true) →
    ∀ n, (playFor P p n).self.delivered <+: frames

/-! ## Where a record can be cut -/

def zeros (n : Nat) : Bytes := List.replicate n 0

/-- A frame's header line with these digits as its length. -/
def frameLine (t : Int) (digits : Bytes) : Bytes :=
  lit "frame" ++ colon :: (intToDec t ++ colon :: digits)

/-- The beginnings of the record of `b` that show another frame: its length lacks digits, or its
payload lacks bytes that are not all zero. -/
inductive TornFrame (t : Int) (b : Bytes) : Bytes → Prop
  | length {digits more : Bytes} : natToDec b.length = digits ++ more → digits ≠ [] → more ≠ [] →
      TornFrame t b (frameLine t digits)
  | line : b ≠ zeros b.length → TornFrame t b (frameLine t (natToDec b.length))
  | payload {q more : Bytes} : b = q ++ more → more ≠ zeros more.length →
      TornFrame t b (frameLine t (natToDec b.length) ++ newline :: q)

/-- The text of the records `es` is cut in one of them, where it hurts. -/
def Torn (es : List (Int × Bytes)) (s : Bytes) : Prop :=
  ∃ pre t b post c, es = pre ++ (t, b) :: post ∧ TornFrame t b c ∧ s = entriesText pre ++ c

section Lines

variable {P : Platform} {t : Int} {b digits : Bytes}

theorem prefix_append_cases {α : Type} {s a b : List α} (h : s <+: a ++ b) :
    s <+: a ∨ ∃ s', s = a ++ s' ∧ s' <+: b := by
  rcases List.prefix_or_prefix_of_prefix h (List.prefix_append a b) with hs | ⟨s', rfl⟩
  · exact Or.inl hs
  · exact Or.inr ⟨s', rfl, (List.prefix_append_right_inj a).1 h⟩

theorem newline_not_mem_frameLine (hd : newline ∉ digits) : newline ∉ frameLine t digits := by
  have ht := not_mem_intToDec (c := newline) (by decide) (by decide) t
  simp only [frameLine, List.mem_append, List.mem_cons, not_or]
  exact ⟨by decide, by decide, ht, by decide, hd⟩

theorem frameHeader_frameLine (t : Int) (digits : Bytes) :
    frameHeader (frameLine t digits) = some (intToDec t, digits) :=
  frameHeader_fields (by decide) (not_mem_intToDec (by decide) (by decide) t)

theorem announced_frameLine (hmin : LLONG_MIN ≤ t) (hmax : t ≤ LLONG_MAX) {n : Nat}
    (hd : stoul digits = .ok n) (hn : n ≤ P.maxSize) :
    announced P (frameLine t digits) = some (t, n) :=
  announced_of_header (frameHeader_frameLine t digits) (stoll_intToDec hmin hmax) hd hn

theorem stoul_length (hb : b.length ≤ P.maxSize) : stoul (natToDec b.length) = .ok b.length :=
  stoul_natToDec (Nat.lt_of_le_of_lt hb (Nat.lt_trans P.maxSize_lt (by decide)))

/-- The first digits of a length announce a smaller one. -/
theorem stoul_digits {more : Bytes} (hb : b.length ≤ P.maxSize)
    (hd : natToDec b.length = digits ++ more) (hne : digits ≠ []) (hmore : more ≠ []) :
    stoul digits = .ok (digitsValue digits) ∧ digitsValue digits < b.length := by
  have hlt := digitsValue_lt_of_append hd hne hmore
  have hdigits : ∀ c ∈ digits, isDigit c = true := fun c hc =>
    natToDec_isDigit (hd ▸ List.mem_append_left more hc : c ∈ natToDec b.length)
  have hsmall : digitsValue digits < 2 ^ 63 :=
    Nat.lt_trans hlt (Nat.lt_of_le_of_lt hb P.maxSize_lt)
  have hmin : -ULONG_MAX ≤ (digitsValue digits : Int) := by simp only [ULONG_MAX]; omega
  have hmax : (digitsValue digits : Int) ≤ ULONG_MAX := by simp only [ULONG_MAX]; omega
  have hmod : ((digitsValue digits : Int) % 2 ^ 64).toNat = digitsValue digits := by omega
  refine ⟨?_, hlt⟩
  simp only [stoul, readInt_digits hne hdigits, hmin, hmax, and_self, ↓reduceIte, hmod]

/-- A line with at most one colon announces nothing. -/
theorem announced_of_one_colon {key value l : Bytes} (hkey : colon ∉ key) (hvalue : colon ∉ value)
    (h : l <+: key ++ colon :: value) : announced P l = none := by
  have hnone : frameHeader l = none := by
    rcases prefix_append_cases h with hl | ⟨v, rfl, hv⟩
    · have hfind : find colon l 0 = none := find_eq_none.2 fun hc => hkey (hl.subset hc)
      simp only [frameHeader, hfind]
    · rcases List.prefix_cons_iff.1 hv with rfl | ⟨v', rfl, hv'⟩
      · have hfind : find colon (key ++ []) 0 = none := by
          rw [List.append_nil]
          exact find_eq_none.2 hkey
        simp only [frameHeader, hfind]
      · exact frameHeader_none hkey fun hc => hvalue (hv'.subset hc)
  simp only [announced, hnone]

theorem splitLine_cut {s l r : Bytes} (h : s <+: l ++ newline :: r) (hl : newline ∉ l) :
    (splitLine s).1 <+: l := by
  rcases prefix_append_cases h with hs | ⟨s', rfl, hs'⟩
  · rw [splitLine_of_not_mem fun hc => hl (hs.subset hc)]
    exact hs
  · rcases List.prefix_cons_iff.1 hs' with rfl | ⟨r', rfl, -⟩
    · have hline : (splitLine (l ++ [])).1 = l := by rw [List.append_nil, splitLine_of_not_mem hl]
      exact ⟨[], (List.append_nil _).trans hline⟩
    · have hline : (splitLine (l ++ newline :: r')).1 = l := by rw [splitLine_cons_newline hl]
      exact ⟨[], (List.append_nil _).trans hline⟩

end Lines

/-! ## What a cut text shows -/

section Cut

variable {P : Platform}

theorem frameText_eq (t : Int) (b rest : Bytes) : frameText t b ++ rest =
    frameLine t (natToDec b.length) ++ newline :: (b ++ newline :: rest) :=
  frameText_append t b rest

theorem newline_not_mem_length (n : Nat) : newline ∉ natToDec n := not_mem_natToDec (by decide) n

/-- A whole record in front. -/
theorem Shown.record {t : Int} {b s : Bytes} {x : List Bytes} (hmin : LLONG_MIN ≤ t)
    (hmax : t ≤ LLONG_MAX) (hb : b.length ≤ P.maxSize) (h : Shown P s x) :
    Shown P (frameText t b ++ s) (b :: x) := by
  have hrest : Shown P (newline :: s).tail x := h
  rw [frameText_eq]
  exact .frame (newline_not_mem_frameLine (newline_not_mem_length _))
    (announced_frameLine hmin hmax (stoul_length hb) hb) hrest

/-- **Cut where it hurts**, a record shows a frame that is another one. -/
theorem shown_tornFrame {t : Int} {b c : Bytes} (hmin : LLONG_MIN ≤ t) (hmax : t ≤ LLONG_MAX)
    (hb : b.length ≤ P.maxSize) (h : TornFrame t b c) : ∃ b', b' ≠ b ∧ Shown P c [b'] := by
  cases h with
  | @length digits more hd hne hmore =>
    obtain ⟨hstoul, hlt⟩ := stoul_digits hb hd hne hmore
    have hline : newline ∉ digits := fun hc =>
      newline_not_mem_length b.length (hd ▸ List.mem_append_left more hc)
    refine ⟨_, ?_, .bare (newline_not_mem_frameLine hline)
      (announced_frameLine hmin hmax hstoul (Nat.le_of_lt (Nat.lt_of_lt_of_le hlt hb)))⟩
    intro heq
    have hlen := congrArg List.length heq
    rw [List.length_replicate] at hlen
    omega
  | line hzero =>
    exact ⟨_, fun heq => hzero heq.symm, .bare (newline_not_mem_frameLine (newline_not_mem_length _))
      (announced_frameLine hmin hmax (stoul_length hb) hb)⟩
  | @payload q more hq hzero =>
    subst hq
    have hlen : (q ++ more).length - q.length = more.length := by
      rw [List.length_append, Nat.add_sub_cancel_left]
    have hpos : 0 < more.length := by
      rw [List.length_pos_iff]
      rintro rfl
      exact hzero rfl
    refine ⟨_, ?_, .short (newline_not_mem_frameLine (newline_not_mem_length _))
      (announced_frameLine hmin hmax (stoul_length hb) hb) ?_⟩
    · rw [hlen]
      exact fun heq => hzero (List.append_cancel_left heq).symm
    · rw [List.length_append]
      exact Nat.lt_add_of_pos_right hpos

/-- Cut anywhere else, it shows nothing or its own frame. -/
theorem shown_cutFrame {t : Int} {b c : Bytes} (hmin : LLONG_MIN ≤ t) (hmax : t ≤ LLONG_MAX)
    (hb : b.length ≤ P.maxSize) (hnot : ¬TornFrame t b c)
    (h : c <+: frameLine t (natToDec b.length) ++ newline :: b) : Shown P c [] ∨ Shown P c [b] := by
  have hline := newline_not_mem_frameLine (t := t) (newline_not_mem_length b.length)
  have hann := announced_frameLine (P := P) hmin hmax (stoul_length hb) hb
  -- the header line is there, and a part `q` of the payload
  have payload : ∀ {q : Bytes}, q <+: b → c = frameLine t (natToDec b.length) ++ newline :: q →
      Shown P c [] ∨ Shown P c [b] := by
    rintro q ⟨more, hq⟩ rfl
    have hzero : more = zeros more.length := by
      by_contra hne
      exact hnot (.payload hq.symm hne)
    right
    by_cases hmore : more = []
    · rw [hmore, List.append_nil] at hq
      subst hq
      have hshown : Shown P (frameLine t (natToDec q.length) ++ newline :: (q ++ [])) [q] :=
        .frame hline hann (.stops rfl)
      rwa [List.append_nil] at hshown
    · have hlt : q.length < b.length := by
        rw [← hq, List.length_append]
        exact Nat.lt_add_of_pos_right (List.length_pos_iff.2 hmore)
      have hfill : q ++ List.replicate (b.length - q.length) 0 = b := by
        rw [← hq, List.length_append, Nat.add_sub_cancel_left]
        exact congrArg (q ++ ·) hzero.symm
      have hshown := Shown.short hline hann hlt
      rwa [hfill] at hshown
  -- the header line is not complete
  have header : c <+: frameLine t (natToDec b.length) → Shown P c [] ∨ Shown P c [b] := by
    intro hc
    have hsplit : frameLine t (natToDec b.length) =
        (lit "frame" ++ colon :: intToDec t) ++ colon :: natToDec b.length := by
      simp only [frameLine, List.append_assoc, List.cons_append]
    have hnl : newline ∉ c := fun hmem => hline (hc.subset hmem)
    rw [hsplit] at hc
    rcases prefix_append_cases hc with hc | ⟨c', rfl, hc'⟩
    · refine Or.inl (.stops ?_)
      rw [splitLine_of_not_mem hnl]
      exact announced_of_one_colon (by decide) (not_mem_intToDec (by decide) (by decide) t) hc
    · rcases List.prefix_cons_iff.1 hc' with rfl | ⟨digits, rfl, more, hd⟩
      · refine Or.inl (.stops ?_)
        rw [splitLine_of_not_mem hnl, List.append_nil]
        exact announced_of_one_colon (by decide) (not_mem_intToDec (by decide) (by decide) t)
          List.prefix_rfl
      · have heq : (lit "frame" ++ colon :: intToDec t) ++ colon :: digits = frameLine t digits := by
          simp only [frameLine, List.append_assoc, List.cons_append]
        rw [heq] at hnl hnot ⊢
        by_cases hne : digits = []
        · refine Or.inl (.stops ?_)
          rw [splitLine_of_not_mem hnl, hne]
          simp only [announced, frameHeader_frameLine, stoll_intToDec hmin hmax]
          rfl
        · by_cases hmore : more = []
          · rw [hmore, List.append_nil] at hd
            subst hd
            have hzero : b = zeros b.length := by
              by_contra hz
              exact hnot (.line hz)
            have hshown := Shown.bare hline hann
            rw [show List.replicate b.length (0 : UInt8) = b from hzero.symm] at hshown
            exact Or.inr hshown
          · exact absurd (.length hd.symm hne hmore) hnot
  rcases prefix_append_cases h with hc | ⟨c', hc', hpre⟩
  · exact header hc
  · rcases List.prefix_cons_iff.1 hpre with rfl | ⟨q, rfl, hq⟩
    · rw [List.append_nil] at hc'
      exact header (hc' ▸ List.prefix_rfl)
    · exact payload hq hc'

/-- **What a cut text shows** where it is not torn: the first so many frames. -/
theorem shown_cut (seconds : Int) (count : Nat) {es : List (Int × Bytes)} {s : Bytes}
    (hok : EntriesOk P es) (hs : s <+: entriesText es ++ footerText seconds count)
    (hnot : ¬Torn es s) : ∃ k, Shown P s ((es.map Prod.snd).take k) := by
  induction es generalizing s with
  | nil =>
    have hfooter : s <+: (lit "end_time" ++ colon :: intToDec seconds) ++ newline ::
        (lit "frame_count:" ++ natToDec count ++ lit "\n") := footer_eq seconds count ▸ hs
    have hsec := not_mem_intToDec (c := newline) (by decide) (by decide) seconds
    have hline : newline ∉ lit "end_time" ++ colon :: intToDec seconds := by
      simp only [List.mem_append, List.mem_cons, not_or]
      exact ⟨by decide, by decide, hsec⟩
    exact ⟨0, .stops (announced_of_one_colon (by decide) (not_mem_intToDec (by decide) (by decide) _)
      (splitLine_cut hfooter hline))⟩
  | cons e es ih =>
    obtain ⟨t, b⟩ := e
    obtain ⟨hmin, hmax, hb⟩ := hok (t, b) List.mem_cons_self
    have hfirst : ¬TornFrame t b s := fun ht => hnot ⟨[], t, b, es, s, rfl, ht, rfl⟩
    have htext : entriesText ((t, b) :: es) = frameText t b ++ entriesText es := rfl
    have hnewline : frameText t b =
        (frameLine t (natToDec b.length) ++ newline :: b) ++ [newline] := by
      have heq := frameText_eq t b []
      rw [List.append_nil] at heq
      rw [heq, List.append_assoc, List.cons_append]
    rw [htext, List.append_assoc] at hs
    -- the cut is in the first record, or in one of the others
    have cut : s <+: frameLine t (natToDec b.length) ++ newline :: b →
        ∃ k, Shown P s ((((t, b) :: es).map Prod.snd).take k) := by
      intro hc
      rcases shown_cutFrame hmin hmax hb hfirst hc with h | h
      · exact ⟨0, h⟩
      · exact ⟨1, h⟩
    rcases prefix_append_cases hs with hs | ⟨s', rfl, hs'⟩
    · rw [hnewline] at hs
      rcases prefix_append_cases hs with hs | ⟨w, rfl, hw⟩
      · exact cut hs
      · rcases List.prefix_cons_iff.1 hw with rfl | ⟨w', rfl, hw'⟩
        · exact cut ⟨[], by simp only [List.append_nil]⟩
        · rw [List.prefix_nil.1 hw', ← hnewline] at hfirst ⊢
          have hshown := Shown.record (P := P) (s := []) (x := []) hmin hmax hb (.stops rfl)
          rw [List.append_nil] at hshown
          exact ⟨1, hshown⟩
    · have hrest : ¬Torn es s' := by
        rintro ⟨pre, t', b', post, c, rfl, hc, rfl⟩
        exact hnot ⟨(t, b) :: pre, t', b', post, c, rfl, hc, by
          simp only [entriesText, List.flatMap_cons, List.append_assoc]⟩
      obtain ⟨k, hk⟩ := ih (fun e he => hok e (List.mem_cons_of_mem _ he)) hs' hrest
      exact ⟨k + 1, .record hmin hmax hb hk⟩

/-- **What a torn text shows**: the frames before the cut, and one that was never recorded. -/
theorem shown_torn {pre post : List (Int × Bytes)} {t : Int} {b c : Bytes}
    (hok : EntriesOk P (pre ++ (t, b) :: post)) (hc : TornFrame t b c) :
    ∃ b', b' ≠ b ∧ Shown P (entriesText pre ++ c) (pre.map Prod.snd ++ [b']) := by
  induction pre with
  | nil =>
    obtain ⟨hmin, hmax, hb⟩ := hok (t, b) List.mem_cons_self
    exact shown_tornFrame hmin hmax hb hc
  | cons e pre ih =>
    obtain ⟨t', b'⟩ := e
    obtain ⟨hmin, hmax, hb⟩ := hok (t', b') List.mem_cons_self
    obtain ⟨b'', hne, hshown⟩ := ih fun e he => hok e (List.mem_cons_of_mem _ he)
    refine ⟨b'', hne, ?_⟩
    have hrec := Shown.record hmin hmax hb hshown
    simpa only [entriesText, List.flatMap_cons, List.map_cons, List.cons_append,
      List.append_assoc] using hrec

end Cut

/-! ## What a cut file shows -/

section CutOff

variable {P : Platform}

/-- The first line of a text, and the rest of it, are those of every longer text. -/
theorem line_eq_of_longer {l l' r r' : Bytes} (hl : newline ∉ l) (hl' : newline ∉ l')
    (h : l ++ newline :: r <+: l' ++ newline :: r') : l = l' ∧ r <+: r' := by
  obtain ⟨w, hw⟩ := h
  have hsplit := congrArg splitLine hw
  rw [List.append_assoc, List.cons_append, splitLine_cons_newline hl, splitLine_cons_newline hl',
    Prod.mk.injEq, Option.some.injEq] at hsplit
  exact ⟨hsplit.1, w, hsplit.2⟩

/-- A shorter text has less behind its metadata. -/
theorem Metadata.of_prefix {r body : Bytes} (h : Metadata r body) :
    ∀ {r' body' : Bytes}, Metadata r' body' → r <+: r' → body <+: body' := by
  induction h with
  | last => exact fun _ _ => List.nil_prefix
  | frames body =>
    intro r' body' h' hpre
    cases h' with
    | last =>
      have hlen := hpre.length_le
      simp only [List.length_append, List.length_cons] at hlen
      omega
    | frames _ => exact (line_eq_of_longer frames_line frames_line hpre).2
    | line hl hne _ _ => exact absurd (line_eq_of_longer frames_line hl hpre).1.symm hne
  | @line l r body hl hne _ _ ih =>
    intro r' body' h' hpre
    cases h' with
    | last =>
      have hmem : newline ∈ lit "frames:" :=
        hpre.subset (List.mem_append_right l List.mem_cons_self)
      exact absurd hmem frames_line
    | frames _ => exact absurd (line_eq_of_longer hl frames_line hpre).1 hne
    | line hl' _ _ hm =>
      obtain ⟨rfl, hr⟩ := line_eq_of_longer hl hl' hpre
      exact ih hm hr

/-- What loading and playing a file delivers is what it shows behind its metadata. -/
theorem shows_of_header {t : Tm} {c name : Bytes} {x : List Bytes} {p : PlaybackController}
    (h : Shown P c x)
    (hload : PlaybackController.loadRecording {} name (some (headerText t ++ c)) = (p, .ok true)) :
    Shows P (p.startPlayback P) x := by
  rw [headerText_append] at hload
  obtain ⟨f, info, hl, hcur, -⟩ := loadRecording_of_metadata (p := {}) rfl (metadata_header t c) name
  rw [hl] at hload
  cases hload
  exact startPlayback_shows rfl hcur h

/-- A file that has not got to the line `frames:` and behind shows nothing. -/
theorem shows_of_prefix_header {t : Tm} {d name : Bytes} {p : PlaybackController}
    (hd : d <+: headerText t)
    (hload : PlaybackController.loadRecording {} name (some d) = (p, .ok true)) :
    Shows P (p.startPlayback P) [] := by
  obtain ⟨hplay, ⟨r, s, rfl, hm, hcur⟩ | ⟨ho, hfail⟩⟩ := loadRecording_cursor hload
  · have hheader := headerText_append t []
    rw [List.append_nil] at hheader
    rw [hheader] at hd
    have hr := (line_eq_of_longer (by decide) (by decide) hd).2
    have hs : s = [] := List.prefix_nil.1 (hm.of_prefix (metadata_header t []) hr)
    subst hs
    exact startPlayback_shows hplay hcur (.stops announced_nil)
  · exact startPlayback_shows_nil hplay ho hfail

theorem takeEntries_bytes (start : Instant) (frames : List (Str P × Instant)) :
    (takeEntries start frames).map Prod.snd = frames.map (·.1.bytes) := by
  simp only [takeEntries, List.map_map, Function.comp_def]

/-- **Where a recording can be cut off**: playing what is left of its file delivers nothing but
the first of its frames, unless the cut is behind the first digit of a frame's length and before
the last byte of its payload that is not zero. -/
theorem cut_off_iff {s : Recorder} (hs : s.controller.isRecording = false) (t : Tm)
    (start : Instant) (frames : List (Str P × Instant)) (stop : Instant) {content d : Bytes}
    (hdisk : (s.run (takeRecording t start frames stop)).disk (recordingName t) = some content)
    (hd : d <+: content) :
    NothingInvented P d (frames.map (·.1.bytes)) ↔
      ∀ c, d = headerText t ++ c → ¬Torn (takeEntries start frames) c := by
  have hok := takeEntries_ok (P := P) start frames
  rw [run_takeRecording hs, Option.some.injEq, recordingText, List.append_assoc] at hdisk
  subst hdisk
  rw [← takeEntries_bytes start]
  constructor
  · rintro h c rfl ⟨pre, b, e, post, c, heq, htorn, rfl⟩
    rw [heq] at hok h
    obtain ⟨b', hne, hshown⟩ := shown_torn hok htorn
    have hload := loadRecording_of_metadata (p := {}) rfl
      (metadata_header t (entriesText pre ++ c)) (recordingName t)
    rw [← headerText_append] at hload
    obtain ⟨f, info, hload, -⟩ := hload
    obtain ⟨n, hn⟩ := (shows_of_header hshown hload).all
    have hpre := h _ _ hload n
    rw [playFor, hn, List.map_append, List.prefix_append_right_inj, List.map_cons] at hpre
    exact hne (List.cons_prefix_cons.1 hpre).1
  · intro h name p hload n
    rcases prefix_append_cases hd with hd | ⟨c, rfl, hc⟩
    · exact ((shows_of_prefix_header hd hload).upTo n).trans List.nil_prefix
    · obtain ⟨k, hk⟩ := shown_cut _ _ hok hc (h c rfl)
      exact ((shows_of_header hk hload).upTo n).trans (List.take_prefix k _)

/-- One frame of two bytes. -/
def oneFrame : List (Str x86_64 × Instant) := [(⟨lit "hi", by decide⟩, 5)]

/-- Its recording, cut off behind the first byte of the frame. -/
def tornFile : Bytes := headerText noon ++ lit "frame:0:2\nh"

theorem cut_off_iff_tornFile : NothingInvented x86_64 tornFile [lit "hi"] ↔
    ∀ c, tornFile = headerText noon ++ c → ¬Torn (takeEntries 5 oneFrame) c :=
  cut_off_iff (s := {}) rfl noon 5 oneFrame 9
    (show _ = some (tornFile ++ lit "i\nend_time:0\nframe_count:1\n") from rfl)
    (List.prefix_append _ _)

/-- The player fills the missing byte with a zero. -/
theorem not_nothingInvented_tornFile :
    (Recorder.run {} (takeRecording noon 5 oneFrame 9)).disk (recordingName noon) =
        some (tornFile ++ lit "i\nend_time:0\nframe_count:1\n") ∧
      ¬NothingInvented x86_64 tornFile [lit "hi"] := by
  refine ⟨rfl, fun h => ?_⟩
  have hpre := h (recordingName noon) _ rfl 0
  exact absurd hpre (by decide)

end CutOff

end AsciiStreamer
