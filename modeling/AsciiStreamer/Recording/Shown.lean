import AsciiStreamer.Recording.Playback

/-!
# What playing any bytes shows

`Shown P s l` says which frames the player delivers from the bytes `s` behind the line `frames:`,
whatever they are: complete records one after the other, and then at most one frame that the file
has cut off, which the player fills up with zero bytes. The player follows it exactly
(`shows_of_shown`), and what a file without metadata shows is nothing (`loadRecording_cursor`).
-/

namespace AsciiStreamer

open Cxx

/-! ## Deliveries to the end -/

/-- From `o` on, all the timer callbacks together deliver the frames up to `l`. -/
structure Shows (P : Platform) (o : Outcome) (l : List Bytes) : Prop where
  upTo : ∀ n, (o.after P n).self.delivered <+: l
  all : ∃ n, (o.after P n).self.delivered = l

/-- No callback will deliver anything any more. -/
def Spent (p : PlaybackController) : Prop :=
  p.playbackTimer.pending = none ∨ p.playbackFile.fail = true

section Deliveries

variable {P : Platform} {p : PlaybackController} {o : Outcome} {l : List Bytes}

theorem Spent.fire (h : Spent p) : (fire P p).exn = none ∧ Spent (fire P p).self ∧
    (fire P p).self.delivered = p.delivered := by
  cases hpend : p.playbackTimer.pending with
  | none =>
    rw [fire_none hpend]
    exact ⟨rfl, h, rfl⟩
  | some d =>
    obtain ⟨t, hfire, hnone⟩ := fire_pending (P := P) (p := p) (by rw [hpend]; rfl)
    have hfail : p.playbackFile.fail = true := by
      rcases h with h | h
      · rw [hpend] at h
        cases h
      · exact h
    have hself : { p with playbackTimer := t }.onTimer P .success =
        { self := { p with playbackTimer := t } } := by
      unfold PlaybackController.onTimer
      rw [readNextFrame_of_fail (p := { p with playbackTimer := t }) hfail, ite_self]
    rw [hfire, hself]
    exact ⟨rfl, Or.inl hnone, rfl⟩

theorem after_of_exn (h : o.exn ≠ none) (n : Nat) : o.after P n = o := by
  induction n with
  | zero => rfl
  | succ n ih =>
    obtain ⟨e, he⟩ := Option.ne_none_iff_exists'.1 h
    simp only [Outcome.after, ih, he]

theorem after_of_spent (hexn : o.exn = none) (h : Spent o.self) (n : Nat) :
    (o.after P n).exn = none ∧ Spent (o.after P n).self ∧
      (o.after P n).self.delivered = o.self.delivered := by
  induction n with
  | zero => exact ⟨hexn, h, rfl⟩
  | succ n ih =>
    obtain ⟨hexn', hspent, hdel⟩ := ih
    obtain ⟨hexn'', hspent', hdel'⟩ := hspent.fire (P := P)
    rw [after_succ hexn']
    exact ⟨hexn'', hspent', hdel'.trans hdel⟩

theorem Shows.of_spent (h : o.exn ≠ none ∨ Spent o.self) : Shows P o o.self.delivered := by
  have hall : ∀ n, (o.after P n).self.delivered = o.self.delivered := by
    intro n
    by_cases hexn : o.exn = none
    · exact (after_of_spent hexn (h.resolve_left (not_not.2 hexn)) n).2.2
    · rw [after_of_exn hexn]
  exact ⟨fun n => (hall n).symm ▸ List.prefix_rfl, 0, rfl⟩

/-- What the next callback and those after it deliver. -/
theorem Shows.of_fire (hexn : o.exn = none) (hpre : o.self.delivered <+: l)
    (h : Shows P (fire P o.self) l) : Shows P o l := by
  refine ⟨fun n => ?_, ?_⟩
  · cases n with
    | zero => exact hpre
    | succ n =>
      rw [after_add_one hexn]
      exact h.upTo n
  · obtain ⟨n, hn⟩ := h.all
    exact ⟨n + 1, by rw [after_add_one hexn, hn]⟩

end Deliveries

/-! ## The bytes behind the metadata -/

/-- The timestamp and the length that a header line announces, where both can be read. -/
def announced (P : Platform) (h : Bytes) : Option (Int × Nat) :=
  match frameHeader h with
  | none => none
  | some (ts, len) => match stoll ts, stoul len with
    | .ok t, .ok n => if n ≤ P.maxSize then some (t, n) else none
    | _, _ => none

inductive Shown (P : Platform) : Bytes → List Bytes → Prop
  /-- The next line announces nothing: the player stops or throws. -/
  | stops {s : Bytes} : announced P (splitLine s).1 = none → Shown P s []
  /-- The file ends in a header line. -/
  | bare {h : Bytes} {t : Int} {n : Nat} : newline ∉ h → announced P h = some (t, n) →
      Shown P h [List.replicate n 0]
  /-- The file ends inside the payload. -/
  | short {h r : Bytes} {t : Int} {n : Nat} : newline ∉ h → announced P h = some (t, n) →
      r.length < n → Shown P (h ++ newline :: r) [r ++ List.replicate (n - r.length) 0]
  | frame {h payload rest : Bytes} {t : Int} {l : List Bytes} : newline ∉ h →
      announced P h = some (t, payload.length) → Shown P rest.tail l →
      Shown P (h ++ newline :: (payload ++ rest)) (payload :: l)

section Announced

variable {P : Platform} {h ts len : Bytes} {t : Int} {n : Nat}

theorem announced_of_header (hh : frameHeader h = some (ts, len)) (ht : stoll ts = .ok t)
    (hlen : stoul len = .ok n) (hmax : n ≤ P.maxSize) : announced P h = some (t, n) := by
  simp only [announced, hh, ht, hlen, hmax, ↓reduceIte]

theorem announced_eq_some (ha : announced P h = some (t, n)) : ∃ ts len,
    frameHeader h = some (ts, len) ∧ stoll ts = .ok t ∧ stoul len = .ok n ∧ n ≤ P.maxSize := by
  unfold announced at ha
  cases hh : frameHeader h with
  | none => simp [hh] at ha
  | some x =>
    obtain ⟨ts, len⟩ := x
    cases ht : stoll ts with
    | error e => simp [hh, ht] at ha
    | ok t' =>
      cases hlen : stoul len with
      | error e => simp [hh, ht, hlen] at ha
      | ok n' =>
        simp only [hh, ht, hlen, Option.ite_none_right_eq_some, Option.some.injEq,
          Prod.mk.injEq] at ha
        obtain ⟨hmax, rfl, rfl⟩ := ha
        exact ⟨ts, len, rfl, ht, hlen, hmax⟩

/-- A line that announces nothing is no header, or reading it throws. -/
theorem readFrame_of_announced_none {p : PlaybackController} (ha : announced P h = none)
    (hh : frameHeader h = some (ts, len)) (f : IFStream) :
    ∃ e, p.readFrame P f h = { self := { p with playbackFile := f }, exn := some e } := by
  rcases readFrame_cases (P := P) (p := p) hh f with he | ⟨t, n, ht, hlen, hmax⟩
  · exact he
  · rw [announced_of_header hh ht hlen hmax] at ha
    cases ha

theorem readFrame_announced {p : PlaybackController} (ha : announced P h = some (t, n))
    (f : IFStream) : p.readFrame P f h = p.deliverFrame P f t n := by
  obtain ⟨ts, len, hh, ht, hlen, hmax⟩ := announced_eq_some ha
  exact readFrame_some hh ht hlen hmax f

end Announced

/-! ## The player follows -/

/-- The player is about to read at `s`, having delivered `l`. -/
structure Reading (p : PlaybackController) (l : List Bytes) (s : Bytes) : Prop where
  isPlaying : p.isPlaying = true
  isPaused : p.isPaused = false
  delivered : p.frameCallback = some l
  cursor : Cursor p.playbackFile s

section Follow

variable {P : Platform} {p : PlaybackController} {l : List Bytes} {s : Bytes}

theorem Reading.of_timer (h : Reading p l s) (t : Timer) :
    Reading { p with playbackTimer := t } l s :=
  ⟨h.isPlaying, h.isPaused, h.delivered, h.cursor⟩

/-- Bytes that can still be read are there to be read. -/
theorem Reading.at_of_ne_nil (h : Reading p l s) (hs : s ≠ []) : At p.playbackFile s := by
  rcases h.cursor.rest with ⟨heof, hrest⟩ | ⟨-, hnil⟩
  · exact ⟨h.cursor.isOpen, IFStream.good_iff.2 ⟨heof, h.cursor.fail⟩, hrest⟩
  · exact absurd hnil hs

theorem announced_nil : announced P [] = none := rfl

/-- The player reads a line that announces nothing. -/
theorem Reading.stops (h : Reading p l s) (ha : announced P (splitLine s).1 = none) :
    ((p.readNextFrame P).exn ≠ none ∨ Spent (p.readNextFrame P).self) ∧
      (p.readNextFrame P).self.delivered = l := by
  -- no header line: the player stops
  have stop : Frames P s [] → ((p.readNextFrame P).exn ≠ none ∨ Spent (p.readNextFrame P).self) ∧
      (p.readNextFrame P).self.delivered = l := by
    intro hs
    obtain ⟨f, heq, -, -⟩ := readNextFrame_nil h.isPlaying h.isPaused h.cursor hs
    rw [heq]
    refine ⟨Or.inr (Or.inl (Timer.cancel_pending _)), ?_⟩
    simp only [PlaybackController.delivered, h.delivered, Option.getD_some]
  -- a header line without its numbers: it throws
  have throws : ∀ {f : IFStream} {line ts len : Bytes}, p.playbackFile.getline [] = (f, line) →
      f.fail = false → announced P line = none → frameHeader line = some (ts, len) →
      ((p.readNextFrame P).exn ≠ none ∨ Spent (p.readNextFrame P).self) ∧
        (p.readNextFrame P).self.delivered = l := by
    intro f line ts len hg hf hnone hh
    obtain ⟨e, he⟩ := readFrame_of_announced_none (p := p) hnone hh f
    rw [readNextFrame_eq h.isPlaying h.isPaused h.cursor.fail hg hf, he]
    refine ⟨Or.inl (Option.some_ne_none e), ?_⟩
    simp only [PlaybackController.delivered, h.delivered, Option.getD_some]
  rcases line_cases s with hline | ⟨line, r, hline, rfl⟩
  · rw [splitLine_of_not_mem hline] at ha
    cases hh : frameHeader s with
    | none => exact stop (.last hline hh)
    | some x =>
      have hne : s ≠ [] := by
        rintro rfl
        cases hh
      obtain ⟨f, hg, -, -, hfail, -⟩ := (h.at_of_ne_nil hne).getline_last hline []
      exact throws hg (hfail.trans (by simp [hne])) ha hh
  · rw [splitLine_cons_newline hline] at ha
    cases hh : frameHeader line with
    | none => exact stop (.footer r hline hh)
    | some x =>
      obtain ⟨f, hg, hat, -⟩ := (h.at_of_ne_nil (by simp)).getline hline []
      exact throws hg hat.cursor.fail ha hh

/-- What the delivery of a frame that the file has cut off leaves. -/
theorem deliverFrame_spent {f f' : IFStream} {t : Int} {n : Nat} {b : Bytes}
    (hdel : p.frameCallback = some l) (hread : f.read n = (f', b)) (hfail : f'.fail = true) :
    Spent (p.deliverFrame P f t n).self ∧ (p.deliverFrame P f t n).self.delivered = l ++ [b] := by
  refine ⟨Or.inr ?_, ?_⟩
  · simp only [PlaybackController.deliverFrame, hread]
    exact IFStream.ignore1_fail hfail
  · simp only [PlaybackController.deliverFrame, hread, PlaybackController.delivered, hdel,
      Option.map_some, Option.getD_some]

/-- **What playing any bytes shows.** -/
theorem shows_of_shown {x : List Bytes} (h : Shown P s x) :
    ∀ {p : PlaybackController} {l : List Bytes}, Reading p l s →
      Shows P (p.readNextFrame P) (l ++ x) := by
  induction h with
  | stops ha =>
    intro p l hp
    obtain ⟨hspent, hdel⟩ := hp.stops ha
    rw [List.append_nil, ← hdel]
    exact .of_spent hspent
  | @bare h t n hline ha =>
    intro p l hp
    have hne : h ≠ [] := by
      rintro rfl
      rw [announced_nil] at ha
      cases ha
    obtain ⟨f, hg, -, heof, hfail, -⟩ := (hp.at_of_ne_nil hne).getline_last hline []
    have hbad : f.good = false := by simp [IFStream.good, heof]
    obtain ⟨hspent, hdel⟩ :=
      deliverFrame_spent (P := P) (t := t) hp.delivered (IFStream.read_of_not_good hbad n) rfl
    rw [readNextFrame_eq hp.isPlaying hp.isPaused hp.cursor.fail hg (hfail.trans (by simp [hne])),
      readFrame_announced ha, ← hdel]
    exact .of_spent (Or.inr hspent)
  | @short h r t n hline ha hlen =>
    intro p l hp
    obtain ⟨f, hg, hat, -⟩ := (hp.at_of_ne_nil (by simp)).getline hline []
    have hread := IFStream.read_short hat.good (n := n) (by rw [hat.rest]; exact hlen)
    rw [hat.rest] at hread
    obtain ⟨hspent, hdel⟩ := deliverFrame_spent (P := P) (t := t) hp.delivered hread rfl
    rw [readNextFrame_eq hp.isPlaying hp.isPaused hp.cursor.fail hg hat.cursor.fail,
      readFrame_announced ha, ← hdel]
    exact .of_spent (Or.inr hspent)
  | @frame h payload rest t x hline ha _ ih =>
    intro p l hp
    obtain ⟨f, hg, hat, -⟩ := (hp.at_of_ne_nil (by simp)).getline hline []
    obtain ⟨f', hdel, hcur, -⟩ := deliverFrame_enough (P := P) (p := p) hat t
    rw [readNextFrame_eq hp.isPlaying hp.isPaused hp.cursor.fail hg hat.cursor.fail,
      readFrame_announced ha, hdel]
    have hnext : Reading { p with
        playbackFile := f'
        nextFrameTime := t
        frameCallback := p.frameCallback.map (· ++ [payload])
        currentFrame := p.currentFrame + 1
        playbackTimer := p.playbackTimer.schedule (p.nextDelay P t) } (l ++ [payload]) rest.tail :=
      ⟨hp.isPlaying, hp.isPaused, by simp only [hp.delivered, Option.map_some], hcur⟩
    obtain ⟨timer, hfire, -⟩ := fire_of_waiting (P := P) hnext.isPlaying hnext.isPaused rfl
    have hrec := ih (hnext.of_timer timer)
    rw [List.append_assoc, List.singleton_append] at hrec
    refine .of_fire rfl ?_ (hfire ▸ hrec)
    simp only [PlaybackController.delivered, hp.delivered, Option.map_some, Option.getD_some]
    exact ⟨x, by rw [List.append_assoc, List.singleton_append]⟩

end Follow

/-! ## A loaded file -/

section Loaded

variable {P : Platform} {p : PlaybackController} {d name : Bytes}

/-- Playing from where `load_recording` has left the file. -/
theorem startPlayback_shows (hplay : p.isPlaying = false) {s : Bytes}
    (hcur : Cursor p.playbackFile s) {x : List Bytes} (h : Shown P s x) :
    Shows P (p.startPlayback P) x := by
  rw [startPlayback_eq hplay hcur.isOpen]
  exact shows_of_shown (l := []) h ⟨rfl, rfl, rfl, hcur⟩

/-- A stream that has failed shows nothing. -/
theorem startPlayback_shows_nil (hplay : p.isPlaying = false)
    (ho : p.playbackFile.isOpen = true) (hfail : p.playbackFile.fail = true) :
    Shows P (p.startPlayback P) [] := by
  rw [startPlayback_eq hplay ho, readNextFrame_of_fail (by exact hfail)]
  exact .of_spent (Or.inr (Or.inr hfail))

/-- A file that loads stands at what is behind its metadata, or its stream has failed. -/
theorem loadRecording_cursor (hload : PlaybackController.loadRecording {} name (some d) =
    (p, .ok true)) : p.isPlaying = false ∧
      ((∃ r s, d = magic ++ newline :: r ∧ Metadata r s ∧ Cursor p.playbackFile s) ∨
        p.playbackFile.isOpen = true ∧ p.playbackFile.fail = true) := by
  have hclosed : (PlaybackController.stopPlayback {}).playbackFile.isOpen = false := rfl
  by_cases hmagic : (splitLine d).1 = magic
  · by_cases hm : ∃ r s, d = magic ++ newline :: r ∧ Metadata r s
    · obtain ⟨r, s, rfl, hm⟩ := hm
      obtain ⟨f, info, hl, hcur, -⟩ := loadRecording_of_metadata hclosed hm name
      rw [hl] at hload
      cases hload
      exact ⟨rfl, Or.inl ⟨r, s, rfl, hm, hcur⟩⟩
    · have hnone : ∀ r body, d = magic ++ newline :: r → ¬Metadata r body :=
        fun r body hd hmeta => hm ⟨r, body, hd, hmeta⟩
      rcases loadRecording_stray hclosed hmagic hnone name with ⟨p', e, hl⟩ | ⟨f, info, hl, ho, hfail⟩
      · rw [hl] at hload
        cases hload
      · rw [hl] at hload
        cases hload
        exact ⟨rfl, Or.inr ⟨ho, hfail⟩⟩
  · obtain ⟨f, hl, -⟩ := loadRecording_of_header_ne hclosed hmagic name
    rw [hl] at hload
    cases hload

end Loaded

end AsciiStreamer
