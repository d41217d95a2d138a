import AsciiStreamer.Session.Writer

/-!
# Frames on their way to the socket

A live frame that a session has been handed is in a posted handler, in the queue, or written.
Segments move it along or drop it; only `send_frame` brings in a new one, behind all others
(`liveFrames_step`).
-/

namespace AsciiStreamer

open Cxx

def Message.liveFrame : Message → Option Bytes
  | .live frame => some frame
  | _ => none

namespace Session

/-- What the session has been handed and has not dropped, the oldest first. -/
def onTheWay (s : Session) : List Message := s.written ++ s.writeQueue ++ s.posted

def liveFrames (s : Session) : List Bytes := s.onTheWay.filterMap Message.liveFrame

end Session

/-- The frame a segment brings in. -/
def SessionEvent.liveFrame : SessionEvent → Option Bytes
  | .sendFrame m => m.liveFrame
  | _ => none

section Frames

variable {P : Platform} {api : Api} {s s' : Session} {e : SessionEvent} {rs : List Request}

/-! ## What a segment does to the frames -/

theorem liveFrames_replies (texts : List Bytes) :
    (texts.map Message.reply).filterMap Message.liveFrame = [] := by
  induction texts with
  | nil => rfl
  | cons text texts ih => exact ih

theorem liveFrames_of_same (h : SameWriter s s') {ms : List Message}
    (hposted : s'.posted = s.posted ++ ms) :
    s'.liveFrames = s.liveFrames ++ ms.filterMap Message.liveFrame := by
  have hq : s'.writeQueue = s.writeQueue := congrArg DropOldest.queue h.history
  have hw : s'.written = s.written := congrArg DropOldest.taken h.history
  unfold Session.liveFrames Session.onTheWay
  rw [hq, hw, hposted, ← List.append_assoc, List.filterMap_append]

/-- A segment that posts replies only. -/
theorem liveFrames_of_replies (h : SameWriter s s') (hposted : ∃ texts : List Bytes,
    s'.posted = s.posted ++ texts.map .reply) : s'.liveFrames = s.liveFrames := by
  obtain ⟨texts, hposted⟩ := hposted
  rw [liveFrames_of_same h hposted, liveFrames_replies, List.append_nil]

theorem sendFrame_liveFrames (m : Message) :
    (s.sendFrame m).liveFrames = s.liveFrames ++ m.liveFrame.toList := by
  have hsame : SameWriter s (s.sendFrame m) := ⟨rfl, rfl, rfl⟩
  have hone : [m].filterMap Message.liveFrame = m.liveFrame.toList := by
    cases m <;> rfl
  have hposted : (s.sendFrame m).posted = s.posted ++ [m] := rfl
  rw [liveFrames_of_same hsame hposted, hone]

/-- The handler moves its message into the queue, and may drop one from it. -/
theorem queueFrame_onTheWay (m : Message) (ms : List Message) (hposted : s.posted = m :: ms) :
    (({ s with posted := ms, sent := s.sent ++ [m] }).queueFrame m).onTheWay.Sublist
      s.onTheWay := by
  unfold Session.queueFrame Session.onTheWay
  rw [hposted]
  simp only
  split
  · -- on a closed connection the message is dropped
    simp only [List.append_assoc]
    exact ((List.sublist_cons_self m ms).append_left _).append_left _
  · split
    · split <;>
      · simp only [List.append_assoc, List.cons_append, List.nil_append]
        exact ((List.tail_sublist _).append_right _).append_left _
    · split <;> simp only [List.append_assoc, List.cons_append, List.nil_append, List.Sublist.refl]

/-- The loop of `do_write` moves a message from the queue to the socket. -/
theorem doWrite_onTheWay (i : Nat) : (s.proceedWriter i s.doWrite).onTheWay = s.onTheWay := by
  unfold Session.doWrite Session.onTheWay
  split
  · next m q hq _ =>
    rw [hq]
    simp only [Session.proceedWriter, List.append_assoc, List.cons_append, List.nil_append]
  · rfl

theorem liveFrames_of_onTheWay (h : s'.onTheWay.Sublist s.onTheWay) :
    s'.liveFrames.Sublist s.liveFrames := h.filterMap _

/-- **What a segment does to the live frames on their way.** -/
theorem liveFrames_step (h : s.step P api e = some (s', rs)) :
    s'.liveFrames.Sublist (s.liveFrames ++ e.liveFrame.toList) := by
  -- but for `send_frame`, no segment brings a frame in
  have keeps : s'.liveFrames.Sublist s.liveFrames →
      s'.liveFrames.Sublist (s.liveFrames ++ e.liveFrame.toList) := by
    intro hsub
    exact hsub.trans (List.sublist_append_left _ _)
  have silent : SameWriter s s' → s'.posted = s.posted →
      s'.liveFrames.Sublist (s.liveFrames ++ e.liveFrame.toList) := by
    intro hsame hposted
    apply keeps
    rw [liveFrames_of_replies hsame ⟨[], by rw [hposted]; exact (List.append_nil _).symm⟩]
  have replied : SameWriter s s' → (∃ texts : List Bytes, s'.posted = s.posted ++ texts.map .reply) →
      s'.liveFrames.Sublist (s.liveFrames ++ e.liveFrame.toList) := by
    intro hsame hposted
    apply keeps
    rw [liveFrames_of_replies hsame hposted]
  cases sessionStep_of_step h with
  | accepted ok reader => exact silent ⟨rfl, rfl, rfl⟩ rfl
  | message text isStreaming reader =>
    exact replied (sameWriter_handleMessage text isStreaming)
      ⟨_, handleMessage_posted text isStreaming⟩
  | readFailed closed reader =>
    have hposted : (s.readFailed closed).posted = s.posted := by
      cases closed with
      | true => rfl
      | false => exact (sameReading_close s).posted
    exact silent (sameWriter_readFailed closed) hposted
  | authFailedWritten result reader =>
    obtain ⟨texts, heq⟩ := authFailedWritten_eq_answers (s := s) result
    refine replied ?_ ⟨texts, congrArg Session.posted heq⟩
    rw [heq]
    exact sameWriter_answers s texts
  | returned result call reply reader =>
    refine replied ?_ ⟨[answer reply result], congrArg Session.posted (returned_eq_answers ..)⟩
    rw [returned_eq_answers]
    exact sameWriter_answers s _
  | sendFrame m =>
    rw [sendFrame_liveFrames]
    exact List.Sublist.refl _
  | runPosted m ms posted =>
    exact keeps (liveFrames_of_onTheWay (queueFrame_onTheWay m ms posted))
  | startWriter i live =>
    apply keeps
    apply liveFrames_of_onTheWay
    rw [doWrite_onTheWay]
  | writeDone i error m live =>
    cases error with
    | none =>
      have heq : (s.writeDone i none).onTheWay = s.onTheWay := doWrite_onTheWay i
      apply keeps
      apply liveFrames_of_onTheWay
      rw [heq]
    | some err =>
      have hc := sameWriter_close s
      have hcp := (sameReading_close s).posted
      apply keeps
      apply liveFrames_of_onTheWay
      cases err with
      | aborted => exact List.Sublist.refl _
      | other =>
        have heq : (s.writeDone i (some .other)).onTheWay = s.onTheWay := by
          have hq : s.close.writeQueue = s.writeQueue := congrArg DropOldest.queue hc.history
          have hw : s.close.written = s.written := congrArg DropOldest.taken hc.history
          unfold Session.onTheWay
          simp only [Session.writeDone, Session.proceedWriter, hq, hw, hcp]
        rw [heq]
  | disconnected => exact silent ⟨rfl, rfl, rfl⟩ rfl
  | closed closing => exact silent ⟨rfl, rfl, rfl⟩ rfl

end Frames

end AsciiStreamer
