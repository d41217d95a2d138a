import AsciiStreamer.Server.Arithmetic
import AsciiStreamer.Stream.AsciiConverter

/-!
# What the clients see

`start_streaming` sets the size of the pictures, asks the camera for twice that size and gives the
converter its characters; the capture loop converts what the camera shows with these. While a stream
is on nothing changes them (`Tuned`), so every live frame on its way to a client, and whatever of a
stream is left over when the next one begins, is a picture of the size of a stream that has begun
(`sizesOf`), complete to the last row (`every_frame_pictured`). `Films` is what the capture loop
assumes of the converter.
-/

namespace AsciiStreamer

open Cxx AsciiConverter

/-- What `start_streaming` passes to `set_ascii_chars`. -/
def streamChars : Bytes := lit "@%#*+=-:. "

/-- The text is some picture of this size in the characters of a stream. -/
def Pictured (width height : Int) (text : Bytes) : Prop :=
  ∃ w h pixel, width = (w : Nat) ∧ height = (h : Nat) ∧ Drawn streamChars w h pixel text

/-- The camera and the converter of a stream that is on, as `start_streaming` has set them. -/
structure Tuned (c : StreamController) : Prop where
  capOpened : c.videoSource.capOpened = true
  isOpened : c.videoSource.isOpened = true
  width : c.videoSource.width = c.frameWidth * 2
  height : c.videoSource.height = c.frameHeight * 2
  asciiChars : c.asciiChars = streamChars

/-- And what the camera has been asked for can be computed. -/
structure Equipped (c : StreamController) : Prop extends Tuned c where
  intWidth : IsInt (c.frameWidth * 2)
  intHeight : IsInt (c.frameHeight * 2)

/-- The equipment of `c'` is that of `c`. -/
structure SameEquipment (c c' : StreamController) : Prop where
  isStreaming : c'.isStreaming = c.isStreaming
  videoSource : c'.videoSource = c.videoSource
  frameWidth : c'.frameWidth = c.frameWidth
  frameHeight : c'.frameHeight = c.frameHeight
  asciiChars : c'.asciiChars = c.asciiChars

/-- What a segment does to the equipment of a stream. -/
inductive Equips (c c' : StreamController) : Prop
  | off (isStreaming : c'.isStreaming = false)
  | begins (idle : c.isStreaming = false) (tuned : Tuned c')
  | keeps (same : SameEquipment c c')

/-- `cv::resize` makes a picture of the size asked for, or throws. -/
def Resizes {Mat : Type} (cv : OpenCV Mat) : Prop :=
  ∀ m m' width height, cv.resize m width height = .ok m' →
    width = cv.cols m' ∧ height = cv.rows m'

/-- The sizes of the streams that have begun, after a step. -/
def Server.sizesAfter (s s' : Server) (sizes : List (Int × Int)) : List (Int × Int) :=
  if s.stream.controller.isStreaming = false ∧ s'.stream.controller.isStreaming = true then
    sizes ++ [(s'.stream.controller.frameWidth, s'.stream.controller.frameHeight)]
  else sizes

/-- The sizes of the streams of a run, in the order in which they have begun. -/
def sizesOf (P : Platform) (api : Api) (es : List (ServerEvent P)) : List (Int × Int) :=
  (server P api).record (fun s _ s' sizes => s.sizesAfter s' sizes) {} es []

/-- A frame of the capture loop is a picture that the camera shows, as `convert` converts it. -/
def Films {P : Platform} {Mat : Type} (cv : OpenCV Mat) (s : Server) : ServerEvent P → Prop
  | .loop i (.frame frame _) => s.stream.loops[i]? = some .sleeping → ∃ m, cv.empty m = false ∧
      convert P cv s.stream.controller.asciiChars m s.stream.controller.frameWidth
        s.stream.controller.frameHeight = .ok frame.bytes
  | _ => True

/-! ## The equipment -/

section Equipment

variable {P : Platform} {c c' : StreamController}

/-- It is apart from the viewers, the recorder and the playback, and from a request to stop. -/
theorem Equips.of_update (c : StreamController) (viewers : List SessionId) (stopRequested : Bool)
    (recorder : Recorder) (p : PlaybackController) (session : Option SessionId) :
    Equips c { c with
      viewers := viewers
      stopRequested := stopRequested
      recorder := recorder
      playbackController := p
      playbackSession := session } := .keeps ⟨rfl, rfl, rfl, rfl, rfl⟩

theorem Equips.refl (c : StreamController) : Equips c c := .of_update c _ _ _ _ _

/-- Whatever is on after a segment is tuned if it was before. -/
theorem Equips.tuned (h : Equips c c') (hc : c.isStreaming = true → Tuned c)
    (hon : c'.isStreaming = true) : Tuned c' := by
  cases h with
  | off isStreaming => cases isStreaming.symm.trans hon
  | begins idle tuned => exact tuned
  | keeps same =>
    have h := hc (same.isStreaming.symm.trans hon)
    refine ⟨?_, ?_, ?_, ?_, same.asciiChars.trans h.asciiChars⟩
    · exact same.videoSource ▸ h.capOpened
    · exact same.videoSource ▸ h.isOpened
    · rw [same.videoSource, same.frameWidth, h.width]
    · rw [same.videoSource, same.frameHeight, h.height]

/-- `start_streaming` equips the stream that it begins. -/
theorem startStreaming_equips (c : StreamController) (cameraIndex : Int) (resolution : Bytes)
    (fps : Int) (env : CameraEnv) :
    Equips c (c.startStreaming cameraIndex resolution fps env).self := by
  unfold StreamController.startStreaming
  cases hon : c.isStreaming with
  | true => exact .refl c
  | false =>
    have hopening := openStream_opening c cameraIndex resolution fps env
    simp only [Bool.false_eq_true, ↓reduceIte]
    generalize c.openStream cameraIndex resolution fps env = x at hopening ⊢
    obtain ⟨c', result⟩ := x
    cases hopening with
    | width e width => exact .off rfl
    | height w e width height => exact .off rfl
    | camera w h width height opens => exact .off rfl
    | throws w h e width height opens throws => exact .off rfl
    | started w h width height opens setResolution setAsciiChars =>
      exact .begins hon ⟨rfl, rfl, rfl, rfl, rfl⟩

theorem poll_equips (c : StreamController) : Equips c c.poll.self := by
  unfold StreamController.poll
  split
  · exact .refl c
  · exact .off rfl

theorem stopStreaming_equips (c : StreamController) : Equips c c.stopStreaming.self := by
  unfold StreamController.stopStreaming StreamController.poll
  cases hon : c.isStreaming with
  | true => exact .keeps ⟨hon.symm, rfl, rfl, rfl, rfl⟩
  | false => exact .refl c

/-- **What a segment of a method does to the equipment.** -/
theorem Pc.run_equips (P : Platform) (c : StreamController) (env : Env) (pc : Pc) :
    Equips c (pc.run P c env).self := by
  cases pc with
  | dispatch call =>
    cases call with
    | startStreaming cameraIndex resolution fps =>
      exact startStreaming_equips c cameraIndex resolution fps env.camera
    | stopStreaming => exact stopStreaming_equips c
    | startPlayback filename session => exact .refl c
    | _ => exact .of_update c _ _ _ _ _
  | polling => exact poll_equips c
  | stoppingPlayback filename session =>
    simp only [Pc.run, StreamController.startPlayback]
    split <;> exact .of_update c _ _ _ _ _

theorem loopTest_equips {c₀ : StreamController} {next : Option LoopPc} (hc : SameEquipment c c₀)
    (h : c₀.loopTest = some (c', next)) : Equips c c' := by
  unfold StreamController.loopTest at h
  split at h
  · split at h
    · cases h
    · cases h
      exact .keeps hc
  · cases h
    exact .off rfl

/-- What a segment of a capture loop does to it. -/
theorem captureLoop_equips {capture : Capture P} {alive : SessionId → Bool} {pc : LoopPc}
    {next : Option LoopPc} {sends : List (SessionId × Message)}
    (h : c.captureLoop P capture alive pc = some (c', next, sends)) : Equips c c' := by
  cases pc with
  | spawned =>
    obtain ⟨⟨c₁, n₁⟩, htest, heq⟩ := Option.map_eq_some_iff.1 h
    cases heq
    exact loopTest_equips ⟨rfl, rfl, rfl, rfl, rfl⟩ htest
  | sleeping =>
    cases capture with
    | throws e =>
      cases h
      exact .off rfl
    | empty =>
      obtain ⟨⟨c₁, n₁⟩, htest, heq⟩ := Option.map_eq_some_iff.1 h
      cases heq
      exact loopTest_equips ⟨rfl, rfl, rfl, rfl, rfl⟩ htest
    | frame frame now =>
      cases h
      exact .of_update c _ _ _ _ _
  | broadcasting frame =>
    obtain ⟨⟨c₁, n₁⟩, htest, heq⟩ := Option.map_eq_some_iff.1 h
    cases heq
    refine loopTest_equips ?_ htest
    exact ⟨rfl, rfl, rfl, rfl, rfl⟩

theorem startRecording_equips (c : StreamController) (t : Tm) (now : Instant) (fileOpens : Bool) :
    Equips c (c.startRecording t now fileOpens) := by
  unfold StreamController.startRecording
  split
  · exact .refl c
  · exact .of_update c _ _ _ _ _

theorem stopRecording_equips (c : StreamController) (now : Instant) :
    Equips c (c.stopRecording now) := by
  unfold StreamController.stopRecording
  split
  · exact .of_update c _ _ _ _ _
  · exact .refl c

/-- **What an event does to the equipment.** -/
theorem streaming_equips {s s' : StreamSystem} {e : StreamEvent P}
    (hs : (streaming P).step s e = some s') : Equips s.controller s'.controller := by
  cases e with
  | invoke caller call =>
    cases hs
    exact .refl _
  | segment i env =>
    obtain ⟨⟨s₁, t, g⟩, hseg, rfl⟩ := Option.map_eq_some_iff.1 hs
    obtain ⟨-, rfl, rfl⟩ := segment_eq hseg
    exact Pc.run_equips P _ env t.pc
  | loop i capture alive =>
    obtain ⟨⟨s₁, sends⟩, hloop, rfl⟩ := Option.map_eq_some_iff.1 hs
    obtain ⟨pc, c, next, -, hc, rfl⟩ := loop_eq hloop
    exact captureLoop_equips hc
  | addViewer viewer =>
    cases hs
    exact .refl _
  | runAddViewer =>
    obtain ⟨v, vs, -, rfl⟩ := runAddViewer_eq hs
    exact .of_update _ _ _ _ _ _
  | startRecording t now fileOpens =>
    cases hs
    exact startRecording_equips _ t now fileOpens
  | stopRecording now =>
    cases hs
    exact stopRecording_equips _ now
  | playbackExpire =>
    obtain ⟨p, rfl⟩ := playbackExpire_eq hs
    exact .of_update _ _ _ _ _ _
  | playbackHandler k =>
    obtain ⟨⟨s₁, sends⟩, hk, rfl⟩ := Option.map_eq_some_iff.1 hs
    obtain ⟨o, rfl, -⟩ := playbackHandler_eq hk
    exact .of_update _ _ _ _ _ _

end Equipment

/-! ## The frames -/

/-- Whatever has been converted is a picture of one of these sizes, which those of a stream that is
on are among. -/
structure Filming (sizes : List (Int × Int)) (s : Server) : Prop where
  oneLoop : OneLoop s.stream
  tuned : s.stream.controller.isStreaming = true → Tuned s.stream.controller
  begun : s.stream.controller.isStreaming = true →
    (s.stream.controller.frameWidth, s.stream.controller.frameHeight) ∈ sizes
  underway : ∀ frame ∈ s.underway,
    Pictured s.stream.controller.frameWidth s.stream.controller.frameHeight frame
  outgoing : ∀ id, ∀ frame ∈ (s.sessions id).liveFrames,
    ∃ size ∈ sizes, Pictured size.1 size.2 frame

theorem Filming.init : Filming [] {} := ⟨⟨rfl, nofun, nofun⟩, nofun, nofun, nofun, fun _ => nofun⟩

section Frames

variable {P : Platform} {api : Api} {Mat : Type} {cv : OpenCV Mat} {s s' : Server}
  {e : ServerEvent P} {sizes : List (Int × Int)}

theorem drawn_textRows {chars : Bytes} (hne : chars ≠ []) (hint : (chars.length : Int) ≤ INT_MAX)
    (width height : Nat) (pixel : Nat → Nat → UInt8) : Drawn chars width height pixel
      (Raster.textRows height width (fun y x => lut P chars (pixel y x)) newline) := by
  refine ⟨Raster.length_textRows, fun y hy => Raster.getElem?_textRows_mark hy, fun y hy x hx => ?_⟩
  have hnearest := Raster.nearest_level (M := 255) (by decide) (List.length_pos_iff.2 hne)
    (Nat.le_of_lt_succ (pixel y x).toNat_lt)
  exact ⟨_, hnearest, by rw [Raster.getElem?_textRows_cell hy hx, lut_eq hne hint]⟩

/-- What `convert` makes of what the camera shows. -/
theorem pictured_of_convert (hcv : Resizes cv) {m : Mat} {width height : Int} {frame : Bytes}
    (hm : cv.empty m = false) (h : convert P cv streamChars m width height = .ok frame) :
    Pictured width height frame := by
  have hne : streamChars ≠ [] := by decide
  simp only [convert, hm, Bool.false_eq_true, hne, ↓reduceIte] at h
  split at h
  · cases h
  · next gray hgray =>
    split at h
    · cases h
    · next processed hresize =>
      obtain ⟨hwidth, hheight⟩ := hcv gray processed width height hresize
      rw [render_eq, Except.ok.injEq] at h
      exact ⟨_, _, _, hwidth, hheight, h ▸ drawn_textRows hne (by decide) _ _ _⟩

/-- A frame that is being broadcast has its stream. -/
theorem on_of_underway (h : OneLoop s.stream) {frame : Bytes} (hframe : frame ∈ s.underway) :
    s.stream.controller.isStreaming = true := by
  obtain ⟨pc, hpc, -⟩ := List.mem_filterMap.1 hframe
  obtain ⟨i, hi, -⟩ := List.mem_iff_getElem.1 hpc
  exact (h.busy hi).1

/-- A stream that stays on keeps its size. -/
theorem size_of_on (hs : (server P api).step s e = some s')
    (hon : s.stream.controller.isStreaming = true) (hon' : s'.stream.controller.isStreaming = true) :
    s'.stream.controller.frameWidth = s.stream.controller.frameWidth ∧
      s'.stream.controller.frameHeight = s.stream.controller.frameHeight := by
  by_cases hsegment : ∃ i camera content, e = .segment i camera content
  · obtain ⟨i, camera, content, rfl⟩ := hsegment
    obtain ⟨t, g, hsegment⟩ := Server.methodSegment_stream (segmentOf_of_step hs)
    have hstream : (streaming P).step s.stream (.segment i ⟨camera, content, s.alive⟩) =
        some s'.stream := Option.map_eq_some_iff.2 ⟨_, hsegment, rfl⟩
    cases streaming_equips hstream with
    | off isStreaming => cases isStreaming.symm.trans hon'
    | begins idle tuned => cases idle.symm.trans hon
    | keeps same => exact ⟨same.frameWidth, same.frameHeight⟩
  · have hquiet := runsNoMethod_of_step hs fun i camera content he =>
      hsegment ⟨i, camera, content, he⟩
    rcases hquiet.stream with hoff | hsame
    · cases hoff.symm.trans hon'
    · exact ⟨hsame.frameWidth, hsame.frameHeight⟩

/-- The sizes of the streams so far stay recorded. -/
theorem mem_sizesAfter {size : Int × Int} (h : size ∈ sizes) (s' : Server) :
    size ∈ s.sizesAfter s' sizes := by
  unfold Server.sizesAfter
  split
  · exact List.mem_append_left _ h
  · exact h

/-- And that of the stream that is on is among them. -/
theorem begun_step (hs : (server P api).step s e = some s')
    (hbegun : s.stream.controller.isStreaming = true →
      (s.stream.controller.frameWidth, s.stream.controller.frameHeight) ∈ sizes)
    (hon' : s'.stream.controller.isStreaming = true) :
    (s'.stream.controller.frameWidth, s'.stream.controller.frameHeight) ∈ s.sizesAfter s' sizes := by
  cases hon : s.stream.controller.isStreaming with
  | false =>
    unfold Server.sizesAfter
    rw [if_pos ⟨hon, hon'⟩]
    exact List.mem_append_right _ List.mem_cons_self
  | true =>
    obtain ⟨hwidth, hheight⟩ := size_of_on hs hon hon'
    rw [hwidth, hheight]
    exact mem_sizesAfter (hbegun hon) s'

/-- Outside the capture loop neither the frame that is being broadcast nor its size changes, unless
there is no stream any more. -/
theorem underway_of_quiet (hone : OneLoop s.stream) (hs : (server P api).step s e = some s')
    (hloop : ∀ i capture, e ≠ .loop i capture) : s'.underway = [] ∨ s'.underway = s.underway ∧
      s'.stream.controller.frameWidth = s.stream.controller.frameWidth ∧
        s'.stream.controller.frameHeight = s.stream.controller.frameHeight := by
  have ends : s'.stream.controller.isStreaming = false → s'.underway = [] := by
    intro hoff
    have hlive := (hone.server_step hs).live
    rw [hoff, if_neg Bool.false_ne_true, List.length_eq_zero_iff] at hlive
    rw [Server.underway, hlive]
    rfl
  by_cases hsegment : ∃ i camera content, e = .segment i camera content
  · obtain ⟨i, camera, content, rfl⟩ := hsegment
    have hseg := segmentOf_of_step hs
    rcases segment_loops hone hseg with hloops | ⟨-, hloops⟩
    · obtain ⟨t, g, hsegment⟩ := Server.methodSegment_stream hseg
      have hstream : (streaming P).step s.stream (.segment i ⟨camera, content, s.alive⟩) =
          some s'.stream := Option.map_eq_some_iff.2 ⟨_, hsegment, rfl⟩
      cases streaming_equips hstream with
      | off isStreaming => exact Or.inl (ends isStreaming)
      | begins idle tuned =>
        have hlive := hone.live
        rw [idle, if_neg Bool.false_ne_true, List.length_eq_zero_iff] at hlive
        left
        rw [Server.underway, hloops, hlive]
        rfl
      | keeps same => exact Or.inr ⟨by rw [Server.underway, hloops]; rfl, same.frameWidth,
          same.frameHeight⟩
    · left
      rw [Server.underway, hloops]
      rfl
  · have hquiet := runsNoMethod_of_step hs fun i camera content he =>
      hsegment ⟨i, camera, content, he⟩
    rcases hquiet.stream with hoff | hsame
    · exact Or.inl (ends hoff)
    · right
      rw [Server.underway, hquiet.loops hloop]
      exact ⟨rfl, hsame.frameWidth, hsame.frameHeight⟩

/-- What a segment of the capture loop has under way. -/
theorem underway_of_loop (hcv : Resizes cv) (h : Filming sizes s) {i : Nat} {capture : Capture P}
    (hfilms : Films cv s (.loop i capture : ServerEvent P))
    (hs : (server P api).step s (.loop i capture) = some s') :
    ∀ frame ∈ s'.underway,
      Pictured s'.stream.controller.frameWidth s'.stream.controller.frameHeight frame := by
  obtain ⟨⟨stream, sends⟩, hloop, rfl⟩ := Option.map_eq_some_iff.1 (segmentOf_of_step hs)
  obtain ⟨pc, c, next, hi, hc, rfl⟩ := loop_eq hloop
  obtain ⟨hon, hlen, rfl⟩ := h.oneLoop.busy (List.getElem?_eq_some_iff.1 hi).1
  obtain ⟨pc', hloops⟩ := List.length_eq_one_iff.1 hlen
  have hunderway : ((s.setStream { s.stream with
      controller := c, loops := proceed s.stream.loops 0 next }).sendAll sends).underway =
        next.toList.filterMap LoopPc.frame := by
    rw [Server.underway, Server.sendAll_stream, Server.setStream, hloops]
    cases next <;> rfl
  rw [hunderway, Server.sendAll_stream]
  rcases captureLoop_frame hc with ⟨frame, now, rfl, rfl, rfl, -⟩ | ⟨-, hnone⟩
  · intro text htext
    obtain rfl : text = frame.bytes := List.mem_singleton.1 htext
    obtain ⟨m, hm, hconvert⟩ := hfilms hi
    rw [(h.tuned hon).asciiChars] at hconvert
    cases hc
    exact pictured_of_convert hcv hm hconvert
  · rw [hnone]
    intro text htext
    cases htext

/-- What it hands to the clients. -/
theorem outgoing_of_loop (h : Filming sizes s) {i : Nat} {capture : Capture P}
    (hs : (server P api).step s (.loop i capture) = some s') (id : SessionId) :
    ∀ frame ∈ (s'.sessions id).liveFrames, ∃ size ∈ sizes, Pictured size.1 size.2 frame := by
  obtain ⟨⟨stream, sends⟩, hloop, rfl⟩ := Option.map_eq_some_iff.1 (segmentOf_of_step hs)
  obtain ⟨pc, c, next, hi, hc, rfl⟩ := loop_eq hloop
  intro frame hframe
  rw [sendAll_liveFrames] at hframe
  rcases List.mem_append.1 hframe with hframe | hframe
  · exact h.outgoing id frame hframe
  · rcases captureLoop_viewers hc with ⟨-, -, rfl⟩ | ⟨broadcast, rfl, -, rfl⟩
    · cases hframe
    · rw [framesFor_broadcast] at hframe
      obtain rfl := List.eq_of_mem_replicate hframe
      have hunderway : frame ∈ s.underway :=
        List.mem_filterMap.2 ⟨_, List.mem_of_getElem? hi, rfl⟩
      have hon := on_of_underway h.oneLoop hunderway
      exact ⟨_, h.begun hon, h.underway frame hunderway⟩

theorem Filming.step (hcv : Resizes cv) (h : Filming sizes s) (hfilms : Films cv s e)
    (hs : (server P api).step s e = some s') : Filming (s.sizesAfter s' sizes) s' := by
  obtain ⟨ds, hds⟩ := server_simulates_streaming P api [e] s s'
    (Machine.run_cons_some.2 ⟨s', hs, rfl⟩)
  have htuned : s'.stream.controller.isStreaming = true → Tuned s'.stream.controller :=
    Machine.run_invariant (I := fun s : StreamSystem => s.controller.isStreaming = true →
      Tuned s.controller) (fun hi hd hon => (streaming_equips hd).tuned hi hon) ds h.tuned hds
  have outgoing : (∀ id, ∀ frame ∈ (s'.sessions id).liveFrames,
      ∃ size ∈ sizes, Pictured size.1 size.2 frame) → ∀ id, ∀ frame ∈ (s'.sessions id).liveFrames,
        ∃ size ∈ s.sizesAfter s' sizes, Pictured size.1 size.2 frame := by
    intro hold id frame hframe
    obtain ⟨size, hsize, hpictured⟩ := hold id frame hframe
    exact ⟨size, mem_sizesAfter hsize s', hpictured⟩
  refine ⟨h.oneLoop.server_step hs, htuned, begun_step hs h.begun, ?_, outgoing fun id => ?_⟩
  · by_cases hloop : ∃ i capture, e = .loop i capture
    · obtain ⟨i, capture, rfl⟩ := hloop
      exact underway_of_loop hcv h hfilms hs
    · rcases underway_of_quiet h.oneLoop hs fun i capture he => hloop ⟨i, capture, he⟩ with
        hnone | ⟨hsame, hwidth, hheight⟩
      · rw [hnone]
        exact nofun
      · rw [hsame, hwidth, hheight]
        exact h.underway
  · by_cases hloop : ∃ i capture, e = .loop i capture
    · obtain ⟨i, capture, rfl⟩ := hloop
      exact outgoing_of_loop h hs id
    · have hsub : (s'.sessions id).liveFrames.Sublist (s.sessions id).liveFrames :=
        liveFrames_of_quiet hs fun i capture he => hloop ⟨i, capture, he⟩
      exact fun frame hframe => h.outgoing id frame (hsub.subset hframe)

/-- The products that the camera is asked for are computed where the config messages are in range. -/
theorem products_of_inRange {es : List (ServerEvent P)} (hrun : (server P api).run {} es = some s)
    (hrange : (server P api).AllSteps (StartsInRange api) {} es)
    (hon : s.stream.controller.isStreaming = true) :
    IsInt (s.stream.controller.frameWidth * 2) ∧ IsInt (s.stream.controller.frameHeight * 2) := by
  have hdefined : Configured P api s ∧ StreamDefined P s.stream :=
    hrange.invariant (I := fun s => Configured P api s ∧ StreamDefined P s.stream)
      (fun hi hC hs => ⟨hi.1.step hs, (streamDefined_step hi.1 hi.2 hs).2 hC⟩)
      ⟨.init, .init P⟩ hrun
  exact hdefined.2.products hon

/-- **Every live frame is a picture of a stream of the run.** In every run of the server whose config
messages are in range where they begin a stream and whose capture loops film what the camera shows, a
stream that is on has its camera open at twice its size and its converter set, the frame that is being
broadcast is a complete picture of the size of that stream, and everything live that is on its way to
a client is a complete picture of the size of one of the streams that have begun. -/
theorem every_frame_pictured (P : Platform) (api : Api) {Mat : Type} (cv : OpenCV Mat)
    (hcv : Resizes cv) (es : List (ServerEvent P)) (s : Server)
    (hrun : (server P api).run {} es = some s)
    (hrange : (server P api).AllSteps (StartsInRange api) {} es)
    (hfilms : (server P api).AllSteps (Films cv) {} es) :
    (s.stream.controller.isStreaming = true → Equipped s.stream.controller ∧
      (s.stream.controller.frameWidth, s.stream.controller.frameHeight) ∈ sizesOf P api es) ∧
      (∀ frame ∈ s.underway, s.stream.controller.isStreaming = true ∧
        Pictured s.stream.controller.frameWidth s.stream.controller.frameHeight frame) ∧
      ∀ id, ∀ frame ∈ (s.sessions id).liveFrames,
        ∃ size ∈ sizesOf P api es, Pictured size.1 size.2 frame := by
  have h : Filming (sizesOf P api es) s :=
    Machine.record_invariant (I := fun s sizes => Filming sizes s)
      (fun hi hC hs => hi.step hcv hC hs) Filming.init hfilms hrun
  refine ⟨fun hon => ⟨?_, h.begun hon⟩, fun frame hframe => ⟨?_, h.underway frame hframe⟩, h.outgoing⟩
  · obtain ⟨hwidth, hheight⟩ := products_of_inRange hrun hrange hon
    exact ⟨h.tuned hon, hwidth, hheight⟩
  · exact on_of_underway h.oneLoop hframe

end Frames

/-! ### Four pixels, and one -/

/-- OpenCV on pictures that have the size asked for, the empty one apart. -/
def sizedPictures : OpenCV Picture where
  __ := pictures
  resize m width height :=
    if m ≠ [] ∧ (m.length : Int) = height ∧ ∀ row ∈ m, (row.length : Int) = width then .ok m
    else .error (.runtimeError (lit "resize"))

theorem resizes_sizedPictures : Resizes sizedPictures := by
  intro m m' width height h
  simp only [sizedPictures] at h
  split at h
  · next hsize =>
    obtain ⟨hne, hheight, hwidth⟩ := hsize
    cases h
    cases m with
    | nil => exact absurd rfl hne
    | cons row rows => exact ⟨(hwidth row List.mem_cons_self).symm, hheight.symm⟩
  · cases h

/-- A parser that also knows streams of two by two characters and of one. -/
def smallApi : Api where
  apiKey := lit "key"
  parse text :=
    if text = lit "small" then .ok (.object [(lit "type", .string (lit "config")),
      (lit "resolution", .string (lit "2x2"))])
    else if text = lit "tiny" then .ok (.object [(lit "type", .string (lit "config")),
      (lit "resolution", .string (lit "1x1"))])
    else sampleApi.parse text

def smallFrame : Str x86_64 := ⟨lit "@+\n: \n", by decide⟩

def tinyFrame : Str x86_64 := ⟨lit "@\n", by decide⟩

/-- A controller streams four pixels, stops, is a viewer again and streams a single one. -/
def smallStream : List (ServerEvent x86_64) :=
  joins 1 ++ [tells 1 "controller", .runAddViewer, tells 1 "small", .segment 0 .working none,
    .loop 0 .empty, .loop 0 (.frame smallFrame 0), .loop 0 .empty, tells 1 "stop" true,
    .segment 0 .working none, .loop 0 .empty, .segment 0 .working none, tells 1 "controller",
    .runAddViewer, tells 1 "tiny", .segment 0 .working none, .loop 0 .empty,
    .loop 0 (.frame tinyFrame 0), .loop 0 .empty, .loop 0 (.frame tinyFrame 0)]

/-- What the camera of these streams shows. -/
def ShowsPixels (s : Server) : ServerEvent x86_64 → Bool
  | .loop _ (.frame frame _) =>
    let c := s.stream.controller
    c.asciiChars == streamChars &&
      (c.frameWidth == 2 && c.frameHeight == 2 && frame.bytes == smallFrame.bytes ||
        c.frameWidth == 1 && c.frameHeight == 1 && frame.bytes == tinyFrame.bytes)
  | _ => true

theorem films_of_showsPixels (s : Server) (e : ServerEvent x86_64) (h : ShowsPixels s e = true) :
    Films sizedPictures s e := by
  cases e with
  | loop i capture =>
    cases capture with
    | frame frame now =>
      intro _
      simp only [ShowsPixels, Bool.and_eq_true, Bool.or_eq_true, beq_iff_eq] at h
      obtain ⟨hchars, ⟨⟨hwidth, hheight⟩, hframe⟩ | ⟨⟨hwidth, hheight⟩, hframe⟩⟩ := h
      · rw [hchars, hwidth, hheight, hframe]
        exact ⟨fourPixels, rfl, by decide +kernel⟩
      · rw [hchars, hwidth, hheight, hframe]
        exact ⟨[[[0, 0, 0]]], rfl, by decide +kernel⟩
    | throws e => trivial
    | empty => trivial
  | _ => trivial

/-- The streams that begin are these. -/
def StartsPixels (s : Server) : ServerEvent x86_64 → Bool
  | .segment i _ _ => s.stream.tasks[i]?.all fun t => match t.pc with
    | .dispatch (.startStreaming _ resolution fps) =>
      (resolution == lit "2x2" || resolution == lit "1x1") && fps == 10
    | _ => true
  | _ => true

theorem startsInRange_of_startsPixels {api : Api} {s : Server} {e : ServerEvent x86_64}
    (h : Configured x86_64 api s) (hstarts : StartsPixels s e = true) : StartsInRange api s e := by
  have hsmall : InRange (lit "2x2") 10 := .of_stoi (w := 2) (h := 2) (by decide) rfl rfl
    (by decide) (by decide)
  have htiny : InRange (lit "1x1") 10 := .of_stoi (w := 1) (h := 1) (by decide) rfl rfl
    (by decide) (by decide)
  cases e with
  | segment i camera content =>
    refine h.startsInRange_of_call fun t cameraIndex resolution fps ht hcall => ?_
    simp only [StartsPixels, ht, hcall, Option.all_some, Bool.and_eq_true, Bool.or_eq_true,
      beq_iff_eq] at hstarts
    obtain ⟨rfl | rfl, rfl⟩ := hstarts
    · exact hsmall
    · exact htiny
  | _ => trivial

theorem every_frame_pictured_smallStream : ∃ s,
    (server x86_64 smallApi).run {} smallStream = some s ∧
      s.stream.controller.isStreaming = true ∧ s.underway = [tinyFrame.bytes] ∧
      (s.sessions 1).liveFrames = [smallFrame.bytes, tinyFrame.bytes] ∧
      sizesOf x86_64 smallApi smallStream = [(2, 2), (1, 1)] ∧
      (s.stream.controller.isStreaming = true → Equipped s.stream.controller ∧
        (s.stream.controller.frameWidth, s.stream.controller.frameHeight) ∈
          sizesOf x86_64 smallApi smallStream) ∧
      (∀ frame ∈ s.underway, s.stream.controller.isStreaming = true ∧
        Pictured s.stream.controller.frameWidth s.stream.controller.frameHeight frame) ∧
      ∀ id, ∀ frame ∈ (s.sessions id).liveFrames,
        ∃ size ∈ sizesOf x86_64 smallApi smallStream, Pictured size.1 size.2 frame := by
  have hfacts : (((server x86_64 smallApi).restrict fun s e =>
      ShowsPixels s e = true ∧ StartsPixels s e = true).run {} smallStream).any (fun s =>
        s.stream.controller.isStreaming && s.underway == [tinyFrame.bytes] &&
        (s.sessions 1).liveFrames == [smallFrame.bytes, tinyFrame.bytes]) = true := by decide +kernel
  have hsizes : sizesOf x86_64 smallApi smallStream = [(2, 2), (1, 1)] := by decide +kernel
  obtain ⟨s, hs, hfacts⟩ := (Option.any_eq_true _ _).1 hfacts
  obtain ⟨hsteps, hrun⟩ := Machine.run_restrict.1 hs
  simp only [Bool.and_eq_true, beq_iff_eq] at hfacts
  obtain ⟨⟨hon, hunderway⟩, hlive⟩ := hfacts
  have hrange : (server x86_64 smallApi).AllSteps (StartsInRange smallApi) {} smallStream :=
    hsteps.of_invariant (I := Configured x86_64 smallApi) (fun hi _ hs => hi.step hs)
      (fun hi hc => startsInRange_of_startsPixels hi hc.2) .init
  exact ⟨s, hrun, hon, hunderway, hlive, hsizes, every_frame_pictured x86_64 smallApi sizedPictures
    resizes_sizedPictures smallStream s hrun hrange
    (hsteps.mono fun s e h => films_of_showsPixels s e h.1)⟩

end AsciiStreamer
