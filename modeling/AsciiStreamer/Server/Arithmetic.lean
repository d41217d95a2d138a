import AsciiStreamer.Server.Acknowledged
import AsciiStreamer.Server.Order

/-!
# The numbers of a config message

`fps_` and the two numbers of the resolution come from a config message and are computed with later:
`start_streaming` doubles the one, `capture_loop` divides by the other. Nothing on the way asks
whether that can be done. What the arithmetic of the stream needs is `StreamDefined`; a run keeps it
exactly if every config message that gets a stream going is `InRange` (`stream_defined_iff`).
-/

namespace AsciiStreamer

open Cxx

/-! ## Config messages -/

/-- The text is a `config` message with these fields, absent ones replaced by their defaults. -/
def ConfigMessage (P : Platform) (api : Api) (text : Bytes) (cameraIndex : Int) (resolution : Bytes)
    (fps : Int) : Prop :=
  ∃ j, api.parse text = .ok j ∧ (j.field (lit "type") >>= Json.getString) = .ok (lit "config") ∧
    j.value (lit "camera_index") (Json.getInt (castInt P)) 0 = .ok cameraIndex ∧
    j.value (lit "resolution") Json.getString (lit "120x90") = .ok resolution ∧
    j.value (lit "fps") (Json.getInt (castInt P)) 10 = .ok fps

/-- The stream can be computed with: no frame rate of zero, and numbers whose doubles are `int`s. -/
structure InRange (resolution : Bytes) (fps : Int) : Prop where
  fps : fps ≠ 0
  width : ∀ w, stoi (StreamController.widthText resolution) = .ok w → -2 ^ 30 ≤ w ∧ w < 2 ^ 30
  height : ∀ h, stoi (StreamController.heightText resolution) = .ok h → -2 ^ 30 ≤ h ∧ h < 2 ^ 30

def IsInt (z : Int) : Prop := INT_MIN ≤ z ∧ z ≤ INT_MAX

/-- No segment of a live capture loop divides by zero, and the products that the camera was given are
`int`s. -/
structure StreamDefined (P : Platform) (s : StreamSystem) : Prop where
  division : ∀ pc ∈ s.loops, ∀ (capture : Capture P) (alive : SessionId → Bool),
    s.controller.captureLoop P capture alive pc ≠ none
  products : s.controller.isStreaming = true →
    IsInt (s.controller.frameWidth * 2) ∧ IsInt (s.controller.frameHeight * 2)

/-- Where the event runs the `start_streaming` of a config message and a stream begins, the message is
in range. -/
def StartsInRange {P : Platform} (api : Api) (s : Server) : ServerEvent P → Prop
  | .segment i camera _ => ∀ t id text cameraIndex resolution fps, s.stream.tasks[i]? = some t →
      t.handles id → lastMessage s.trace id = some text →
        ConfigMessage P api text cameraIndex resolution fps →
          Begins s.stream.controller resolution camera → InRange resolution fps
  | _ => True

theorem InRange.of_stoi {resolution : Bytes} {fps w h : Int} (hfps : fps ≠ 0)
    (hwidth : stoi (StreamController.widthText resolution) = .ok w)
    (hheight : stoi (StreamController.heightText resolution) = .ok h)
    (hw : -2 ^ 30 ≤ w ∧ w < 2 ^ 30) (hh : -2 ^ 30 ≤ h ∧ h < 2 ^ 30) : InRange resolution fps := by
  refine ⟨hfps, fun w' hw' => ?_, fun h' hh' => ?_⟩
  · cases hwidth.symm.trans hw'
    exact hw
  · cases hheight.symm.trans hh'
    exact hh

section Decoding

variable {P : Platform} {api : Api} {isController : Bool} {text resolution : Bytes}
  {cameraIndex fps : Int}

/-- A `config` message is a command to controllers only. -/
theorem ConfigMessage.decode (h : ConfigMessage P api text cameraIndex resolution fps) :
    decode P api isController text =
      .ok (if isController then .config cameraIndex resolution fps else .unknown) := by
  obtain ⟨j, hj, htype, hcamera, hresolution, hfps⟩ := h
  obtain ⟨f, hf, hstring⟩ := bind_ok.1 htype
  refine bind_ok.2 ⟨j, hj, bind_ok.2 ⟨f, hf, bind_ok.2 ⟨lit "config", hstring, ?_⟩⟩⟩
  cases isController with
  | true =>
    refine bind_ok.2 ⟨cameraIndex, hcamera, bind_ok.2 ⟨resolution, hresolution, ?_⟩⟩
    exact bind_ok.2 ⟨fps, hfps, rfl⟩
  | false => rfl

theorem configMessage_of_decode
    (h : AsciiStreamer.decode P api isController text = .ok (.config cameraIndex resolution fps)) :
    ConfigMessage P api text cameraIndex resolution fps := by
  obtain ⟨j, type, hj, htype, hbranch⟩ := branch_of_decode h
  cases hbranch with
  | config _ _ _ type_eq controller cameraIndex_eq resolution_eq fps_eq =>
    exact ⟨j, hj, type_eq ▸ htype, cameraIndex_eq, resolution_eq, fps_eq⟩
  | controller _ controller command => rcases command with hc | hc | hc <;> cases hc
  | anyone _ unprivileged => cases unprivileged

theorem castInt_eq_zero_iff {q : Rat} : castInt P q = 0 ↔ q.num.natAbs < q.den ∨
    ¬(INT_MIN ≤ q.num.tdiv q.den ∧ q.num.tdiv q.den ≤ INT_MAX) ∧ P.castOut q = 0 := by
  have hdiv : q.num.tdiv q.den = 0 ↔ q.num.natAbs < q.den := by
    rw [← Int.natAbs_eq_zero, Int.natAbs_tdiv, Int.natAbs_natCast]
    exact Nat.div_eq_zero_iff_lt q.den_pos
  unfold castInt
  simp only
  split
  · next hrange =>
    rw [hdiv]
    exact ⟨Or.inl, fun h => h.resolve_right fun hout => hout.1 hrange⟩
  · next hrange =>
    refine ⟨fun h => Or.inr ⟨hrange, h⟩, fun h => ?_⟩
    rcases h with hsmall | ⟨-, hout⟩
    · -- a fraction of one is in range
      rw [hdiv.2 hsmall] at hrange
      exact absurd (by decide) hrange
    · exact hout

/-- What a message can give as `fps` for a frame rate of zero. -/
theorem getInt_eq_zero_iff {j : Json} : j.getInt (castInt P) = .ok 0 ↔
    (∃ z, j = .integer z ∧ 2 ^ 32 ∣ z) ∨
      (∃ q : Rat, j = .float q ∧ (q.num.natAbs < q.den ∨
        ¬(INT_MIN ≤ q.num.tdiv q.den ∧ q.num.tdiv q.den ≤ INT_MAX) ∧ P.castOut q = 0)) ∨
      j = .boolean false := by
  cases j with
  | integer z =>
    have hz : Json.toInt32 z = 0 ↔ (2 : Int) ^ 32 ∣ z := by
      unfold Json.toInt32
      omega
    simp [Json.getInt, hz]
  | float q => simp only [Json.getInt, Except.ok.injEq, castInt_eq_zero_iff, reduceCtorEq, false_and,
      exists_false, Json.float.injEq, exists_eq_left', or_false, false_or]
  | boolean b => cases b <;> simp [Json.getInt]
  | _ => simp [Json.getInt]

end Decoding

/-! ## The division -/

section Division

variable {P : Platform} {c c' : StreamController} {s : StreamSystem}

/-- The loop would go on, and its delay has no value. -/
structure DividesByZero (c : StreamController) : Prop where
  isStreaming : c.isStreaming = true
  stopRequested : c.stopRequested = false
  fps : c.fps = 0

theorem loopTest_eq_none : c.loopTest = none ↔ DividesByZero c := by
  unfold StreamController.loopTest
  constructor
  · intro h
    split at h
    · next hgoes =>
      simp only [Bool.and_eq_true, Bool.not_eq_true'] at hgoes
      split at h
      · next hfps => exact ⟨hgoes.2, hgoes.1, hfps⟩
      · cases h
    · cases h
  · rintro ⟨hon, hstop, hfps⟩
    simp only [hon, hstop, hfps, Bool.not_false, Bool.and_self, ↓reduceIte]

theorem captureLoop_eq_none {capture : Capture P} {alive : SessionId → Bool} {pc : LoopPc}
    (h : c.captureLoop P capture alive pc = none) : DividesByZero c := by
  cases pc with
  | spawned => exact loopTest_eq_none.1 (Option.map_eq_none_iff.1 h)
  | sleeping =>
    cases capture with
    | throws e => cases h
    | empty => exact loopTest_eq_none.1 (Option.map_eq_none_iff.1 h)
    | frame frame now => cases h
  | broadcasting frame =>
    obtain ⟨hon, hstop, hfps⟩ := loopTest_eq_none.1 (Option.map_eq_none_iff.1 h)
    exact ⟨hon, hstop, hfps⟩

/-- Wherever the loop is suspended, it can come to the division. -/
theorem DividesByZero.captureLoop (h : DividesByZero c) (alive : SessionId → Bool) (pc : LoopPc) :
    c.captureLoop P .empty alive pc = none := by
  have htest : c.loopTest = none := loopTest_eq_none.2 h
  cases pc with
  | spawned => exact Option.map_eq_none_iff.2 htest
  | sleeping => exact Option.map_eq_none_iff.2 htest
  | broadcasting frame =>
    have hviewers : DividesByZero (c.broadcastFrame alive frame).1 :=
      ⟨h.isStreaming, h.stopRequested, h.fps⟩
    exact Option.map_eq_none_iff.2 (loopTest_eq_none.2 hviewers)

/-- What the arithmetic needs, as a condition on the controller. -/
theorem streamDefined_iff (h : OneLoop s) : StreamDefined P s ↔ ¬DividesByZero s.controller ∧
    (s.controller.isStreaming = true →
      IsInt (s.controller.frameWidth * 2) ∧ IsInt (s.controller.frameHeight * 2)) := by
  constructor
  · rintro ⟨hdivision, hproducts⟩
    refine ⟨fun hzero => ?_, hproducts⟩
    have hlive := h.live
    rw [hzero.isStreaming, if_pos rfl] at hlive
    obtain ⟨pc, hloops⟩ := List.length_eq_one_iff.1 hlive
    have hmem : pc ∈ s.loops := by
      rw [hloops]
      exact List.mem_singleton_self pc
    exact hdivision pc hmem .empty (fun _ => true) (hzero.captureLoop _ pc)
  · rintro ⟨hzero, hproducts⟩
    exact ⟨fun pc _ capture alive hnone => hzero (captureLoop_eq_none hnone), hproducts⟩

theorem isInt_double {z : Int} : IsInt (z * 2) ↔ -2 ^ 30 ≤ z ∧ z < 2 ^ 30 := by
  unfold IsInt INT_MIN INT_MAX
  omega

/-- A stream that has just begun. -/
theorem inRange_iff_of_applied {cameraIndex fps : Int} {resolution : Bytes}
    (h : Applied c cameraIndex resolution fps) (hstop : c.stopRequested = false) :
    (¬DividesByZero c ∧ (c.isStreaming = true → IsInt (c.frameWidth * 2) ∧ IsInt (c.frameHeight * 2))) ↔
      InRange resolution fps := by
  constructor
  · rintro ⟨hzero, hproducts⟩
    obtain ⟨hwidth, hheight⟩ := hproducts h.active
    refine ⟨fun hfps => hzero ⟨h.active, hstop, h.fps.trans hfps⟩, fun w hw => ?_, fun w hw => ?_⟩
    · cases hw.symm.trans h.width
      exact isInt_double.1 hwidth
    · cases hw.symm.trans h.height
      exact isInt_double.1 hheight
  · rintro ⟨hfps, hwidth, hheight⟩
    refine ⟨fun hzero => hfps (h.fps.symm.trans hzero.fps), fun _ => ⟨?_, ?_⟩⟩
    · exact isInt_double.2 (hwidth _ h.width)
    · exact isInt_double.2 (hheight _ h.height)

end Division

theorem StreamDefined.init (P : Platform) : StreamDefined P ({} : Server).stream := ⟨nofun, nofun⟩

/-! ## Every step -/

/-- What is known of the methods that start streams. -/
structure Configured (P : Platform) (api : Api) (s : Server) : Prop where
  handled : Handled P api s
  destructors : DestructorCalls s
  one : OneLoop s.stream

section Steps

variable {P : Platform} {api : Api} {s s' : Server} {e : ServerEvent P}

theorem Configured.init : Configured P api {} := ⟨.init, nofun, ⟨rfl, nofun, nofun⟩⟩

theorem Configured.step (h : Configured P api s) (hs : (server P api).step s e = some s') :
    Configured P api s' :=
  ⟨h.handled.step hs, h.destructors.step hs, h.one.server_step hs⟩

/-- A stream that goes on as it was, or is over. -/
theorem streamDefined_of_same (h : OneLoop s.stream) (h' : OneLoop s'.stream)
    (hp : StreamDefined P s.stream) (hsame : s'.stream.controller.isStreaming = false ∨
      SameStream s.stream.controller s'.stream.controller) : StreamDefined P s'.stream := by
  rw [streamDefined_iff h'] at ⊢
  obtain ⟨hzero, hproducts⟩ := (streamDefined_iff h).1 hp
  rcases hsame with hoff | hsame
  · refine ⟨fun hz => ?_, fun hon => ?_⟩
    · cases hoff.symm.trans hz.isStreaming
    · cases hoff.symm.trans hon
  · refine ⟨fun hz => hzero ?_, fun hon => ?_⟩
    · exact ⟨hsame.isStreaming.symm.trans hz.isStreaming,
        hsame.stopRequested.symm.trans hz.stopRequested, hsame.fps.symm.trans hz.fps⟩
    · rw [hsame.frameWidth, hsame.frameHeight]
      exact hproducts (hsame.isStreaming.symm.trans hon)

/-! ### The message behind a start -/

/-- The method of a handler whose last message is a `config` message. -/
theorem Handled.config_task (h : Handled P api s) {t : Task} (ht : t ∈ s.stream.tasks)
    {id : SessionId} (hid : t.handles id) {text resolution : Bytes} {cameraIndex fps : Int}
    (hlast : lastMessage s.trace id = some text)
    (hconfig : ConfigMessage P api text cameraIndex resolution fps) :
    t.pc = .dispatch (.startStreaming cameraIndex resolution fps) := by
  obtain ⟨reply, hreader⟩ := h.task t ht id hid
  obtain ⟨text', c, hlast', hdecode, hawaited⟩ := (h.message id _ reply hreader).command
  cases hlast.symm.trans hlast'
  have hc := hdecode.symm.trans hconfig.decode
  cases hcontroller : (s.sessions id).isController with
  | false =>
    simp only [hcontroller, Bool.false_eq_true, ↓reduceIte, Except.ok.injEq] at hc
    rw [hc] at hawaited
    cases hawaited
  | true =>
    simp only [hcontroller, ↓reduceIte, Except.ok.injEq] at hc
    rw [hc] at hawaited
    simp only [Command.awaited, Option.some.injEq, Prod.mk.injEq] at hawaited
    exact Pc.call_startStreaming hawaited.1.symm

/-- And the message of a method that starts a stream. -/
theorem Configured.message (h : Configured P api s) {t : Task} (ht : t ∈ s.stream.tasks)
    {resolution : Bytes} {cameraIndex fps : Int}
    (hpc : t.pc = .dispatch (.startStreaming cameraIndex resolution fps)) :
    ∃ id text, t.handles id ∧ lastMessage s.trace id = some text ∧
      ConfigMessage P api text cameraIndex resolution fps := by
  obtain ⟨id, hid⟩ := h.destructors.handled ht (by rw [hpc]; exact nofun) (by rw [hpc]; exact nofun)
  obtain ⟨reply, hreader⟩ := h.handled.task t ht id hid
  obtain ⟨text, c, hlast, hdecode, hawaited⟩ := (h.handled.message id _ reply hreader).command
  refine ⟨id, text, hid, hlast, ?_⟩
  rw [hpc] at hawaited
  rcases awaited_cases hawaited with ⟨cameraIndex', resolution', fps', rfl, hcall, -⟩ |
    ⟨filename, -, hcall, -⟩ | ⟨hno, -⟩
  · cases hcall
    exact configMessage_of_decode hdecode
  · cases hcall
  · exact absurd rfl (hno cameraIndex resolution fps)

/-- The condition, for the method that runs. -/
theorem Configured.startsInRange_iff (h : Configured P api s) {i : Nat} {camera : CameraEnv}
    {content : Option Bytes} {t : Task} (ht : s.stream.tasks[i]? = some t) {resolution : Bytes}
    {cameraIndex fps : Int} (hpc : t.pc = .dispatch (.startStreaming cameraIndex resolution fps)) :
    StartsInRange api s (.segment i camera content : ServerEvent P) ↔
      (Begins s.stream.controller resolution camera → InRange resolution fps) := by
  constructor
  · intro hin hbegins
    obtain ⟨id, text, hid, hlast, hconfig⟩ := h.message (List.mem_of_getElem? ht) hpc
    exact hin t id text cameraIndex resolution fps ht hid hlast hconfig hbegins
  · intro hin t' id text cameraIndex' resolution' fps' ht' hid hlast hconfig hbegins
    cases ht.symm.trans ht'
    have hpc' := h.handled.config_task (List.mem_of_getElem? ht) hid hlast hconfig
    cases hpc.symm.trans hpc'
    exact hin hbegins

/-- It is met by the method that runs if what that one starts is in range. -/
theorem Configured.startsInRange_of_call (h : Configured P api s) {i : Nat} {camera : CameraEnv}
    {content : Option Bytes} (hcall : ∀ t cameraIndex resolution fps,
      s.stream.tasks[i]? = some t →
        t.pc = .dispatch (.startStreaming cameraIndex resolution fps) → InRange resolution fps) :
    StartsInRange api s (.segment i camera content : ServerEvent P) := by
  intro t id text cameraIndex resolution fps ht hid hlast hconfig _
  exact hcall t cameraIndex resolution fps ht
    (h.handled.config_task (List.mem_of_getElem? ht) hid hlast hconfig)

theorem Configured.startsInRange_of_other (h : Configured P api s) {i : Nat} {camera : CameraEnv}
    {content : Option Bytes} {t : Task} (ht : s.stream.tasks[i]? = some t)
    (hpc : ∀ cameraIndex resolution fps,
      t.pc = .dispatch (.startStreaming cameraIndex resolution fps) →
        s.stream.controller.isStreaming = true) :
    StartsInRange api s (.segment i camera content : ServerEvent P) := by
  intro t' id text cameraIndex resolution fps ht' hid hlast hconfig hbegins
  cases ht.symm.trans ht'
  have hon := hpc _ _ _ (h.handled.config_task (List.mem_of_getElem? ht) hid hlast hconfig)
  cases hbegins.idle.symm.trans hon

/-- A segment of a method keeps the arithmetic defined exactly if it starts no stream out of range. -/
theorem streamDefined_segment (h : Configured P api s) (hp : StreamDefined P s.stream) {i : Nat}
    {camera : CameraEnv} {content : Option Bytes}
    (hs : (server P api).step s (.segment i camera content) = some s') :
    StreamDefined P s'.stream ↔ StartsInRange api s (.segment i camera content : ServerEvent P) := by
  have hone' := (h.step hs).one
  obtain ⟨stream, t, ht, -, -, -, -⟩ := methodSegment_cases (segmentOf_of_step hs)
  obtain ⟨t', g, hseg⟩ := Server.methodSegment_stream (segmentOf_of_step hs)
  obtain ⟨ht', rfl, hstream⟩ := segment_eq hseg
  cases ht.symm.trans ht'
  have hself : s'.stream.controller =
      (t.pc.run P s.stream.controller ⟨camera, content, s.alive⟩).self :=
    congrArg StreamSystem.controller hstream
  have kept : (s'.stream.controller.isStreaming = false ∨
      SameStream s.stream.controller s'.stream.controller) →
      (∀ cameraIndex resolution fps,
        t.pc = .dispatch (.startStreaming cameraIndex resolution fps) →
          s.stream.controller.isStreaming = true) →
      (StreamDefined P s'.stream ↔
        StartsInRange api s (.segment i camera content : ServerEvent P)) := by
    intro hsame hother
    exact iff_of_true (streamDefined_of_same h.one hone' hp hsame)
      (h.startsInRange_of_other ht hother)
  cases Pc.run_effect P s.stream.controller ⟨camera, content, s.alive⟩ t.pc with
  | started cameraIndex resolution fps call begins spawned cleaned isStreaming stopRequested opened
      next =>
    rw [h.startsInRange_iff ht call, streamDefined_iff hone']
    rw [call] at next
    have happlied := startStreaming_applied (c := s.stream.controller) next
    rcases happlied with ⟨hon, -⟩ | happlied
    · cases begins.idle.symm.trans hon
    · rw [hself]
      rw [call] at stopRequested ⊢
      exact (inRange_iff_of_applied happlied stopRequested).trans
        ⟨fun hin _ => hin, fun hin => hin begins⟩
  | failed cameraIndex resolution fps call begins idle spawned cleaned isStreaming =>
    rw [h.startsInRange_iff ht call]
    refine iff_of_true (streamDefined_of_same h.one hone' hp ?_) fun hbegins => absurd hbegins begins
    exact Or.inl (hself ▸ isStreaming)
  | stopping call streaming self =>
    refine iff_of_true ?_ (h.startsInRange_of_other ht fun _ _ _ _ => streaming)
    obtain ⟨hzero, hproducts⟩ := (streamDefined_iff h.one).1 hp
    rw [streamDefined_iff hone', hself, self]
    exact ⟨fun hz => absurd hz.stopRequested nofun, hproducts⟩
  | waiting call streaming self =>
    refine kept (Or.inr ?_) fun _ _ _ _ => streaming
    rw [hself, self]
    exact .refl _
  | cleaned call idle self =>
    refine kept (Or.inl ?_) fun _ _ _ hpc => ?_
    · rw [hself, self]
      rfl
    · cases call.symm.trans hpc
  | quiet other same spawned cleaned next begins =>
    exact kept (Or.inr (hself ▸ same)) begins

theorem streamDefined_step (h : Configured P api s) (hp : StreamDefined P s.stream)
    (hs : (server P api).step s e = some s') :
    StreamDefined P s'.stream ↔ StartsInRange api s e := by
  have kept : (∀ i camera content, e ≠ .segment i camera content) → StreamDefined P s'.stream := by
    intro hother
    exact streamDefined_of_same h.one (h.step hs).one hp (runsNoMethod_of_step hs hother).stream
  cases e with
  | segment i camera content => exact streamDefined_segment h hp hs
  | connect => exact iff_of_true (kept nofun) trivial
  | session id e clock => exact iff_of_true (kept nofun) trivial
  | loop i capture => exact iff_of_true (kept nofun) trivial
  | runAddViewer => exact iff_of_true (kept nofun) trivial
  | playbackExpire => exact iff_of_true (kept nofun) trivial
  | playbackHandler k => exact iff_of_true (kept nofun) trivial
  | destroy id => exact iff_of_true (kept nofun) trivial

/-- **The arithmetic of the stream is defined** in every state of a run exactly if every config
message that gets a stream going is in range. -/
theorem stream_defined_iff (P : Platform) (api : Api) (es : List (ServerEvent P)) (s : Server)
    (hrun : (server P api).run {} es = some s) :
    (server P api).AllStates (fun s => StreamDefined P s.stream) {} es ↔
      (server P api).AllSteps (StartsInRange api) {} es := by
  exact Machine.allStates_iff_allSteps (J := Configured P api) (fun hj hs => hj.step hs)
    (fun hj hp hs => streamDefined_step hj hp hs) .init (StreamDefined.init P) hrun

/-- A parser that also knows config messages without frames and with too many columns. -/
def rateApi : Api where
  apiKey := lit "key"
  parse text :=
    if text = lit "frozen" then .ok (.object [(lit "type", .string (lit "config")),
      (lit "fps", .float (1 / 2))])
    else if text = lit "huge" then .ok (.object [(lit "type", .string (lit "config")),
      (lit "resolution", .string (lit "1073741824x90"))])
    else sampleApi.parse text

/-- A controller starts a stream with this message. -/
def streamsWith (text : String) : List (ServerEvent x86_64) :=
  joins 1 ++ [tells 1 "controller", .runAddViewer, tells 1 text, .segment 0 .working none]

theorem stream_defined_iff_streamsWith :
    ∃ s, (server x86_64 rateApi).run {} (streamsWith "config" ++ [.loop 0 .empty]) = some s ∧
      ((server x86_64 rateApi).AllStates (fun s => StreamDefined x86_64 s.stream) {}
          (streamsWith "config" ++ [.loop 0 .empty]) ↔
        (server x86_64 rateApi).AllSteps (StartsInRange rateApi) {}
          (streamsWith "config" ++ [.loop 0 .empty])) := by
  have hruns : ((server x86_64 rateApi).run {}
      (streamsWith "config" ++ [.loop 0 .empty])).isSome = true := by decide +kernel
  obtain ⟨s, hs⟩ := Option.isSome_iff_exists.1 hruns
  exact ⟨s, hs, stream_defined_iff x86_64 rateApi _ s hs⟩

/-- Half a frame per second is accepted as none, and the first segment of the loop divides by it; a
wide picture is accepted with a width that cannot be doubled. -/
theorem stream_undefined :
    (∃ s, (server x86_64 rateApi).run {} (streamsWith "frozen") = some s ∧
      ConfigMessage x86_64 rateApi (lit "frozen") 0 (lit "120x90") 0 ∧
      (s.sessions 1).posted.getLast? = some (.reply (lit "CONFIG_APPLIED")) ∧
      s.stream.loops = [.spawned] ∧
      ∀ capture alive, s.stream.controller.captureLoop x86_64 capture alive .spawned = none) ∧
    ∃ s, (server x86_64 rateApi).run {} (streamsWith "huge") = some s ∧
      ConfigMessage x86_64 rateApi (lit "huge") 0 (lit "1073741824x90") 10 ∧
      (s.sessions 1).posted.getLast? = some (.reply (lit "CONFIG_APPLIED")) ∧
      s.stream.controller.isStreaming = true ∧ ¬IsInt (s.stream.controller.frameWidth * 2) := by
  constructor
  · have hruns : ((server x86_64 rateApi).run {} (streamsWith "frozen")).any (fun s =>
        (s.sessions 1).posted.getLast? == some (.reply (lit "CONFIG_APPLIED")) &&
        s.stream.loops == [.spawned] && s.stream.controller.isStreaming &&
        !s.stream.controller.stopRequested && s.stream.controller.fps == 0) = true := by
      decide +kernel
    obtain ⟨s, hs, hfacts⟩ := (Option.any_eq_true _ _).1 hruns
    simp only [Bool.and_eq_true, beq_iff_eq, Bool.not_eq_true'] at hfacts
    obtain ⟨⟨⟨⟨hposted, hloops⟩, hon⟩, hstop⟩, hfps⟩ := hfacts
    refine ⟨s, hs, ⟨_, rfl, rfl, rfl, rfl, by decide +kernel⟩, hposted, hloops, fun capture alive => ?_⟩
    exact Option.map_eq_none_iff.2 (loopTest_eq_none.2 ⟨hon, hstop, hfps⟩)
  · have hruns : ((server x86_64 rateApi).run {} (streamsWith "huge")).any (fun s =>
        (s.sessions 1).posted.getLast? == some (.reply (lit "CONFIG_APPLIED")) &&
        s.stream.controller.isStreaming && s.stream.controller.frameWidth == 2 ^ 30) = true := by
      decide +kernel
    obtain ⟨s, hs, hfacts⟩ := (Option.any_eq_true _ _).1 hruns
    simp only [Bool.and_eq_true, beq_iff_eq] at hfacts
    obtain ⟨⟨hposted, hon⟩, hwidth⟩ := hfacts
    refine ⟨s, hs, ⟨_, rfl, rfl, rfl, rfl, rfl⟩, hposted, hon, ?_⟩
    rw [isInt_double, hwidth]
    exact fun h => absurd h.2 (Int.lt_irrefl _)

end Steps

end AsciiStreamer
