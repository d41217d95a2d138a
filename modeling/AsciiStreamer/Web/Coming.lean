import AsciiStreamer.Web.Visit

/-!
# What comes in to a page

A page is shown what has been written to its sessions (`Came`). A session that belongs to a page has
received nothing but what the page has sent, so an answer, a live frame or a recorded one that is written
to it has its reason in a message of the page (`Hosted.replied`, `Hosted.live`, `Hosted.playback`).
-/

namespace AsciiStreamer

open Cxx Browser

/-- This has come in on a connection of the page. -/
inductive Came (P : Platform) (api : Api) {π : Type} (v : Visit π) : Bytes → Prop
  | written (l : Line) (line : l ∈ v.lines) (m : Message)
      (written : m ∈ (v.server.sessions l.session).written) : Came P api v m.bytes
  | refused (l : Line) (line : l ∈ v.lines) (text : Bytes)
      (received : text ∈ received v.server.trace l.session) (rejected : rejects P api text = true) :
    Came P api v authFailed

/-! ## What has come in -/

section Coming

variable {P : Platform} {api : Api} {π ε μ : Type} {C : Client π ε μ} {v v' : Visit π}
  {e : VisitEvent P ε}

/-- The page keeps its sessions. -/
theorem sessions_of_visit (h : (visit P api C).step v e = some v') {l : Line} (hl : l ∈ v.lines) :
    ∃ l' ∈ v'.lines, l'.session = l.session := by
  have changed : ∀ {k : Nat} {x x' : Line}, v.lines[k]? = some x → x'.session = x.session →
      ∃ l' ∈ v.lines.set k x', l'.session = l.session := by
    intro k x x' hx hsame
    have hmem : l.session ∈ (v.lines.set k x').map Line.session := by
      rw [map_set_line hx hsame]
      exact List.mem_map.2 ⟨l, hl, rfl⟩
    exact List.mem_map.1 hmem
  cases visitStep_of_step h with
  | server d s foreign step => exact ⟨l, hl, rfl⟩
  | page d p act => exact ⟨l, hl, rfl⟩
  | connects socket s made fresh step => exact ⟨l, List.mem_append_left _ hl, rfl⟩
  | reads k isStreaming clock x w m s line => exact changed line rfl
  | shows k x m p line => exact changed line rfl
  | refuses k x p line => exact ⟨l, hl, rfl⟩

/-- What has come in has come in. -/
theorem Came.mono {data : Bytes} (h : Came P api v data) (hs : (visit P api C).step v e = some v') :
    Came P api v' data := by
  have hwritten : ∀ id, (v.server.sessions id).written <+: (v'.server.sessions id).written := by
    intro id
    rcases server_of_visit hs with hsame | ⟨d, hd, -⟩
    · rw [hsame]
    · exact (carries_of_server hd id).written
  have htrace : v.server.trace <+: v'.server.trace := by
    rcases server_of_visit hs with hsame | ⟨d, hd, -⟩
    · rw [hsame]
    · exact Server.step_trace hd
  cases h with
  | written l line m written =>
    obtain ⟨l', hl', hsession⟩ := sessions_of_visit hs line
    exact .written l' hl' m (hsession ▸ (hwritten l.session).subset written)
  | refused l line text hreceived rejected =>
    obtain ⟨l', hl', hsession⟩ := sessions_of_visit hs line
    refine .refused l' hl' text ?_ rejected
    obtain ⟨more, hmore⟩ := htrace
    rw [hsession, ← hmore, received_append]
    exact List.mem_append_left _ hreceived

end Coming

/-! ## The reasons -/

/-- A page, and what holds of the server it talks to. -/
structure Hosted (P : Platform) (api : Api) {π ε μ : Type} (C : Client π ε μ) (v : Visit π) :
    Prop where
  wired : Wired C v
  authorised : Authorised api v.server
  recognised : Recognised api v.server
  tracked : ∃ last, Tracked P api v.server last
  accounted : Accounted v.server

section Hosting

variable {P : Platform} {api : Api} {π ε μ : Type} {C : Client π ε μ} {v v' : Visit π}
  {e : VisitEvent P ε} {l : Line}

theorem Hosted.init {p : π} : Hosted P api C { page := p } := by
  refine ⟨.init, .init, ?_, ⟨none, .init⟩, ?_⟩
  · intro id frame hframe
    cases hframe
  · intro id m hm
    cases hm

theorem Hosted.step (h : Hosted P api C v) (hs : (visit P api C).step v e = some v') :
    Hosted P api C v' := by
  obtain ⟨hauthorised, hrecognised⟩ : Authorised api v'.server ∧ Recognised api v'.server :=
    server_invariant (I := fun s => Authorised api s ∧ Recognised api s)
      (fun hi hd => ⟨hi.1.step hd, hi.2.step hi.1 hd⟩) ⟨h.authorised, h.recognised⟩ hs
  have htracked : ∃ last, Tracked P api v'.server last := by
    refine server_invariant (I := fun s => ∃ last, Tracked P api s last) ?_ h.tracked hs
    rintro s s' d ⟨last, hi⟩ hd
    exact ⟨_, hi.step hd⟩
  have haccounted : Accounted v'.server :=
    server_invariant (I := Accounted) (fun hi hd => hi.step hd) h.accounted hs
  exact ⟨h.wired.step hs, hauthorised, hrecognised, htracked, haccounted⟩

/-- What a session of the page has received is what the page has sent. -/
theorem Hosted.sent (h : Hosted P api C v) (hl : l ∈ v.lines) {text : Bytes}
    (htext : text ∈ received v.server.trace l.session) :
    ∃ w, (C.sockets v.page).made[l.socket]? = some w ∧ ∃ q ∈ w.sent, text = C.text q := by
  obtain ⟨w, hsocket, -, hreceived⟩ := h.wired.carries l hl
  rw [hreceived] at htext
  obtain ⟨q, hq, rfl⟩ := List.mem_map.1 htext
  exact ⟨w, hsocket, q, List.mem_of_mem_take hq, rfl⟩

theorem Hosted.received (h : Hosted P api C v) (hl : l ∈ v.lines) {text : Bytes}
    (hmem : .received l.session text ∈ v.server.trace) :
    ∃ w, (C.sockets v.page).made[l.socket]? = some w ∧ ∃ q ∈ w.sent, text = C.text q :=
  h.sent hl (List.mem_filterMap.2 ⟨_, hmem, if_pos rfl⟩)

/-- A key that a session of the page has presented the page has sent. -/
theorem Hosted.presented (h : Hosted P api C v) (hl : l ∈ v.lines)
    (hkey : PresentedKey api v.server.trace l.session) :
    ∃ w, (C.sockets v.page).made[l.socket]? = some w ∧
      ∃ q ∈ w.sent, ∃ role, AuthMessage api (C.text q) role := by
  obtain ⟨text, role, hmem, hauth⟩ := hkey
  obtain ⟨w, hsocket, q, hq, rfl⟩ := h.received hl hmem
  exact ⟨w, hsocket, q, hq, role, hauth⟩

/-- A reply answers a message of the page. -/
theorem Hosted.replied (h : Hosted P api C v) (hl : l ∈ v.lines) {reply : Bytes}
    (hm : .reply reply ∈ (v.server.sessions l.session).written) :
    ∃ w, (C.sockets v.page).made[l.socket]? = some w ∧ ∃ q ∈ w.sent, ∃ x isController,
      x.text = C.text q ∧ reply ∈ x.replies ∧
        Answers P api (v.server.sessions l.session).sessionId isController x := by
  obtain ⟨last, htracked⟩ := h.tracked
  have hmem : .reply reply ∈ (v.server.sessions l.session).sent :=
    h.accounted l.session _ (List.mem_append_left _ hm)
  have hreply : reply ∈ (v.server.sessions l.session).replyTexts :=
    List.mem_filterMap.2 ⟨_, List.mem_append_left _ hmem, rfl⟩
  obtain ⟨x, isController, htext, hreplies, hanswers⟩ :=
    answers_of_reply (htracked.conversing l.session) hreply
  obtain ⟨w, hsocket, q, hq, heq⟩ := h.sent hl htext
  exact ⟨w, hsocket, q, hq, x, isController, heq, hreplies, hanswers⟩

/-- For a live frame the page has sent the key. -/
theorem Hosted.live (h : Hosted P api C v) (hl : l ∈ v.lines) {frame : Bytes}
    (hm : .live frame ∈ (v.server.sessions l.session).written) :
    ∃ w, (C.sockets v.page).made[l.socket]? = some w ∧
      ∃ q ∈ w.sent, ∃ role, AuthMessage api (C.text q) role := by
  have hframe : frame ∈ (v.server.sessions l.session).liveFrames :=
    List.mem_filterMap.2 ⟨_, List.mem_append_left _ (List.mem_append_left _ hm), rfl⟩
  exact h.presented hl (h.recognised l.session frame hframe)

/-- For a recorded frame it has asked. -/
theorem Hosted.playback (h : Hosted P api C v) (hl : l ∈ v.lines) {frame : Bytes}
    (hm : .playback frame ∈ (v.server.sessions l.session).written) :
    ∃ w, (C.sockets v.page).made[l.socket]? = some w ∧ ∃ q ∈ w.sent, ∃ filename isController,
      decode P api isController (C.text q) = .ok (.playbackStart filename) := by
  obtain ⟨last, htracked⟩ := h.tracked
  have hmem : .playback frame ∈ (v.server.sessions l.session).sent :=
    h.accounted l.session _ (List.mem_append_left _ hm)
  obtain ⟨filename, text, htext, isController, hstart⟩ :=
    htracked.handed l.session frame (List.mem_append_left _ hmem)
  obtain ⟨w, hsocket, q, hq, rfl⟩ := h.sent hl htext
  exact ⟨w, hsocket, q, hq, filename, isController, hstart⟩

end Hosting

/-! ## Output -/

/-- What a page shows is its own, or has come in and is nothing that the script knows. -/
def OnScreen (P : Platform) (api : Api) {π : Type} (output : π → Bytes) (own known : List Bytes)
    (v : Visit π) : Prop :=
  output v.page ∈ own ∨ ∃ data, Came P api v data ∧ data ∉ known ∧ output v.page = data

section Showing

variable {P : Platform} {api : Api} {π ε μ : Type} {C : Client π ε μ} {v v' : Visit π}
  {e : VisitEvent P ε} {output : π → Bytes} {own known : List Bytes}

theorem OnScreen.step (h : OnScreen P api output own known v)
    (hact : ∀ {p d p'}, C.act p d = some p' → output p' = output p ∨ output p' ∈ own)
    (hreceive : ∀ {p i data p'}, C.receive p i data = some p' →
      output p' ∈ own ∨ data ∉ known ∧ output p' = data)
    (hs : (visit P api C).step v e = some v') : OnScreen P api output own known v' := by
  have kept : output v'.page = output v.page ∨ output v'.page ∈ own →
      OnScreen P api output own known v' := by
    rintro (hsame | hown)
    · rcases h with hown | ⟨data, hcame, hunknown, hshown⟩
      · exact Or.inl (hsame ▸ hown)
      · exact Or.inr ⟨data, hcame.mono hs, hunknown, hsame.trans hshown⟩
    · exact Or.inl hown
  have came : ∀ {i data}, Came P api v data → C.receive v.page i data = some v'.page →
      OnScreen P api output own known v' := by
    intro i data hcame hin
    rcases hreceive hin with hown | ⟨hunknown, hshown⟩
    · exact Or.inl hown
    · exact Or.inr ⟨data, hcame.mono hs, hunknown, hshown⟩
  have hstep := visitStep_of_step hs
  cases hstep with
  | page d p act => exact kept (hact act)
  | shows k l m p line written receive =>
    exact came (.written l (List.mem_of_getElem? line) m (List.mem_of_getElem? written)) receive
  | refuses k l p line rejected receive =>
    obtain ⟨text, htext, hrejects⟩ := rejected
    exact came (.refused l (List.mem_of_getElem? line) text htext hrejects) receive
  | _ => exact kept (Or.inl rfl)

end Showing

/-! ## The cameras -/

section Cameras

variable {P : Platform} {api : Api} {π ε μ : Type} {C : Client π ε μ} {v v' : Visit π}
  {e : VisitEvent P ε}

/-- The capture loops film what the camera shows. -/
def Shoots {Mat : Type} (cv : OpenCV Mat) (v : Visit π) : VisitEvent P ε → Prop
  | .server e => Films cv v.server e
  | _ => True

theorem Filming.visit {Mat : Type} {cv : OpenCV Mat} (hcv : Resizes cv) {sizes : List (Int × Int)}
    (h : Filming sizes v.server) (hshoots : Shoots cv v e)
    (hs : (visit P api C).step v e = some v') : ∃ sizes, Filming sizes v'.server := by
  rcases server_of_visit hs with hsame | ⟨d, hd, hevent⟩
  · exact ⟨sizes, hsame ▸ h⟩
  · refine ⟨_, h.step hcv ?_ hd⟩
    rcases hevent with rfl | hquiet
    · exact hshoots
    · cases d with
      | loop i capture => exact absurd rfl (hquiet i capture)
      | _ => trivial

/-- **Whatever has been converted is a picture**, in every run of a page. -/
theorem filming_of_shoots {Mat : Type} {cv : OpenCV Mat} (hcv : Resizes cv) {p : π}
    {es : List (VisitEvent P ε)} (hshoots : (visit P api C).AllSteps (Shoots cv) { page := p } es)
    (hrun : (visit P api C).run { page := p } es = some v) : ∃ sizes, Filming sizes v.server := by
  refine hshoots.invariant (I := fun v => ∃ sizes, Filming sizes v.server) ?_ ⟨[], .init⟩ hrun
  rintro v e v' ⟨sizes, h⟩ hC hs
  exact h.visit hcv hC hs

end Cameras

/-- The first session writes a message, and the page shows it. -/
def writesOne {ε : Type} : List (VisitEvent x86_64 ε) :=
  [.server (.session 1 .runPosted ⟨noon, 0, true⟩),
    .server (.session 1 (.startWriter 0) ⟨noon, 0, true⟩), .shows 0,
    .server (.session 1 (.writeDone 0 none) ⟨noon, 0, true⟩)]

/-- What the camera of a stream of a few pixels shows. -/
def VisitShowsPixels {π ε : Type} (v : Visit π) : VisitEvent x86_64 ε → Bool
  | .server e => ShowsPixels v.server e
  | _ => true

theorem shoots_of_showsPixels {π ε : Type} (v : Visit π) (e : VisitEvent x86_64 ε)
    (h : VisitShowsPixels v e = true) : Shoots sizedPictures v e := by
  cases e with
  | server e => exact films_of_showsPixels v.server e h
  | _ => trivial

end AsciiStreamer
