import Mathlib.Data.List.Nodup
import AsciiStreamer.Lib.Browser
import AsciiStreamer.Server.Handed
import AsciiStreamer.Server.Pictures

/-!
# A visitor of the server

`visit` is the server together with one page in somebody's browser. A WebSocket of the page is connected
to a session of its own; the session reads what the page has sent on it, message after message, and the
page is shown what has been written to the session. All other clients are as before: they do what they
like. So what holds of one page in `visit` holds of every page among any number of clients.
-/

namespace AsciiStreamer

open Cxx Browser

/-- A page, as the network sees it: what the user, the clock and the network do to it, what it does with
a message that comes in, and what it has sent. -/
structure Client (π ε μ : Type) where
  act : π → ε → Option π
  receive : π → Nat → Bytes → Option π
  sockets : π → Sockets μ
  text : μ → Bytes
  act_grows : ∀ {p : π} {e : ε} {p' : π}, act p e = some p' → Grows (sockets p) (sockets p')
  receive_grows : ∀ {p : π} {i : Nat} {data : Bytes} {p' : π}, receive p i data = some p' →
    Grows (sockets p) (sockets p')

/-- A WebSocket of the page with the session at its other end: how many messages the session has read,
and how many the page has been shown. -/
structure Line where
  socket : Nat
  session : SessionId
  read : Nat := 0
  shown : Nat := 0
  deriving DecidableEq, Repr

structure Visit (π : Type) where
  server : Server := {}
  page : π
  lines : List Line := []

inductive VisitEvent (P : Platform) (ε : Type)
  | server (e : ServerEvent P)
  | page (e : ε)
  /-- The request for the `socket`-th WebSocket of the page has been upgraded. -/
  | connects (socket : Nat)
  /-- The session of the `k`-th line reads the next message. -/
  | reads (k : Nat) (isStreaming : Bool) (clock : Clock)
  /-- The next message written to the session of the `k`-th line comes in. -/
  | shows (k : Nat)
  /-- The direct write of `AUTH_FAILED` comes in. -/
  | refuses (k : Nat)

def Message.bytes : Message → Bytes
  | .reply text => text
  | .live frame | .playback frame => frame

/-- The string literal, with the zero behind it. -/
def authFailed : Bytes := lit "AUTH_FAILED" ++ [0]

/-- The message presents a wrong key. -/
def rejects (P : Platform) (api : Api) (text : Bytes) : Bool :=
  match decode P api false text with
  | .ok (.auth apiKey _) => apiKey != api.apiKey
  | _ => false

variable {π ε μ : Type}

/-- An event of the server that is no message of the page. -/
def Visit.foreign {P : Platform} (v : Visit π) : ServerEvent P → Bool
  | .session id (.message _ _) _ => !v.lines.any (·.session == id)
  | _ => true

def visit (P : Platform) (api : Api) (C : Client π ε μ) : Machine (Visit π) (VisitEvent P ε) where
  step v
    | .server e =>
      if v.foreign e then ((server P api).step v.server e).map fun s => { v with server := s }
      else none
    | .page e => (C.act v.page e).map fun p => { v with page := p }
    | .connects socket =>
      if socket < (C.sockets v.page).made.length ∧ !v.lines.any (·.socket == socket) then
        ((server P api).step v.server .connect).map fun s =>
          { v with server := s, lines := v.lines ++ [⟨socket, v.server.nextId, 0, 0⟩] }
      else none
    | .reads k isStreaming clock => do
      let l ← v.lines[k]?
      let w ← (C.sockets v.page).made[l.socket]?
      let m ← w.sent[l.read]?
      let s ← (server P api).step v.server
        (.session l.session (.message (C.text m) isStreaming) clock)
      return { v with server := s, lines := v.lines.set k { l with read := l.read + 1 } }
    | .shows k => do
      let l ← v.lines[k]?
      let m ← (v.server.sessions l.session).written[l.shown]?
      let p ← C.receive v.page l.socket m.bytes
      return { v with page := p, lines := v.lines.set k { l with shown := l.shown + 1 } }
    | .refuses k => do
      let l ← v.lines[k]?
      if (received v.server.trace l.session).any (rejects P api) then
        let p ← C.receive v.page l.socket authFailed
        return { v with page := p }
      else none

/-! ## What a step is -/

inductive VisitStep (P : Platform) (api : Api) (C : Client π ε μ) (v : Visit π) :
    VisitEvent P ε → Visit π → Prop
  | server (e : ServerEvent P) (s : Server) (foreign : v.foreign e = true)
      (step : (server P api).step v.server e = some s) :
    VisitStep P api C v (.server e) { v with server := s }
  | page (e : ε) (p : π) (act : C.act v.page e = some p) :
    VisitStep P api C v (.page e) { v with page := p }
  | connects (socket : Nat) (s : Server) (made : socket < (C.sockets v.page).made.length)
      (fresh : ∀ l ∈ v.lines, l.socket ≠ socket)
      (step : (AsciiStreamer.server P api).step v.server .connect = some s) :
    VisitStep P api C v (.connects socket)
      { v with server := s, lines := v.lines ++ [⟨socket, v.server.nextId, 0, 0⟩] }
  | reads (k : Nat) (isStreaming : Bool) (clock : Clock) (l : Line) (w : Socket μ) (m : μ) (s : Server)
      (line : v.lines[k]? = some l) (socket : (C.sockets v.page).made[l.socket]? = some w)
      (message : w.sent[l.read]? = some m)
      (step : (AsciiStreamer.server P api).step v.server
        (.session l.session (.message (C.text m) isStreaming) clock) = some s) :
    VisitStep P api C v (.reads k isStreaming clock)
      { v with server := s, lines := v.lines.set k { l with read := l.read + 1 } }
  | shows (k : Nat) (l : Line) (m : Message) (p : π) (line : v.lines[k]? = some l)
      (written : (v.server.sessions l.session).written[l.shown]? = some m)
      (receive : C.receive v.page l.socket m.bytes = some p) :
    VisitStep P api C v (.shows k)
      { v with page := p, lines := v.lines.set k { l with shown := l.shown + 1 } }
  | refuses (k : Nat) (l : Line) (p : π) (line : v.lines[k]? = some l)
      (rejected : ∃ text ∈ received v.server.trace l.session, rejects P api text = true)
      (receive : C.receive v.page l.socket authFailed = some p) :
    VisitStep P api C v (.refuses k) { v with page := p }

section Steps

variable {P : Platform} {api : Api} {C : Client π ε μ} {v v' : Visit π} {e : VisitEvent P ε}

theorem visitStep_of_step (h : (visit P api C).step v e = some v') : VisitStep P api C v e v' := by
  cases e with
  | server e =>
    obtain ⟨hforeign, h⟩ := Option.ite_none_right_eq_some.1 h
    obtain ⟨s, hstep, rfl⟩ := Option.map_eq_some_iff.1 h
    exact .server e s hforeign hstep
  | page e =>
    obtain ⟨p, hact, rfl⟩ := Option.map_eq_some_iff.1 h
    exact .page e p hact
  | connects socket =>
    obtain ⟨⟨hmade, hfresh⟩, h⟩ := Option.ite_none_right_eq_some.1 h
    obtain ⟨s, hstep, rfl⟩ := Option.map_eq_some_iff.1 h
    simp only [Bool.not_eq_true', List.any_eq_false, beq_iff_eq] at hfresh
    exact .connects socket s hmade hfresh hstep
  | reads k isStreaming clock =>
    obtain ⟨l, hline, h⟩ := Option.bind_eq_some_iff.1 h
    obtain ⟨w, hsocket, h⟩ := Option.bind_eq_some_iff.1 h
    obtain ⟨m, hmessage, h⟩ := Option.bind_eq_some_iff.1 h
    obtain ⟨s, hstep, h⟩ := Option.bind_eq_some_iff.1 h
    cases h
    exact .reads k isStreaming clock l w m s hline hsocket hmessage hstep
  | shows k =>
    obtain ⟨l, hline, h⟩ := Option.bind_eq_some_iff.1 h
    obtain ⟨m, hwritten, h⟩ := Option.bind_eq_some_iff.1 h
    obtain ⟨p, hreceive, h⟩ := Option.bind_eq_some_iff.1 h
    cases h
    exact .shows k l m p hline hwritten hreceive
  | refuses k =>
    obtain ⟨l, hline, h⟩ := Option.bind_eq_some_iff.1 h
    obtain ⟨hrejected, h⟩ := Option.ite_none_right_eq_some.1 h
    obtain ⟨p, hreceive, h⟩ := Option.bind_eq_some_iff.1 h
    cases h
    exact .refuses k l p hline (List.any_eq_true.1 hrejected) hreceive

/-- What a visit does to the server, the server does; its capture loops are not the page's doing. -/
theorem server_of_visit (h : (visit P api C).step v e = some v') : v'.server = v.server ∨
    ∃ d, (server P api).step v.server d = some v'.server ∧
      (e = .server d ∨ ∀ i capture, d ≠ .loop i capture) := by
  cases visitStep_of_step h with
  | server d s foreign step => exact Or.inr ⟨d, step, Or.inl rfl⟩
  | page d p act => exact Or.inl rfl
  | connects socket s made fresh step => exact Or.inr ⟨_, step, Or.inr (fun _ _ h => by cases h)⟩
  | reads k isStreaming clock l w m s line socket message step =>
    exact Or.inr ⟨_, step, Or.inr (fun _ _ h => by cases h)⟩
  | shows k l m p line written receive => exact Or.inl rfl
  | refuses k l p line rejected receive => exact Or.inl rfl

/-- What the server keeps it keeps while it is visited. -/
theorem server_invariant {I : Server → Prop}
    (hI : ∀ {s s' : Server} {d : ServerEvent P}, I s → (server P api).step s d = some s' → I s')
    (h : I v.server) (hs : (visit P api C).step v e = some v') : I v'.server := by
  rcases server_of_visit hs with hsame | ⟨d, hd, -⟩
  · rwa [hsame]
  · exact hI h hd

end Steps

/-! ## The lines -/

/-- The session has read the first messages of the page, one after the other. -/
structure Line.Carries (C : Client π ε μ) (v : Visit π) (l : Line) (w : Socket μ) : Prop where
  socket : (C.sockets v.page).made[l.socket]? = some w
  read : l.read ≤ w.sent.length
  received : received v.server.trace l.session = (w.sent.take l.read).map C.text

/-- The lines of the page: each socket has one session, no session has two. -/
structure Wired (C : Client π ε μ) (v : Visit π) : Prop where
  unborn : Unborn v.server
  born : ∀ l ∈ v.lines, l.session < v.server.nextId
  sessions : (v.lines.map Line.session).Nodup
  sockets : (v.lines.map Line.socket).Nodup
  carries : ∀ l ∈ v.lines, ∃ w, l.Carries C v w

section Lines

variable {P : Platform} {api : Api} {C : Client π ε μ} {v v' : Visit π} {e : VisitEvent P ε}

/-- A line that carries nothing else than before. -/
theorem Line.Carries.grow {l : Line} {w : Socket μ} (h : l.Carries C v w) (v' : Visit π)
    (hgrows : Grows (C.sockets v.page) (C.sockets v'.page))
    (hreceived : AsciiStreamer.received v'.server.trace l.session =
      AsciiStreamer.received v.server.trace l.session) : ∃ w', l.Carries C v' w' := by
  obtain ⟨w', hw', hsent⟩ := hgrows l.socket w h.socket
  refine ⟨w', hw', Nat.le_trans h.read hsent.length_le, ?_⟩
  rw [hreceived, h.received, List.prefix_iff_eq_append.1 hsent |>.symm, List.take_append_of_le_length h.read]

theorem Wired.init {p : π} : Wired C { page := p } :=
  ⟨fun _ _ => rfl, nofun, List.nodup_nil, List.nodup_nil, nofun⟩

/-- Lines that change only in what the page has been shown. -/
theorem Wired.of_lines (h : Wired C v) (v' : Visit π)
    (hgrows : Grows (C.sockets v.page) (C.sockets v'.page))
    (hserver : v'.server = v.server) (hsessions : v'.lines.map Line.session = v.lines.map Line.session)
    (hsockets : v'.lines.map Line.socket = v.lines.map Line.socket)
    (hlines : ∀ l' ∈ v'.lines, ∃ l ∈ v.lines, l'.socket = l.socket ∧ l'.session = l.session ∧
      l'.read = l.read) : Wired C v' := by
  refine ⟨hserver ▸ h.unborn, fun l' hl' => ?_, hsessions ▸ h.sessions, hsockets ▸ h.sockets,
    fun l' hl' => ?_⟩
  · obtain ⟨l, hl, -, hsession, -⟩ := hlines l' hl'
    rw [hserver, hsession]
    exact h.born l hl
  · obtain ⟨l, hl, hsocket, hsession, hread⟩ := hlines l' hl'
    obtain ⟨w, hw⟩ := h.carries l hl
    obtain ⟨w', hw'⟩ := hw.grow v' hgrows (by rw [hserver])
    exact ⟨w', hsocket ▸ hw'.socket, hread ▸ hw'.read, by
      rw [hsession, hread]
      exact hw'.received⟩

/-- A line that changes keeps its ends. -/
theorem map_set_line {α : Type} {f : Line → α} {ls : List Line} {k : Nat} {l l' : Line}
    (hl : ls[k]? = some l) (hf : f l' = f l) : (ls.set k l').map f = ls.map f := by
  rw [List.map_set, hf]
  refine List.ext_getElem? fun j => ?_
  by_cases hj : k = j
  · subst hj
    have hk : k < ls.length := (List.getElem?_eq_some_iff.1 hl).1
    rw [List.getElem?_set_self (by rwa [List.length_map]), List.getElem?_map, hl]
    rfl
  · rw [List.getElem?_set_ne hj]

/-- The other lines. -/
theorem mem_set_line {ls : List Line} {k : Nat} {l l' x : Line} (hl : ls[k]? = some l)
    (hx : x ∈ ls.set k l') : x = l' ∨ x ∈ ls ∧ ((ls.map Line.session).Nodup → x.session ≠ l.session) := by
  obtain ⟨j, hj⟩ := List.mem_iff_getElem?.1 hx
  by_cases hk : k = j
  · subst hk
    rw [List.getElem?_set_self'] at hj
    obtain ⟨_, -, hj⟩ := Option.map_eq_some_iff.1 hj
    exact Or.inl hj.symm
  · rw [List.getElem?_set_ne hk] at hj
    refine Or.inr ⟨List.mem_of_getElem? hj, fun hnodup hsame => hk ?_⟩
    have hlen : k < (ls.map Line.session).length := by
      rw [List.length_map]
      exact (List.getElem?_eq_some_iff.1 hl).1
    refine (List.getElem?_inj hlen hnodup).1 ?_
    rw [List.getElem?_map, List.getElem?_map, hl, hj, Option.map_some, Option.map_some, hsame]

/-- **The lines carry the messages of the page**, each once and in order. -/
theorem Wired.step (h : Wired C v) (hs : (visit P api C).step v e = some v') : Wired C v' := by
  cases visitStep_of_step hs with
  | server d s foreign step =>
    refine ⟨h.unborn.step step, fun l hl => Nat.lt_of_lt_of_le (h.born l hl) (nextId_of_step step),
      h.sessions, h.sockets, fun l hl => ?_⟩
    obtain ⟨w, hw⟩ := h.carries l hl
    refine hw.grow { v with server := s } (.refl _) (received_of_step step ?_)
    rintro text isStreaming clock rfl
    simp only [Visit.foreign, Bool.not_eq_true', List.any_eq_false, beq_iff_eq] at foreign
    exact foreign l hl rfl
  | page d p act =>
    exact h.of_lines { v with page := p } (C.act_grows act) rfl rfl rfl
      fun l hl => ⟨l, hl, rfl, rfl, rfl⟩
  | connects socket s made fresh step =>
    have hnext : v.server.nextId < s.nextId := by
      cases serverStep_of_step step with
      | connect => exact Nat.lt_succ_self _
    have hkept : ∀ id, received s.trace id = received v.server.trace id :=
      fun id => received_of_step step (fun _ _ _ h => by cases h)
    refine ⟨h.unborn.step step, fun l hl => ?_, ?_, ?_, fun l hl => ?_⟩
    · rcases List.mem_append.1 hl with hl | hl
      · exact Nat.lt_trans (h.born l hl) hnext
      · rw [List.mem_singleton.1 hl]
        exact hnext
    · rw [List.map_append]
      refine List.Nodup.append h.sessions (List.nodup_singleton _)
        (List.disjoint_singleton.2 fun hmem => ?_)
      obtain ⟨l, hl, hsession⟩ := List.mem_map.1 hmem
      exact absurd (h.born l hl) (hsession ▸ Nat.lt_irrefl _)
    · rw [List.map_append]
      refine List.Nodup.append h.sockets (List.nodup_singleton _)
        (List.disjoint_singleton.2 fun hmem => ?_)
      obtain ⟨l, hl, hsocket⟩ := List.mem_map.1 hmem
      exact fresh l hl hsocket
    · rcases List.mem_append.1 hl with hl | hl
      · obtain ⟨w, hw⟩ := h.carries l hl
        exact hw.grow ⟨s, v.page, _⟩ (.refl _) (hkept _)
      · rw [List.mem_singleton.1 hl]
        refine ⟨_, List.getElem?_eq_getElem made, Nat.zero_le _, ?_⟩
        exact (hkept _).trans (h.unborn _ (Nat.le_refl _))
  | reads k isStreaming clock l w m s line socket message step =>
    have hl : l ∈ v.lines := List.mem_of_getElem? line
    have hsessions : (v.lines.set k { l with read := l.read + 1 }).map Line.session =
        v.lines.map Line.session := map_set_line line rfl
    have hsockets : (v.lines.set k { l with read := l.read + 1 }).map Line.socket =
        v.lines.map Line.socket := map_set_line line rfl
    refine ⟨h.unborn.step step, fun x hx => ?_, hsessions ▸ h.sessions, hsockets ▸ h.sockets,
      fun x hx => ?_⟩
    · refine Nat.lt_of_lt_of_le ?_ (nextId_of_step step)
      rcases mem_set_line line hx with rfl | ⟨hx, -⟩
      · exact h.born l hl
      · exact h.born x hx
    · rcases mem_set_line line hx with rfl | ⟨hx, hother⟩
      · obtain ⟨w', hw⟩ := h.carries l hl
        obtain rfl : w = w' := Option.some.inj (socket.symm.trans hw.socket)
        refine ⟨w, socket, (List.getElem?_eq_some_iff.1 message).1, ?_⟩
        simp only
        rw [received_message step, hw.received, List.take_add_one, message, Option.toList_some,
          List.map_append, List.map_singleton]
      · obtain ⟨w', hw⟩ := h.carries x hx
        refine hw.grow ⟨s, v.page, _⟩ (.refl _) (received_of_step step ?_)
        intro text isStreaming' clock' heq
        exact hother h.sessions (ServerEvent.session.inj heq).1.symm
  | shows k l m p line written receive =>
    refine h.of_lines ⟨v.server, p, _⟩ (C.receive_grows receive) rfl (map_set_line line rfl)
      (map_set_line line rfl) fun x hx => ?_
    rcases mem_set_line line hx with rfl | ⟨hx, -⟩
    · exact ⟨l, List.mem_of_getElem? line, rfl, rfl, rfl⟩
    · exact ⟨x, hx, rfl, rfl, rfl⟩
  | refuses k l p line rejected receive =>
    exact h.of_lines { v with page := p } (C.receive_grows receive) rfl rfl rfl
      fun l hl => ⟨l, hl, rfl, rfl, rfl⟩

end Lines

end AsciiStreamer
