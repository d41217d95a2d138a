import AsciiStreamer.Lib.FileStream
import AsciiStreamer.Http.Handler

/-!
# The tunnel (`src/vk_tunnel.cpp`)

`VKTunnel::setup_tunnel` starts `vk-tunnel`, waits, and looks for its URL in the log: from the first
`https://` of a line up to fourteen bytes behind the place where the first `.vk-apps.com` begins.
The server keeps the URL, and `/api` puts `wss://` in place of the scheme and `stream` behind it. The
name has twelve bytes, so what comes out is an endpoint only if a `/` follows it, and nothing behind
that (`advertised_iff`).
-/

namespace AsciiStreamer

open Cxx Json

/-- A file, whose size is an `off_t`. -/
structure LogFile where
  bytes : Bytes
  size_lt : bytes.length < 2 ^ 63

/-- What the system answers to `setup_tunnel`. -/
structure TunnelEnv where
  /-- The status of `which vk-tunnel`. -/
  which : Int
  /-- What the command that runs `vk-tunnel` has left in `result` after five seconds. -/
  result : Int
  /-- What `vk_tunnel.log` holds then. -/
  log : Option LogFile

/-! ## Setting up -/

namespace VKTunnel

/-- The body of the loop over the lines of the log: what is assigned to `tunnel_url` before
`break`. -/
def tunnelUrl (line : Bytes) : Option Bytes :=
  match findText (lit "https://") line with
  | none => none
  | some start =>
    match findText (lit ".vk-apps.com") line with
    | none => none
    | some stop => some (substr line start ((sizeSub stop start + 14) % 2 ^ 64))

/-- `while (getline(logfile, line))`. The bytes that are left bound the rounds. -/
def scanLog : Nat → IFStream → Bytes → Bytes
  | 0, _, _ => []
  | fuel + 1, f, line =>
    let (f, line) := f.getline line
    if f.fail then []
    else match tunnelUrl line with
      | some url => url
      | none => scanLog fuel f line

def isVkTunnelInstalled (env : TunnelEnv) : Bool := env.which == 0

def setupTunnel (env : TunnelEnv) : Bytes :=
  if !isVkTunnelInstalled env then []
  else if env.result ≠ 0 then []
  else
    let logfile := IFStream.open' {} (env.log.map LogFile.bytes)
    scanLog (logfile.rest.length + 1) logfile []

end VKTunnel

/-- `Server::setup_cloud_tunnel`: what is in `cloud_tunnel_url_` afterwards. -/
def setupCloudTunnel (env : TunnelEnv) (cloudTunnelUrl : Bytes) : Bytes :=
  let tunnelUrl := VKTunnel.setupTunnel env
  if tunnelUrl ≠ [] then tunnelUrl else cloudTunnelUrl

open VKTunnel

/-! ## The property -/

/-- `vk-tunnel` runs and has written this log. -/
def TunnelEnv.running (log : LogFile) : TunnelEnv := ⟨0, 0, some log⟩

/-- The answer of `/api` by a server that has set up its tunnel with this log. -/
def apiAfter (log : LogFile) (env : HttpEnv) (port : Nat) : Json :=
  api { env with cloudTunnelUrl := setupCloudTunnel (.running log) [] } port

/-- The scan gets to the line. -/
def Scanned (log : LogFile) (line : Bytes) : Prop :=
  ∃ pre post, linesOf log.bytes = pre ++ line :: post ∧ ∀ l ∈ pre, tunnelUrl l = none

/-- `.vk-apps.com` follows `https://`. -/
def Follows (line : Bytes) : Prop :=
  ∃ before name after,
    line = before ++ (lit "https://" ++ (name ++ (lit ".vk-apps.com" ++ after)))

/-- The endpoint is well formed where a URL is found, and the scan finds one only where there is one.
What else makes a host of the text in front of `.vk-apps.com` is left to `isHost`. -/
structure Advertised (isHost : Bytes → Prop) (log : LogFile) (env : HttpEnv) (port : Nat) :
    Prop where
  endpoint : setupTunnel (.running log) ≠ [] → ∃ host,
    (apiAfter log env port).field (lit "endpoint") =
        .ok (.string (lit "wss://" ++ host ++ lit "/stream")) ∧
      (∃ line ∈ linesOf log.bytes, lit "https://" ++ host <:+: line) ∧
      lit ".vk-apps.com" <:+ host ∧ isHost host
  noUrl : ∀ line, Scanned log line → ¬Follows line → (tunnelUrl line).getD [] = []
  noWrap : ∀ line, Scanned log line → ∀ start stop, findText (lit "https://") line = some start →
    findText (lit ".vk-apps.com") line = some stop → start ≤ stop

/-! ## The condition -/

/-- Both texts are in the line, wherever they are. -/
def marked (line : Bytes) : Bool :=
  (findText (lit "https://") line).isSome && (findText (lit ".vk-apps.com") line).isSome

/-- The first `.vk-apps.com` is behind the first `https://`, a host ends with it, and a `/` ends the
line. -/
def EndsWithSlash (isHost : Bytes → Prop) (line : Bytes) : Prop :=
  ∃ start stop, findText (lit "https://") line = some start ∧
    findText (lit ".vk-apps.com") line = some stop ∧ start ≤ stop ∧
    line.drop (stop + 12) = lit "/" ∧ isHost ((line.take (stop + 12)).drop (start + 8))

/-! ## The scan -/

section Scan

variable {line : Bytes} {log : LogFile}

theorem tunnelUrl_eq_none_iff : tunnelUrl line = none ↔ marked line = false := by
  unfold tunnelUrl marked
  cases findText (lit "https://") line with
  | none => exact iff_of_true rfl rfl
  | some start =>
    cases findText (lit ".vk-apps.com") line with
    | none => exact iff_of_true rfl rfl
    | some stop => exact iff_of_false nofun nofun

theorem scanLog_of_not_good {f : IFStream} (hg : f.good = false) (fuel : Nat) (line : Bytes) :
    scanLog fuel f line = [] := by
  cases fuel with
  | zero => rfl
  | succ fuel => simp only [scanLog, IFStream.getline_of_not_good hg, ↓reduceIte]

theorem scanLog_line {f : IFStream} {l r : Bytes} (hg : f.good = true)
    (hr : f.rest = l ++ newline :: r) (hl : newline ∉ l) (fuel : Nat) (line : Bytes) :
    scanLog (fuel + 1) f line =
      (tunnelUrl l).getD (scanLog fuel { f with rest := r } l) := by
  have hfail : ¬f.fail = true := by simp [(IFStream.good_iff.1 hg).2]
  simp only [scanLog, IFStream.getline_line hg hr hl]
  rw [if_neg hfail]
  cases tunnelUrl l <;> rfl

/-- **What the scan finds** is the URL in the first line that has one. -/
theorem scanLog_eq (fuel : Nat) {f : IFStream} (hg : f.good = true) (hfuel : f.rest.length < fuel)
    (line : Bytes) : scanLog fuel f line = ((linesOf f.rest).findSome? tunnelUrl).getD [] := by
  induction fuel generalizing f line with
  | zero => exact absurd hfuel (Nat.not_lt_zero _)
  | succ fuel ih =>
    rcases line_cases f.rest with hl | ⟨l, r, hl, hr⟩
    · rw [linesOf_of_not_mem hl]
      by_cases hnil : f.rest = []
      · simp only [scanLog, IFStream.getline_last hg hl, hnil, List.isEmpty_nil, ↓reduceIte,
          List.findSome?_nil, Option.getD_none]
      · have hempty : f.rest.isEmpty = false := by simpa using hnil
        simp only [scanLog, IFStream.getline_last hg hl, hempty, Bool.false_eq_true, ↓reduceIte,
          hnil, List.findSome?_cons, List.findSome?_nil]
        cases tunnelUrl f.rest with
        | some url => rfl
        | none => exact scanLog_of_not_good rfl fuel f.rest
    · rw [scanLog_line hg hr hl, hr, linesOf_cons_newline hl, List.findSome?_cons]
      cases tunnelUrl l with
      | some url => rfl
      | none =>
        rw [hr, List.length_append, List.length_cons] at hfuel
        exact ih (by exact hg) (by simp only; omega) l

theorem setupTunnel_running (log : LogFile) :
    setupTunnel (.running log) = ((linesOf log.bytes).findSome? tunnelUrl).getD [] := by
  have hopen : setupTunnel (.running log) = scanLog (log.bytes.length + 1)
      { data := log.bytes, rest := log.bytes, isOpen := true } [] := rfl
  rw [hopen]
  exact scanLog_eq (f := { data := log.bytes, rest := log.bytes, isOpen := true }) _ (by rfl)
    (Nat.lt_succ_self _) []

/-- The line at which the scan ends. -/
theorem scanned_marked_iff : Scanned log line ∧ marked line = true ↔
    (linesOf log.bytes).find? marked = some line := by
  rw [List.find?_eq_some_iff_append]
  simp only [Scanned, tunnelUrl_eq_none_iff, Bool.not_eq_true']
  constructor
  · rintro ⟨⟨pre, post, hlines, hpre⟩, hline⟩
    exact ⟨hline, pre, post, hlines, hpre⟩
  · rintro ⟨hline, pre, post, hlines, hpre⟩
    exact ⟨⟨pre, post, hlines, hpre⟩, hline⟩

theorem setupTunnel_of_find (h : (linesOf log.bytes).find? marked = some line) :
    setupTunnel (.running log) = (tunnelUrl line).getD [] := by
  obtain ⟨hline, pre, post, hlines, hpre⟩ := List.find?_eq_some_iff_append.1 h
  have hskip : pre.findSome? tunnelUrl = none :=
    List.findSome?_eq_none_iff.2 fun l hl =>
      tunnelUrl_eq_none_iff.2 (by simpa using hpre l hl)
  rw [setupTunnel_running, hlines, List.findSome?_append, hskip, Option.none_or,
    List.findSome?_cons]
  cases hurl : tunnelUrl line with
  | some url => rfl
  | none => exact absurd hline (by rw [tunnelUrl_eq_none_iff.1 hurl]; exact Bool.false_ne_true)

theorem setupTunnel_of_find_none (h : (linesOf log.bytes).find? marked = none) :
    setupTunnel (.running log) = [] := by
  have hnone : (linesOf log.bytes).findSome? tunnelUrl = none :=
    List.findSome?_eq_none_iff.2 fun l hl =>
      tunnelUrl_eq_none_iff.2 (by simpa using List.find?_eq_none.1 h l hl)
  rw [setupTunnel_running, hnone, Option.getD_none]

end Scan

/-! ## One line -/

section Line

variable {line before name after host : Bytes} {start stop : Nat}

/-- A line with the two texts in their order. -/
def ordered (before name after : Bytes) : Bytes :=
  before ++ (lit "https://" ++ (name ++ (lit ".vk-apps.com" ++ after)))

theorem marked_split (hstart : findText (lit "https://") line = some start)
    (hstop : findText (lit ".vk-apps.com") line = some stop) (hle : start ≤ stop) :
    ∃ before name after, line = ordered before name after ∧ before.length = start ∧
      before.length + 8 + name.length = stop := by
  have hscheme := (findText_eq_some_iff.1 hstart).2.1
  have hname := (findText_eq_some_iff.1 hstop).2.1
  have hlen : start + (lit "https://").length ≤ stop :=
    prefix_drop_disjoint hscheme hname (by decide) hle
  change start + 8 ≤ stop at hlen
  obtain ⟨a, after, rfl, ha⟩ := findText_eq_some hstop
  -- the scheme ends before the name begins
  have hin : lit "https://" <+: a.drop start := by
    rw [List.drop_append_of_le_length (by omega)] at hscheme
    refine List.prefix_of_prefix_length_le hscheme (List.prefix_append _ _) ?_
    rw [List.length_drop]
    change 8 ≤ a.length - start
    omega
  obtain ⟨name, hname⟩ := hin
  have hsplit : a = a.take start ++ (lit "https://" ++ name) := by
    rw [hname, List.take_append_drop]
  have hbefore : (a.take start).length = start := List.length_take_of_le (by omega)
  refine ⟨a.take start, name, after, ?_, hbefore, ?_⟩
  · conv_lhs => rw [hsplit]
    simp only [ordered, List.append_assoc]
  · have hlength := congrArg List.length hsplit
    have hfour : (lit "https://").length = 8 := rfl
    simp only [List.length_append, hbefore, hfour] at hlength ⊢
    omega

theorem length_ordered : (ordered before name after).length =
    before.length + 8 + name.length + 12 + after.length := by
  have hscheme : (lit "https://").length = 8 := rfl
  have hname : (lit ".vk-apps.com").length = 12 := rfl
  simp only [ordered, List.length_append, hscheme, hname]
  omega

/-- **The URL** ends two bytes behind the name, or where the line ends. -/
theorem tunnelUrl_ordered
    (hstart : findText (lit "https://") (ordered before name after) = some before.length)
    (hstop : findText (lit ".vk-apps.com") (ordered before name after) =
      some (before.length + 8 + name.length))
    (hlen : (ordered before name after).length < 2 ^ 63) :
    tunnelUrl (ordered before name after) =
      some (lit "https://" ++ (name ++ (lit ".vk-apps.com" ++ after.take 2))) := by
  rw [length_ordered] at hlen
  have hcount : (sizeSub (before.length + 8 + name.length) before.length + 14) % 2 ^ 64 =
      (lit "https://").length + (name.length + ((lit ".vk-apps.com").length + 2)) := by
    rw [sizeSub_of_le (by omega) (by omega)]
    change _ = 8 + (name.length + (12 + 2))
    omega
  simp only [tunnelUrl, hstart, hstop, substr, hcount]
  rw [ordered, List.drop_left, List.take_length_add_append, List.take_length_add_append,
    List.take_length_add_append]

theorem tunnelEndpoint_https (rest : Bytes) :
    tunnelEndpoint (lit "https://" ++ rest) = lit "wss://" ++ rest ++ lit "stream" := by
  have hfind : findText (lit "https://") (lit "https://" ++ rest) = some 0 :=
    findText_of_start (List.prefix_append _ _)
  have hdrop : (lit "https://" ++ rest).drop (0 + 8) = rest := List.drop_left' rfl
  simp only [tunnelEndpoint, eraseScheme, hfind, List.take_zero, hdrop, List.nil_append]

/-- Two bytes behind the name, the last of them a slash: then the name ends the host only if there
is no other one. -/
theorem slash_of_host
    (h : name ++ (lit ".vk-apps.com" ++ after.take 2) = host ++ lit "/")
    (hhost : lit ".vk-apps.com" <:+ host) :
    after = lit "/" ∧ host = name ++ lit ".vk-apps.com" := by
  match after with
  | [] =>
    have hlast := congrArg List.getLast? h
    rw [List.take_nil, List.append_nil, List.getLast?_append_of_ne_nil _ (by decide),
      List.getLast?_append_of_ne_nil _ (by decide)] at hlast
    exact absurd hlast (by decide)
  | [c] =>
    rw [← List.append_assoc] at h
    obtain ⟨hhead, hslash⟩ := List.append_inj' h rfl
    exact ⟨hslash, hhead.symm⟩
  | c :: d :: after =>
    have hsplit : name ++ (lit ".vk-apps.com" ++ (c :: d :: after).take 2) =
        ((name ++ lit ".") ++ (lit "vk-apps.com" ++ [c])) ++ [d] := by
      have hname : lit ".vk-apps.com" = lit "." ++ lit "vk-apps.com" := by decide
      simp only [hname, List.take_succ_cons, List.take_zero, List.append_assoc, List.cons_append,
        List.nil_append]
    obtain ⟨x, hx⟩ := hhost
    rw [hsplit] at h
    obtain ⟨hhead, -⟩ := List.append_inj' h rfl
    rw [← hx] at hhead
    obtain ⟨-, htail⟩ := List.append_inj' hhead rfl
    have hfirst := congrArg List.head? htail
    rw [List.head?_append_of_ne_nil _ (by decide)] at hfirst
    exact absurd hfirst (by decide)

end Line

/-! ## What is advertised -/

section Advertised

variable {isHost : Bytes → Prop} {log : LogFile} {line : Bytes}

theorem apiAfter_endpoint (env : HttpEnv) (port : Nat) (h : setupTunnel (.running log) ≠ []) :
    (apiAfter log env port).field (lit "endpoint") =
      .ok (.string (tunnelEndpoint (setupTunnel (.running log)))) := by
  have hfield (endpoint : Bytes) : Json.field (.object (insertField (lit "endpoint")
      (.string endpoint) (insertField (lit "api_key") (.string env.apiKey) [])))
        (lit "endpoint") = .ok (.string endpoint) := rfl
  simp only [apiAfter, setupCloudTunnel, api, if_pos h, hfield]

/-- **The endpoint that the line leads to**, with the two texts in their order. -/
theorem apiAfter_ordered (env : HttpEnv) (port : Nat) {before name after : Bytes}
    (hfind : (linesOf log.bytes).find? marked = some (ordered before name after))
    (hstart : findText (lit "https://") (ordered before name after) = some before.length)
    (hstop : findText (lit ".vk-apps.com") (ordered before name after) =
      some (before.length + 8 + name.length)) :
    setupTunnel (.running log) ≠ [] ∧ (apiAfter log env port).field (lit "endpoint") =
      .ok (.string (lit "wss://" ++ (name ++ (lit ".vk-apps.com" ++ after.take 2)) ++
        lit "stream")) := by
  have hline : ordered before name after ∈ linesOf log.bytes := List.mem_of_find?_eq_some hfind
  have hlen := Nat.lt_of_le_of_lt (infix_of_mem_linesOf hline).length_le log.size_lt
  have hurl : setupTunnel (.running log) =
      lit "https://" ++ (name ++ (lit ".vk-apps.com" ++ after.take 2)) := by
    rw [setupTunnel_of_find hfind, tunnelUrl_ordered hstart hstop hlen, Option.getD_some]
  have hne : setupTunnel (.running log) ≠ [] := by
    rw [hurl]
    exact List.append_ne_nil_of_left_ne_nil (by decide) _
  refine ⟨hne, ?_⟩
  rw [apiAfter_endpoint env port hne, hurl, tunnelEndpoint_https]

theorem endpoint_eq_iff {rest host : Bytes} :
    lit "wss://" ++ rest ++ lit "stream" = lit "wss://" ++ host ++ lit "/stream" ↔
      rest = host ++ lit "/" := by
  have hslash : lit "/stream" = lit "/" ++ lit "stream" := by decide
  rw [hslash, ← List.append_assoc, List.append_left_inj, List.append_assoc, List.append_right_inj]

theorem endsWithSlash_ordered {before name after : Bytes}
    (hstart : findText (lit "https://") (ordered before name after) = some before.length)
    (hstop : findText (lit ".vk-apps.com") (ordered before name after) =
      some (before.length + 8 + name.length)) :
    EndsWithSlash isHost (ordered before name after) ↔
      after = lit "/" ∧ isHost (name ++ lit ".vk-apps.com") := by
  have hsplit : ordered before name after =
      ((before ++ lit "https://") ++ (name ++ lit ".vk-apps.com")) ++ after := by
    simp only [ordered, List.append_assoc]
  have hscheme : (before ++ lit "https://").length = before.length + 8 := List.length_append
  have hlen : ((before ++ lit "https://") ++ (name ++ lit ".vk-apps.com")).length =
      before.length + 8 + name.length + 12 := by
    have hname : (lit ".vk-apps.com").length = 12 := rfl
    rw [List.length_append, hscheme, List.length_append, hname, Nat.add_assoc _ name.length]
  have hdrop : (ordered before name after).drop (before.length + 8 + name.length + 12) = after := by
    rw [hsplit, List.drop_left' hlen]
  have hhost : ((ordered before name after).take (before.length + 8 + name.length + 12)).drop
      (before.length + 8) = name ++ lit ".vk-apps.com" := by
    rw [hsplit, List.take_left' hlen, List.drop_left' hscheme]
  constructor
  · rintro ⟨start, stop, hstart', hstop', -, hslash, h⟩
    obtain rfl := Option.some.inj (hstart.symm.trans hstart')
    obtain rfl := Option.some.inj (hstop.symm.trans hstop')
    rw [hdrop] at hslash
    rw [hhost] at h
    exact ⟨hslash, h⟩
  · rintro ⟨hslash, h⟩
    refine ⟨_, _, hstart, hstop, by omega, ?_, ?_⟩
    · rw [hdrop, hslash]
    · rw [hhost]
      exact h

/-- **The advertised endpoint** is well formed exactly if the first line of the log that has both
texts in it, if there is one, has them in their order, with a host between them and a `/` as its
only byte behind them. -/
theorem advertised_iff (isHost : Bytes → Prop) (log : LogFile) (env : HttpEnv) (port : Nat) :
    Advertised isHost log env port ↔
      ∀ line, (linesOf log.bytes).find? marked = some line → EndsWithSlash isHost line := by
  constructor
  · intro h line hfind
    obtain ⟨hscanned, hmarked⟩ := scanned_marked_iff.2 hfind
    obtain ⟨start, hstart⟩ := Option.isSome_iff_exists.1 (Bool.and_eq_true_iff.1 hmarked).1
    obtain ⟨stop, hstop⟩ := Option.isSome_iff_exists.1 (Bool.and_eq_true_iff.1 hmarked).2
    have hle := h.noWrap line hscanned start stop hstart hstop
    obtain ⟨before, name, after, rfl, rfl, rfl⟩ := marked_split hstart hstop hle
    obtain ⟨hne, hendpoint⟩ := apiAfter_ordered env port hfind hstart hstop
    obtain ⟨host, hhost, -, hsuffix, his⟩ := h.endpoint hne
    rw [hendpoint, Except.ok.injEq, Json.string.injEq, endpoint_eq_iff] at hhost
    obtain ⟨hslash, rfl⟩ := slash_of_host hhost hsuffix
    exact (endsWithSlash_ordered hstart hstop).2 ⟨hslash, his⟩
  · intro h
    -- a line in which the scan finds both texts is the one at which it ends
    have hends : ∀ line, Scanned log line → marked line = true → EndsWithSlash isHost line :=
      fun line hscanned hmarked => h line (scanned_marked_iff.1 ⟨hscanned, hmarked⟩)
    refine ⟨fun hne => ?_, fun line hscanned hnot => ?_, fun line hscanned start stop hstart hstop => ?_⟩
    · cases hfind : (linesOf log.bytes).find? marked with
      | none => exact absurd (setupTunnel_of_find_none hfind) hne
      | some line =>
        have hline := List.mem_of_find?_eq_some hfind
        obtain ⟨start, stop, hstart, hstop, hle, -⟩ := id (h line hfind)
        obtain ⟨before, name, after, rfl, rfl, rfl⟩ := marked_split hstart hstop hle
        obtain ⟨rfl, his⟩ := (endsWithSlash_ordered hstart hstop).1 (h _ hfind)
        obtain ⟨-, hendpoint⟩ := apiAfter_ordered env port hfind hstart hstop
        refine ⟨name ++ lit ".vk-apps.com", ?_, ⟨_, hline, ?_⟩, List.suffix_append _ _, his⟩
        · rw [hendpoint, Except.ok.injEq, Json.string.injEq, endpoint_eq_iff, List.append_assoc]
          rfl
        · refine ⟨before, lit "/", ?_⟩
          simp only [ordered, List.append_assoc]
    · cases hmarked : marked line with
      | false => rw [tunnelUrl_eq_none_iff.2 hmarked, Option.getD_none]
      | true =>
        obtain ⟨start, stop, hstart, hstop, hle, -⟩ := hends line hscanned hmarked
        obtain ⟨before, name, after, rfl, -, -⟩ := marked_split hstart hstop hle
        exact absurd ⟨before, name, after, rfl⟩ hnot
    · have hmarked : marked line = true := by rw [marked, hstart, hstop]; rfl
      obtain ⟨start', stop', hstart', hstop', hle, -⟩ := hends line hscanned hmarked
      obtain rfl := Option.some.inj (hstart.symm.trans hstart')
      obtain rfl := Option.some.inj (hstop.symm.trans hstop')
      exact hle

/-- A log with nothing behind the URL. -/
def noSlashLog : LogFile := ⟨lit "https://a.vk-apps.com\n", by decide⟩

/-- A machine without cameras, recordings and files. -/
def bareEnv : HttpEnv where
  opens _ := false
  apiKey := lit "key"
  localEndpoint := .ok 8080
  localIp := lit "127.0.0.1"
  cloudTunnelUrl := []
  directory := ⟨[], List.nodup_nil⟩
  fileExists _ := .ok false
  remove _ := .ok false
  files _ := none
  cwd := []
  write := .ok ()
  printDouble _ := []

/-- No slash stands between the host and `stream`. -/
theorem not_advertised_noSlashLog :
    (apiAfter noSlashLog bareEnv 8080).field (lit "endpoint") =
        .ok (.string (lit "wss://a.vk-apps.comstream")) ∧
      ¬Advertised (fun _ => True) noSlashLog bareEnv 8080 := by
  have hne : setupTunnel (.running noSlashLog) ≠ [] := by decide +kernel
  have hendpoint : tunnelEndpoint (setupTunnel (.running noSlashLog)) =
      lit "wss://a.vk-apps.comstream" := by
    decide +kernel
  have happi := apiAfter_endpoint bareEnv 8080 hne
  rw [hendpoint] at happi
  refine ⟨happi, fun h => ?_⟩
  obtain ⟨host, hhost, -⟩ := h.endpoint hne
  rw [happi, Except.ok.injEq, Json.string.injEq] at hhost
  have hsplit : lit "wss://a.vk-apps.comstream" =
      lit "wss://" ++ lit "a.vk-apps.com" ++ lit "stream" := by
    decide
  rw [hsplit, endpoint_eq_iff] at hhost
  have hlast := congrArg List.getLast? hhost
  rw [List.getLast?_append_of_ne_nil _ (by decide)] at hlast
  exact absurd hlast (by decide)

/-- With the texts the other way round the difference wraps, and one byte is taken for the URL. -/
example : setupTunnel (.running ⟨lit ".vk-apps.com https://a", by decide⟩) = lit "h" := by
  decide +kernel

end Advertised

end AsciiStreamer
