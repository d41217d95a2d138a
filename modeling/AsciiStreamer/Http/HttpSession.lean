import AsciiStreamer.Lib.Path

/-!
# An HTTP session (`src/http_session.cpp`)

`route` is the cascade of `handle_request`: which branch a request takes. The last one opens the
path that `doc_root` and the target make up (`staticPath`) and sends back what it holds
(`serveFile`).
-/

namespace AsciiStreamer

open Cxx Path

/-- The methods that `handle_request` tells apart. -/
inductive Verb
  | options
  | delete
  | other
  deriving DecidableEq, Repr

structure Response where
  status : Nat
  headers : List (Bytes × Bytes)
  body : Bytes
  deriving DecidableEq, Repr

namespace HttpSession

def hasSuffix (path suffix : Bytes) : Bool :=
  suffix.length < path.length && path.drop (path.length - suffix.length) == suffix

def getMimeType (path : Bytes) : Bytes :=
  if hasSuffix path (lit ".html") then lit "text/html"
  else if hasSuffix path (lit ".js") then lit "application/javascript"
  else if hasSuffix path (lit ".css") then lit "text/css"
  else if hasSuffix path (lit ".png") then lit "image/png"
  else if hasSuffix path (lit ".jpg") then lit "image/jpeg"
  else if hasSuffix path (lit ".jpeg") then lit "image/jpeg"
  else if hasSuffix path (lit ".ico") then lit "image/x-icon"
  else lit "application/octet-stream"

/-- The headers of every response. -/
def cors : List (Bytes × Bytes) :=
  [(lit "Access-Control-Allow-Origin", lit "*"),
    (lit "Access-Control-Allow-Methods", lit "GET, POST, OPTIONS"),
    (lit "Access-Control-Allow-Headers", lit "Content-Type, Authorization"),
    (lit "Access-Control-Max-Age", lit "86400")]

/-! ## The cascade -/

inductive Route
  | options
  | cameras
  | api
  | tunnelStatus
  | testTunnel
  | recordings
  | deleteRecording (filename : Bytes)
  | file (path : Bytes)
  deriving DecidableEq, Repr

/-- `path`, with `index.html` behind a trailing slash. -/
def staticPath (docRoot target : Bytes) : Bytes :=
  let path := docRoot ++ target
  if path.getLast? = some slash then path ++ lit "index.html" else path

def route (docRoot : Bytes) (method : Verb) (target : Bytes) : Route :=
  if method = .options then .options
  else if target = lit "/cameras" then .cameras
  else if target = lit "/api" then .api
  else if target = lit "/tunnel_status" then .tunnelStatus
  else if target = lit "/test_tunnel" then .testTunnel
  else if target = lit "/recordings" then .recordings
  else if lit "/recordings/" <+: target ∧ method = .delete then
    .deleteRecording (substrFrom target 12)
  else .file (staticPath docRoot target)

/-- The static-file branch. `files` is what the files hold, by where they are. -/
def serveFile (files : List Bytes → Option Bytes) (cwd : List Bytes) (path : Bytes) : Response :=
  match files (resolve cwd (cString path)) with
  | some content => ⟨200, cors ++ [(lit "Content-Type", getMimeType path)], content⟩
  | none => ⟨404, cors ++ [(lit "Content-Type", lit "text/plain")],
      lit "File not found: " ++ path⟩

end HttpSession

/-- The `doc_root` of `main.cpp`. -/
def docRoot : Bytes := lit "../web"

end AsciiStreamer
