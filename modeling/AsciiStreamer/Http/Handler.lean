import AsciiStreamer.Http.HttpSession
import AsciiStreamer.Http.Listing

/-!
# Handling requests and connections (`src/http_session.cpp`, `src/server.cpp`)

`handleRequest` is what the branches of the cascade do. They call the library and the machine, whose
answers are in `HttpEnv`; a call that throws ends the handler, and nothing in it catches but the loop
over the recordings. `acceptHandler` is the handler of `do_accept`. What escapes from a handler ends
`io_context::run`, and `main` returns.
-/

namespace AsciiStreamer

open Cxx Json

/-- What the calls made on the way answer. -/
structure HttpEnv where
  /-- Whether the camera with this index opens. -/
  opens : Nat → Bool
  apiKey : Bytes
  /-- The port of `acceptor().local_endpoint()`. -/
  localEndpoint : Except Exn Nat
  localIp : Bytes
  cloudTunnelUrl : Bytes
  directory : Directory
  fileExists : Bytes → Except Exn Bool
  remove : Bytes → Except Exn Bool
  /-- What the files hold, by where they are. -/
  files : List Bytes → Option Bytes
  cwd : List Bytes
  /-- The synchronous `http::write`. -/
  write : Except Exn Unit
  printDouble : Rat → Bytes

/-! ## Bodies -/

/-- `VideoSource::list_cameras`, on Linux. -/
def listCameras (opens : Nat → Bool) : List (Nat × Bytes) :=
  ((List.range 10).filter opens).map fun i => (i, lit "/dev/video" ++ natToDec i)

def cameras (opens : Nat → Bool) : Json :=
  match listCameras opens with
  | [] => .null
  | cameras => .array (cameras.map fun camera => .object
      (insertField (lit "name") (.string camera.2)
        (insertField (lit "index") (.integer camera.1) [])))

/-- `address.erase(pos, 8)` at the first `https://`. -/
def eraseScheme (address : Bytes) : Bytes :=
  match findText (lit "https://") address with
  | some pos => address.take pos ++ address.drop (pos + 8)
  | none => address

def tunnelEndpoint (tunnelUrl : Bytes) : Bytes :=
  lit "wss://" ++ eraseScheme tunnelUrl ++ lit "stream"

def localAddress (localIp : Bytes) (port : Nat) : Bytes :=
  lit "wss://" ++ localIp ++ lit ":" ++ natToDec port ++ lit "/stream"

def api (env : HttpEnv) (port : Nat) : Json :=
  let endpoint := if env.cloudTunnelUrl ≠ [] then tunnelEndpoint env.cloudTunnelUrl
    else localAddress env.localIp port
  .object (insertField (lit "endpoint") (.string endpoint)
    (insertField (lit "api_key") (.string env.apiKey) []))

def tunnelStatus (tunnelUrl : Bytes) : Json :=
  .object (insertField (lit "url") (.string tunnelUrl)
    (insertField (lit "available") (.boolean (tunnelUrl ≠ [])) []))

def testTunnel (tunnelUrl : Bytes) : Json :=
  .object (if tunnelUrl ≠ [] then
      insertField (lit "message") (.string (lit "Tunnel is accessible"))
        (insertField (lit "success") (.boolean true) [])
    else
      insertField (lit "message") (.string (lit "No tunnel available"))
        (insertField (lit "success") (.boolean false) []))

/-! ## The handler -/

namespace HttpSession

def contentLength (body : Bytes) : Bytes × Bytes :=
  (lit "Content-Length", natToDec body.length)

/-- `res.prepare_payload()`. -/
def preparePayload (res : Response) : Response :=
  { res with headers := res.headers ++ [contentLength res.body] }

/-- `http::write(stream_, res)`. -/
def write (env : HttpEnv) (res : Response) : Except Exn Response := env.write.map fun _ => res

def sendJson (env : HttpEnv) (j : Json) : Except Exn Response := do
  let body ← j.dump env.printDouble
  write env (preparePayload ⟨200, cors ++ [(lit "Content-Type", lit "application/json")], body⟩)

/-- The two substrings that a name to delete must not have. -/
def refusedName (filename : Bytes) : Bool :=
  (findText (lit "..") filename).isSome || (find slash filename 0).isSome

def recordingPath (filename : Bytes) : Bytes := lit "recordings/" ++ filename

def deleteRecording (env : HttpEnv) (filename : Bytes) : Except Exn Response := do
  if refusedName filename then
    write env (preparePayload ⟨400, cors, lit "Invalid filename"⟩)
  else if ← env.fileExists (recordingPath filename) then
    let _ ← env.remove (recordingPath filename)
    write env (preparePayload ⟨200, cors, lit "File deleted"⟩)
  else
    write env (preparePayload ⟨404, cors, lit "File not found"⟩)

/-- The response that is sent, or the exception that escapes. -/
def handleRequest (env : HttpEnv) (docRoot : Bytes) (method : Verb) (target : Bytes) :
    Except Exn Response :=
  match route docRoot method target with
  | .options => write env (preparePayload ⟨200, cors, []⟩)
  | .cameras => sendJson env (cameras env.opens)
  | .api => do
    let port ← env.localEndpoint
    sendJson env (api env port)
  | .tunnelStatus => sendJson env (tunnelStatus env.cloudTunnelUrl)
  | .testTunnel => sendJson env (testTunnel env.cloudTunnelUrl)
  | .recordings => sendJson env (recordings env.directory)
  | .deleteRecording filename => deleteRecording env filename
  | .file path => write env (preparePayload (serveFile env.files env.cwd path))

end HttpSession

/-- The handler of `async_accept`: whether it makes a session. It accepts again in both cases. -/
def acceptHandler (ec : Option Bytes) (remoteEndpoint : Except Exn Bytes) : Except Exn Bool :=
  match ec with
  | none => remoteEndpoint.map fun _ => true
  | some _ => .ok false

/-! ## The event loop -/

/-- The handlers of the HTTP side that `io_context::run` calls. -/
inductive HttpEvent
  | accept (ec : Option Bytes) (remoteEndpoint : Except Exn Bytes)
  | request (env : HttpEnv) (method : Verb) (target : Bytes)

/-- What a handler leaves of `io_context::run`. -/
def HttpEvent.run (docRoot : Bytes) : HttpEvent → Except Exn Unit
  | .accept ec remoteEndpoint => (acceptHandler ec remoteEndpoint).map fun _ => ()
  | .request env method target =>
    (HttpSession.handleRequest env docRoot method target).map fun _ => ()

/-- `main` with these handlers run one after the other: `none` while it runs, else what it
returns. -/
def main (docRoot : Bytes) (events : List HttpEvent) : Option Nat :=
  match events.forM (HttpEvent.run docRoot) with
  | .ok () => none
  | .error _ => some 1

end AsciiStreamer
