import ImageBuild.Daemon.Host
import ImageBuild.Error
import ImageBuild.Text.Front

namespace ImageBuild.Daemon

/-!
# Endpoints — where the daemon listens

A daemon host is a local socket, written `unix://` and its path, or an address on the network,
written `tcp://`, `http://` or `https://`.
-/

/-- Where requests are sent. -/
structure Endpoint where
  baseUrl : String
  /-- The local socket that requests go through, whatever the address says. -/
  socketPath : Option String := none
deriving DecidableEq, Repr

/-- What follows `mark` at the front of a text. -/
def after? (mark : String) (s : String) : Option (List Char) :=
  Text.dropWord? mark.toList s.toList

/-- A text without the slashes at its end. -/
def dropSlashes (s : List Char) : List Char := (s.reverse.dropWhile (· == '/')).reverse

/-- How plain addresses start. -/
def plainMark : String := "http://"

/-- The address behind a local socket. -/
def socketBase : String := "http://localhost"

/-- The endpoint that a daemon host names. -/
def Endpoint.ofHost? (host : String) : Except Failure Endpoint :=
  match after? "unix://" host, after? "tcp://" host, after? plainMark host,
    after? "https://" host with
  | some path, _, _, _ => .ok ⟨socketBase, some (String.ofList path)⟩
  | none, some rest, _, _ => .ok ⟨plainMark ++ String.ofList (dropSlashes rest), none⟩
  | none, none, some _, _ | none, none, none, some _ =>
    .ok ⟨String.ofList (dropSlashes host.toList), none⟩
  | none, none, none, none => .error (.plain ("Unsupported daemon host: " ++ host))

/-- Whether requests go through a local socket. -/
def Endpoint.isSocket (e : Endpoint) : Bool := e.socketPath.any (!·.isEmpty)

/-- What is wrong with an address. -/
def invalidUrl : Failure := .system "TypeError" "Invalid URL"

/-- Whether requests travel in plain text to another machine. -/
def Endpoint.isExposed (e : Endpoint) : Except Failure Bool :=
  match after? plainMark e.baseUrl with
  | some rest =>
    if e.isSocket then .ok false
    else
      match hostOf? rest with
      | some host => .ok (!host.isLocal)
      | none => .error invalidUrl
  | none => .ok false

end ImageBuild.Daemon
