import ImageBuild.Settings
import ImageBuild.Error
import ImageBuild.Log.Mask
import ImageBuild.Text.LowerCase

namespace ImageBuild.Report

/-!
# Reports — errors that are told to the makers of the client

Nothing is reported unless the environment names a place to report to.  Events pass through
`filterEvent` first: headers that carry credentials lose their values, and the messages of
breadcrumbs are masked.
-/

/-- What the reporter is set up with. -/
structure Setup where
  dsn : String
  release : String
  environment : String
deriving DecidableEq, Repr

/-- What is asked of the reporter. -/
inductive Event
  | setUp (setup : Setup)
  | capture (failure : Failure) (context : Option Json)
  /-- All events are to be sent within so many milliseconds. -/
  | flush (milliseconds : Nat)
deriving Repr

/-- What the reporter is set up with, if the environment names a place to report to. -/
def setup? (e : Environment) (version : Json) : Option Setup :=
  (e.filled? "SENTRY_DSN").map fun dsn =>
    { dsn
      release := "container-build-client@" ++ version.plainText
      environment :=
        ((e.filled? "SENTRY_ENVIRONMENT").or (e.filled? "NODE_ENV")).getD "production" }

/-- The events of setting up. -/
def setUp (setup : Option Setup) : List Event := setup.toList.map .setUp

/-- The events of reporting a failure; none before the reporter is set up. -/
def capture (isSetUp : Bool) (failure : Failure) (context : Option Json) : List Event :=
  if isSetUp then [.capture failure context] else []

/-- How long to wait for reports to be sent, in milliseconds. -/
def patience : Nat := 2000

/-- The events of waiting for reports to be sent; none before the reporter is set up. -/
def flush (isSetUp : Bool) : List Event := if isSetUp then [.flush patience] else []

/-! ### The filter -/

/-- The headers that carry credentials, in small letters. -/
def sensitiveHeaders : List String := ["x-registry-config", "x-registry-auth", "authorization"]

/-- What stands for the value of such a header. -/
def filtered : Json := .string "[Filtered]"

/-- Whether a header carries credentials. -/
def isSensitive (name : String) : Bool :=
  sensitiveHeaders.contains (String.ofList (Text.lower name.toList))

/-- Headers without credentials. -/
def filterHeaders : Json → Json
  | .object headers =>
    .object (headers.map fun (name, value) => (name, if isSensitive name then filtered else value))
  | headers => headers

/-- A message without its secrets. -/
def filterMessage : Json → Json
  | .string message => .string (Log.mask message)
  | message => message

/-- An object with the value under a name changed, if there is one. -/
def change (name : String) (f : Json → Json) : Json → Json
  | .object members =>
    .object (members.map fun (n, value) => (n, if n = name then f value else value))
  | value => value

/-- A breadcrumb with its message masked, as an object. -/
def filterBreadcrumb (breadcrumb : Json) : Json :=
  change "message" filterMessage (.object breadcrumb.spread)

/-- Breadcrumbs with their messages masked. -/
def filterBreadcrumbs : Json → Json
  | .array breadcrumbs => .array (breadcrumbs.map filterBreadcrumb)
  | breadcrumbs => breadcrumbs

/-- An event without credentials. -/
def filterEvent (event : Json) : Json :=
  change "breadcrumbs" filterBreadcrumbs
    (change "request" (change "headers" filterHeaders) event)

end ImageBuild.Report
