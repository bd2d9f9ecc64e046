import ImageBuild.Request.Options
import ImageBuild.Request.Tag

namespace ImageBuild.Request

/-!
# Query parameters — what a build request asks of the daemon

`paramsOf` checks the options in this order: the name of the Dockerfile, the form of every known
member, the grammar of the tag.  Maps and lists travel as JSON text, and are left out when they are
empty.
-/

/-- The query parameters of a build request. -/
structure Params where
  tag : Option String
  quiet : Bool
  /-- Where the daemon finds the Dockerfile in the context. -/
  dockerfile : Option String
  rm : Bool
  noCache : Bool
  pull : Bool
  forceRm : Bool
  /-- The context that the daemon fetches itself. -/
  remote : Option String
  limits : Members Limit
  buildArgs : Option String
  labels : Option String
  cacheFrom : Option String
  target : Option String
  platform : Option String
  networkMode : Option String
  shmSize : Option Number
deriving DecidableEq, Repr

/-- A map as JSON text, unless it is empty. -/
def mapText? (map : Option (Members String)) : Option String :=
  match map with
  | none | some [] => none
  | some ms => some (Json.text (.object (ms.map fun (name, value) => (name, .string value))))

/-- A list as JSON text, unless it is empty. -/
def listText? (list : Option (List String)) : Option String :=
  match list with
  | none | some [] => none
  | some items => some (Json.text (.array (items.map .string)))

/-- The limits in the order in which they are sent. -/
def orderedLimits (limits : Members Limit) : Members Limit :=
  limitNames.filterMap fun name => (limits.get? name).map fun limit => (name, limit)

/-- The parameters that checked options stand for. -/
def Params.ofOptions (o : Options) (dockerfile remote : Option String) : Params :=
  { tag := o.tag
    quiet := o.quiet.getD false
    dockerfile := dockerfile
    rm := o.rm.getD false
    noCache := o.noCache.getD false
    pull := o.pull.getD false
    forceRm := o.forceRm.getD false
    remote := remote
    limits := orderedLimits o.limits
    buildArgs := mapText? o.buildArgs
    labels := mapText? o.labels
    cacheFrom := listText? o.cacheFrom
    target := o.target
    platform := o.platform
    networkMode := o.networkMode
    shmSize := o.shmSize }

/-- The parameters of a build with the given options, whose Dockerfile the daemon finds under
    `dockerfile` and whose context is `remote` when the daemon fetches it itself. -/
def paramsOf (given : Json) (dockerfile remote : Option String) : Except Failure Params :=
  if given.kind = .null then .error .wrongKind
  else
    match (given.get? "dockerfile").bind Options.dockerfileFailure? with
    | some failure => .error failure
    | none =>
      match Options.check given with
      | .error error => .error (.client error)
      | .ok options =>
        match options.tag with
        | some tag =>
          if isValidTag tag then .ok (Params.ofOptions options dockerfile remote)
          else .error (.client (.invalidTag tag))
        | none => .ok (Params.ofOptions options dockerfile remote)

/-- The parameters as an object: the eight that are always there, the limits, and the others as far
    as they are given. -/
def Params.toJson (p : Params) : Json :=
  let text (s : Option String) : Json := s.elim .null .string
  let optional (name : String) (s : Option String) : List (String × Json) :=
    s.toList.map fun s => (name, .string s)
  .object <|
    [("t", text p.tag), ("q", .bool p.quiet), ("dockerfile", text p.dockerfile), ("rm", .bool p.rm),
      ("nocache", .bool p.noCache), ("pull", .bool p.pull), ("forcerm", .bool p.forceRm),
      ("remote", text p.remote)] ++
    p.limits.map (fun (name, limit) => (name, limit.toJson)) ++
    optional "buildargs" p.buildArgs ++ optional "labels" p.labels ++
    optional "cachefrom" p.cacheFrom ++ optional "target" p.target ++
    optional "platform" p.platform ++ optional "networkmode" p.networkMode ++
    p.shmSize.toList.map fun n => ("shmsize", .number n)

end ImageBuild.Request
