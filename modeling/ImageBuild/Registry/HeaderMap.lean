import ImageBuild.Registry.Header

namespace ImageBuild.Registry

/-!
# Header maps — headers that callers hold and change in place

A caller refers to a header map and changes it step by step.  Attaching credentials writes to the
map that is referred to, and only once the credentials are encoded; it gives the reference back.
-/

/-- A reference to a header map. -/
abbrev HeaderRef := Nat

/-- The headers in every header map. -/
abbrev HeaderMaps := HeaderRef → Headers

/-- The header maps after the one at a reference is changed. -/
def HeaderMaps.change (maps : HeaderMaps) (ref : HeaderRef) (f : Headers → Headers) : HeaderMaps :=
  fun other => if other = ref then f (maps other) else maps other

/-- Something that works on header maps and may fail.  What it has changed before stays changed. -/
abbrev HeaderAction := ExceptT ClientError (StateM HeaderMaps)

/-- Attach credentials to the header map at a reference. -/
def attachTo (ref : HeaderRef) (source : Option Source) : HeaderAction HeaderRef := do
  match source with
  | none => return ref
  | some source =>
    if source.isEmpty then return ref
    else
      let value ← MonadExcept.ofExcept (encode source)
      modify fun maps => maps.change ref fun headers => headers.insert headerName (.string value)
      return ref

/-- A step on a header map. -/
inductive HeaderStep
  | set (name : String) (value : Json)
  | delete (name : String)
  | attach (source : Option Source)
  /-- Attach the credentials that a list of registries and credentials gives. -/
  | attachEntries (entries : List (String × Option Json))

namespace HeaderStep

/-- Make a step on the header map at a reference. -/
def perform (ref : HeaderRef) : HeaderStep → HeaderAction HeaderRef
  | .set name value => do
    modify fun maps => maps.change ref fun headers => headers.assign name value
    return ref
  | .delete name => do
    modify fun maps => maps.change ref fun headers => headers.erase name
    return ref
  | .attach source => attachTo ref source
  | .attachEntries entries => attachTo ref (some (.ofEntries entries))

/-- The outcome of a step and the header maps after it. -/
def outcome (ref : HeaderRef) (maps : HeaderMaps) (step : HeaderStep) :
    Except ClientError HeaderRef × HeaderMaps :=
  (step.perform ref).run maps

end HeaderStep

/-- The header maps after some steps on the one at a reference.  A step that fails is passed over. -/
def HeaderMaps.after (maps : HeaderMaps) (ref : HeaderRef) (steps : List HeaderStep) : HeaderMaps :=
  steps.foldl (fun maps step => (step.outcome ref maps).2) maps

end ImageBuild.Registry
