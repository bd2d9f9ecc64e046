import ImageBuild.Registry.Source
import ImageBuild.Json.Parser
import ImageBuild.Text.Base64
import ImageBuild.Text.Utf8

namespace ImageBuild.Registry

/-!
# The registry header — credentials of all registries in one header value

`encode` writes the checked set as JSON in the given order of registries, and that as URL-safe
base64 with padding.  `decode` reads either base64 alphabet and checks what it finds.  `attach` sets
the header in a header map and leaves the map alone when there is nothing to send.
-/

/-- Names and values of a request's headers.  The values that this library sets are strings. -/
abbrev Headers := Members Json

/-- The name of the header that carries the credentials. -/
def headerName : String := "X-Registry-Config"

/-- The header value of a credential set. -/
def headerOf (set : CredentialSet) : String :=
  String.ofList (Text.Base64.encode (Text.Utf8.encode (Json.print set.toJson)))

/-- The header value of credentials as they are given. -/
def encode (source : Source) : Except ClientError String := do
  return headerOf (← source.check)

/-- The text that a base64 text denotes. -/
def textOf (value : String) : List Char := Text.Utf8.decode (Text.Base64.decode value.toList)

/-- The credential set in a header value. -/
def decode (value : String) : Except ClientError CredentialSet :=
  if Text.Base64.isWellFormed value.toList then
    match Json.parse? (textOf value) with
    | some found => (Source.ofJson found).check
    | none => .error .headerNotJson
  else .error .headerNotBase64

/-- The credential set in the value of a header.  What is no string is not decoded, but its form
    still counts; a header that is not there holds no JSON. -/
def decodeValue : Option Json → Except ClientError CredentialSet
  | some (.string value) => decode value
  | some value =>
    .error (if Text.Base64.isWellFormed value.plain then .headerNotJson else .headerNotBase64)
  | none => .error .headerNotJson

/-- The credential set in the header of a header map. -/
def decodeFrom (headers : Headers) : Except ClientError CredentialSet :=
  decodeValue (headers.get? headerName)

/-- The header map with the credentials set; unchanged when there is nothing to send. -/
def attach (headers : Headers) (source : Option Source) : Except ClientError Headers :=
  match source with
  | none => .ok headers
  | some source =>
    if source.isEmpty then .ok headers
    else do return headers.insert headerName (.string (← encode source))

end ImageBuild.Registry
