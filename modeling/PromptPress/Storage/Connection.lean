import PromptPress.Environment
import PromptPress.Json.Value
import PromptPress.Number.Reading
import PromptPress.Storage.Objects

/-!
# Connecting to a store

Where a store is and how to sign in to it is told by variables.  An endpoint is a host, perhaps with a
port, and nothing else.
-/

namespace PromptPress

open Text

/-- What an endpoint may not have. -/
inductive EndpointFault where
  | path
  | query
  | fragment
  | port
  | user
  | password
deriving DecidableEq, Inhabited

/-- Why there is no connection. -/
inductive ConnectionError where
  | missingVariable (name : String)
  | endpoint (fault : EndpointFault)
  | region (name : String)
deriving DecidableEq, Inhabited

/-- The message of a fault. -/
def EndpointFault.message : EndpointFault → String
  | path => "path in endpoint is not allowed"
  | query => "query in endpoint is not allowed"
  | fragment => "fragment in endpoint is not allowed"
  | port => "invalid port"
  | user => "username in endpoint is not allowed"
  | password => "password in endpoint is not allowed"

/-- The message of an error. -/
def ConnectionError.message : ConnectionError → String
  | missingVariable name => s!"Missing required environment variable: {name}"
  | endpoint fault => fault.message
  | region name => s!"invalid region {name}"

/-- A connection to a store. -/
structure StoreConnection where
  host : String
  secure : Bool
  region : Option String
deriving DecidableEq, Inhabited

namespace StoreConnection

/-- The record of a connection. -/
def toJson (c : StoreConnection) : Json :=
  .obj [("host", .str c.host), ("https", .bool c.secure), ("region", .ofString? c.region)]

/-- The endpoint where none is named. -/
def defaultEndpoint : String := "localhost:9000"

/-- The port that goes without saying. -/
def defaultPort (secure : Bool) : Int :=
  if secure then 443 else 80

/-- The user, the password and the host of an authority. -/
def splitAuthority (authority : List Char) : List Char × List Char × List Char :=
  match splitAtLast? (· == '@') authority with
  | none => ([], [], authority)
  | some (userInfo, host) =>
    match splitAtChar? (· == ':') userInfo with
    | none => (userInfo, [], host)
    | some (user, password) => (user, password, host)

/-- The port of a host: none if it has none, and a fault if it is no number below 65536. -/
def portOf (host : List Char) : Except EndpointFault (Option Int) :=
  match splitAtChar? (· == ':') host with
  | none | some (_, []) => .ok none
  | some (_, digits) =>
    let port := ofDigits 10 (digits.filterMap digitValue?)
    if digits.all (·.isDigit) && port ≤ 65535 then .ok (some port) else .error .port

/-- The host of an endpoint, without the port that goes without saying. -/
def hostOf (secure : Bool) (endpoint : String) : Except EndpointFault String := do
  let (authority, rest) := endpoint.toList.span fun c => c != '/' && c != '?' && c != '#'
  let (beforeFragment, fragment) := rest.span (· != '#')
  let (path, query) := beforeFragment.span (· != '?')
  if !path.isEmpty && path != ['/'] then throw .path
  if 1 < query.length then throw .query
  if 1 < fragment.length then throw .fragment
  let (user, password, host) := splitAuthority authority
  let port ← portOf host
  if !user.isEmpty then throw .user
  if !password.isEmpty then throw .password
  if port == some (defaultPort secure) then
    return String.ofList (lower (host.takeWhile (· != ':')))
  else return String.ofList authority

/-- Whether a character may stand at the ends of the name of a region. -/
def isRegionEdge (c : Char) : Bool :=
  c.isAlphanum

/-- Whether a text is the name of a region. -/
def isRegion (name : String) : Bool :=
  let s := name.toList
  s.length ≤ 63 && s.all (fun c => c.isAlphanum || c == '-' || c == '_') &&
    s.head?.any isRegionEdge && s.getLast?.any isRegionEdge

/-- A variable that has to be there. -/
def required (env : Environment) (name : String) : Except ConnectionError String :=
  (env.filled? name).elim (.error (.missingVariable name)) .ok

/-- The region that an environment names. -/
def regionOf (env : Environment) : Except ConnectionError (Option String) :=
  match env.filled? "MINIO_REGION" with
  | none => .ok none
  | some name => if isRegion name then .ok (some name) else .error (.region name)

/-- The connection that an environment describes. -/
def ofEnvironment (env : Environment) : Except ConnectionError StoreConnection := do
  let _ ← required env "MINIO_ACCESS_KEY"
  let _ ← required env "MINIO_SECRET_KEY"
  let secure := env.switch "MINIO_SECURE"
  let host ← (hostOf secure ((env.get? "MINIO_ENDPOINT").getD defaultEndpoint)).mapError .endpoint
  let region ← regionOf env
  return ⟨host, secure, region⟩

end StoreConnection

/-- The bucket of templates that an environment names. -/
def templateBucket (env : Environment) : String :=
  (env.get? "TEMPLATE_BUCKET").getD defaultBucket

end PromptPress
