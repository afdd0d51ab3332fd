import Anytty.Connection.Registry

/-!
# The registry file

`Encode` writes the normalized registry into document structs field by field; `Parse`
reads them back the same way and normalizes. The YAML package is a parameter that reads
back the documents it writes.
-/

namespace Anytty.Connection

open Anytty.Data

abbrev Bytes := List UInt8

structure CredentialDescriptorDocument where
  descriptorID : String
  kind : String
  exportable : Bool
deriving DecidableEq

structure RouteDocument where
  kind : String
  displayName : String
  enabled : Option Bool
  manualOnly : Bool
  priority : Option Int
  credentialRef : String
  sshCredentialRef : String
  source : String
  policySource : String
  socket : String
  host : String
  port : UInt16
  user : String
  proxyJump : String
  hostKeyFingerprints : List String
  credentialDescriptor : Option CredentialDescriptorDocument
  remoteSignalingAddress : String
  remoteICETCPAddress : String
  signalingAddresses : List String
  iceTCPAddresses : List String
  advertisedAddresses : List String
  serverName : String
  targetDeviceID : String
  accountProfileRef : String
  relayMode : String
  relayTransport : String
deriving DecidableEq

structure SelectionPolicyDocument where
  hedgeDelay : String
  routePreference : String
deriving DecidableEq

structure EndpointDocument where
  label : String
  labelSource : String
  deviceID : String
  deviceFingerprint : String
  enabled : Option Bool
  connectMode : String
  selection : SelectionPolicyDocument
  routes : SortedMap String RouteDocument
deriving DecidableEq

structure RegistryDocument where
  version : Int
  default : Option String
  endpoints : Option (SortedMap String EndpointDocument)
deriving DecidableEq

/-- What follows the first document of a file. -/
inductive Trailing
  | eof
  | document
  | malformed (err : String)
deriving DecidableEq

/-- The YAML package: it reads back the documents it writes, as the only one of a file that is not
blank. -/
structure Yaml where
  marshal : RegistryDocument → Except String Bytes
  decode : Bytes → Except String RegistryDocument
  trailing : Bytes → Trailing
  /-- `strings.TrimSpace` leaves nothing. -/
  blank : Bytes → Bool
  round_trip : ∀ document bytes, marshal document = .ok bytes → decode bytes = .ok document
  single : ∀ document bytes, marshal document = .ok bytes → trailing bytes = .eof
  written : ∀ document bytes, marshal document = .ok bytes → blank bytes = false

def maxRegistryBytes : Nat := 2 ^ 20

/-! ### Encode -/

/-- The delay in whole milliseconds, with the unit. -/
def formatHedgeDelay (delay : Int) : String := toString (delay.tdiv (10 ^ 6)) ++ "ms"

def credentialDescriptorDocument (descriptor : CredentialDescriptor) :
    CredentialDescriptorDocument :=
  ⟨descriptor.descriptorID, descriptor.kind.text, descriptor.exportable⟩

/-- The route document that `Encode` makes. It does not set `sshCredentialRef`. -/
def routeDocument (route : AccessRoute) : RouteDocument where
  kind := route.kind.text
  displayName := route.displayName
  enabled := some route.enabled
  manualOnly := route.manualOnly
  priority := route.priority
  credentialRef := route.credentialRef
  sshCredentialRef := ""
  source := route.source.text
  policySource := route.policySource.text
  socket := route.socket
  host := route.host
  port := route.port
  user := route.user
  proxyJump := route.proxyJump
  hostKeyFingerprints := route.hostKeyFingerprints
  credentialDescriptor := route.credentialDescriptor.map credentialDescriptorDocument
  remoteSignalingAddress := route.remoteSignalingAddress
  remoteICETCPAddress := route.remoteICETCPAddress
  signalingAddresses := route.signalingAddresses
  iceTCPAddresses := route.iceTCPAddresses
  advertisedAddresses := route.advertisedAddresses
  serverName := route.serverName
  targetDeviceID := route.targetDeviceID
  accountProfileRef := route.accountProfileRef
  relayMode := route.relayMode.text
  relayTransport := route.relayTransport.text

/-- The endpoint document that `Encode` makes. There is no field for the platform. -/
def endpointDocument (endpoint : Endpoint) : EndpointDocument where
  label := endpoint.label
  labelSource := endpoint.labelSource.text
  deviceID := endpoint.daemonIdentity.deviceID
  deviceFingerprint := endpoint.daemonIdentity.deviceFingerprint
  enabled := some endpoint.enabled
  connectMode := endpoint.connectMode.text
  selection := {
    hedgeDelay := if endpoint.selectionPolicy.hedgeDelayConfigured then
        formatHedgeDelay endpoint.selectionPolicy.hedgeDelay
      else ""
    routePreference := endpoint.selectionPolicy.routePreference.text }
  routes := SortedMap.build (endpoint.routes.entries.map fun entry =>
    (entry.2.id, routeDocument entry.2))

def registryDocument (registry : Registry) : RegistryDocument where
  version := registryVersion
  default := some registry.default
  endpoints := some (SortedMap.build (registry.endpoints.entries.map fun entry =>
    (entry.2.id, endpointDocument entry.2)))

variable (text : GoText) (yaml : Yaml)

/-- Errors of `Encode` that are not connection errors carry the text of the YAML package. -/
inductive EncodeError
  | connection (err : ConnectionError)
  | marshal (message : String)
deriving DecidableEq

def encode (registry : Registry) : Except EncodeError Bytes :=
  match registry.normalize text with
  | .error err => .error (.connection err)
  | .ok normalized =>
    match yaml.marshal (registryDocument normalized) with
    | .error err => .error (.marshal ("encode endpoint registry: " ++ err))
    | .ok payload =>
      if maxRegistryBytes < payload.length then
        .error (.connection ⟨.sizeLimit, "encoded endpoint registry exceeds " ++
          toString maxRegistryBytes ++ " bytes"⟩)
      else .ok payload

/-! ### Parse -/

/-- `strconv.ParseUint(number, 10, 32)`. -/
def parseUint32 (number : String) : Option Nat :=
  if number = "" ∨ !number.toList.all Char.isDigit then none
  else
    let amount := Nat.ofDigitChars 10 number.toList 0
    if amount < 2 ^ 32 then some amount else none

def parseHedgeDelay (value : String) : Except String Int :=
  let milliseconds := trimSuffix value "ms"
  let (number, unit) : String × Int :=
    if milliseconds = value then (trimSuffix value "s", 10 ^ 9) else (milliseconds, 10 ^ 6)
  if number = value ∨ number = "" then .error "must use an integer ms or s value"
  else
    match parseUint32 number with
    | none => .error "must use an integer ms or s value"
    | some amount =>
      let delay := amount * unit
      if 30 * 10 ^ 9 < delay then .error "must be between 0 and 30s" else .ok delay

def parseCredentialDescriptor (document : CredentialDescriptorDocument) : CredentialDescriptor :=
  ⟨document.descriptorID, ⟨document.kind⟩, document.exportable⟩

/-- The fields of a route as `Parse` reads them. -/
def routeOfDocument (id : RouteID) (document : RouteDocument) : AccessRoute where
  id := id
  displayName := document.displayName
  kind := ⟨document.kind⟩
  enabled := document.enabled.getD true
  manualOnly := document.manualOnly
  priority := document.priority
  credentialRef := document.credentialRef
  sshCredentialRef := document.sshCredentialRef
  source := ⟨document.source⟩
  policySource := ⟨document.policySource⟩
  socket := document.socket
  host := document.host
  port := document.port
  user := document.user
  proxyJump := document.proxyJump
  hostKeyFingerprints := document.hostKeyFingerprints
  credentialDescriptor := document.credentialDescriptor.map parseCredentialDescriptor
  remoteSignalingAddress := document.remoteSignalingAddress
  remoteICETCPAddress := document.remoteICETCPAddress
  signalingAddresses := document.signalingAddresses
  iceTCPAddresses := document.iceTCPAddresses
  advertisedAddresses := document.advertisedAddresses
  serverName := document.serverName
  networkHandle := 0
  targetDeviceID := document.targetDeviceID
  accountProfileRef := document.accountProfileRef
  relayMode := ⟨document.relayMode⟩
  relayTransport := ⟨document.relayTransport⟩

def parseRoute (endpointID : EndpointID) (entry : String × RouteDocument) :
    Checked (RouteID × AccessRoute) := do
  wrap ("endpoint " ++ text.quote endpointID ++ ": ") (validateIdentifier text "route" entry.1)
  return (entry.1, routeOfDocument entry.1 entry.2)

/-- The delay of a file, and whether it is configured. -/
def parseSelectionDelay (id : EndpointID) (value : String) : Checked (Int × Bool) :=
  if value = "" then .ok (0, false)
  else
    match parseHedgeDelay value with
    | .error err => .error ⟨.config, "endpoint " ++ text.quote id ++ " hedge_delay: " ++ err⟩
    | .ok delay => .ok (delay, true)

def parseEndpoint (entry : String × EndpointDocument) : Checked (EndpointID × Endpoint) := do
  let id := entry.1
  let value := entry.2
  validateIdentifier text "endpoint" id
  let delay ← parseSelectionDelay text id value.selection.hedgeDelay
  let routes ← value.routes.entries.mapM (parseRoute text id)
  return (id, {
    id := id
    label := value.label
    labelSource := ⟨value.labelSource⟩
    daemonIdentity := ⟨value.deviceID, value.deviceFingerprint⟩
    platform := ""
    connectMode := ⟨value.connectMode⟩
    enabled := value.enabled.getD true
    selectionPolicy := ⟨delay.1, delay.2, ⟨value.selection.routePreference⟩⟩
    routes := SortedMap.build routes })

/-- `parseRegistry` after the document is read. -/
def parseDocument (document : RegistryDocument) : Checked Registry :=
  if document.version = 0 then
    .error ⟨.unsupportedVersion, "endpoint registry version is required"⟩
  else
    match document.default, document.endpoints with
    | some default, some endpoints => do
      check (default = trimSpace default) "default endpoint id must be canonical"
      let entries ← endpoints.entries.mapM (parseEndpoint text)
      wrap "normalize endpoint registry: "
        (Registry.normalize text ⟨document.version, default, SortedMap.build entries⟩)
    | _, _ => .error ⟨.config, "endpoint registry requires default and endpoints fields"⟩

def parse (data : Bytes) : Checked Registry :=
  if maxRegistryBytes < data.length then
    .error ⟨.sizeLimit, "endpoint registry exceeds " ++ toString maxRegistryBytes ++ " bytes"⟩
  else if yaml.blank data then .error ⟨.config, "endpoint registry is empty"⟩
  else
    match yaml.decode data with
    | .error err => .error ⟨.config, "decode endpoint registry: " ++ err⟩
    | .ok document =>
      match yaml.trailing data with
      | .document => .error ⟨.config, "endpoint registry must contain exactly one YAML document"⟩
      | .malformed err => .error ⟨.config, "decode trailing endpoint registry data: " ++ err⟩
      | .eof => parseDocument text document

end Anytty.Connection
