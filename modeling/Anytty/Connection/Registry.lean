import Anytty.Data.SortedMap

/-!
# The endpoint registry

The client's registry of endpoints and their routes, with the defaults, checks and
`Normalize` of the source. Go maps are sorted maps; where the source ranges over a map the
model goes through it in key order, which decides only which of several errors is reported.

The string types with named constants (`RouteKind`, `ConnectMode`, …) are open, as in the
source: a file may hold any text, and `Validate` is what refuses it.
-/

namespace Anytty.Connection

open Anytty.Data List

/-! ### Texts -/

/-- What the model does not spell out of Go's text functions: `%q` and `strings.ToLower`. -/
structure GoText where
  quote : String → String
  quoteRune : Char → String
  toLower : String → String
  toLower_empty : toLower "" = ""

/-- Text functions for texts that need no quoting and have no capitals. -/
def plainText : GoText := ⟨id, toString, id, rfl⟩

/-- `unicode.IsSpace`. -/
def isSpace (c : Char) : Bool :=
  c.toNat ∈ [0x09, 0x0a, 0x0b, 0x0c, 0x0d, 0x20, 0x85, 0xa0, 0x1680, 0x2028, 0x2029, 0x202f,
    0x205f, 0x3000] || (0x2000 ≤ c.toNat && c.toNat ≤ 0x200a)

/-- `unicode.IsControl`. -/
def isControl (c : Char) : Bool := c.toNat < 0x20 || (0x7f ≤ c.toNat && c.toNat < 0xa0)

/-- `strings.TrimSpace`. -/
def trimSpace (s : String) : String :=
  String.ofList ((s.toList.dropWhile isSpace).reverse.dropWhile isSpace).reverse

theorem dropWhile_id {α : Type} {p : α → Bool} {l : List α} (h : ∀ a ∈ l, p a = false) :
    l.dropWhile p = l := by
  cases l with
  | nil => rfl
  | cons a l => rw [dropWhile_cons_of_neg (by rw [h a mem_cons_self]; exact nofun)]

theorem trimSpace_id {s : String} (h : ∀ c ∈ s.toList, isSpace c = false) : trimSpace s = s := by
  unfold trimSpace
  rw [dropWhile_id h, dropWhile_id (by simpa using h), reverse_reverse, String.ofList_toList]

theorem trimSpace_trimSpace (s : String) : trimSpace (trimSpace s) = trimSpace s := by
  unfold trimSpace
  rw [String.toList_ofList]
  generalize left : s.toList.dropWhile isSpace = l
  -- What is left starts with a character that is no space: it is a prefix of `l`.
  have start : (l.reverse.dropWhile isSpace).reverse.dropWhile isSpace =
      (l.reverse.dropWhile isSpace).reverse := by
    have isPrefix : (l.reverse.dropWhile isSpace).reverse <+: l := rdropWhile_prefix _ _
    cases rest : (l.reverse.dropWhile isSpace).reverse with
    | nil => rfl
    | cons c cs =>
      obtain ⟨tail, whole⟩ := rest ▸ isPrefix
      have head := List.head?_dropWhile_not isSpace s.toList
      rw [left, ← whole] at head
      exact dropWhile_cons_of_neg (by simpa using head)
  rw [start, reverse_reverse, dropWhile_idempotent]

/-- `strings.TrimSuffix`. -/
def trimSuffix (s suffix : String) : String :=
  if suffix.toList.isSuffixOf s.toList then
    String.ofList (s.toList.take (s.toList.length - suffix.toList.length))
  else s

/-! ### Types -/

structure RouteKind where
  text : String
deriving DecidableEq, Repr

namespace RouteKind
def localUnix : RouteKind := ⟨"local-unix"⟩
def sshWebRTCTCP : RouteKind := ⟨"ssh-webrtc-tcp"⟩
def directWebRTCTCP : RouteKind := ⟨"direct-webrtc-tcp"⟩
def managedWebRTC : RouteKind := ⟨"managed-webrtc"⟩
end RouteKind

structure ConnectMode where
  text : String
deriving DecidableEq, Repr

namespace ConnectMode
def auto : ConnectMode := ⟨"auto"⟩
def onDemand : ConnectMode := ⟨"on_demand"⟩
def manual : ConnectMode := ⟨"manual"⟩
end ConnectMode

structure RoutePreference where
  text : String
deriving DecidableEq, Repr

namespace RoutePreference
def unset : RoutePreference := ⟨""⟩
def auto : RoutePreference := ⟨"auto"⟩
def direct : RoutePreference := ⟨"direct"⟩
def ssh : RoutePreference := ⟨"ssh"⟩
def managedCloud : RoutePreference := ⟨"managed_cloud"⟩
end RoutePreference

structure RelayMode where
  text : String
deriving DecidableEq, Repr

namespace RelayMode
def unset : RelayMode := ⟨""⟩
def auto : RelayMode := ⟨"auto"⟩
def direct : RelayMode := ⟨"direct"⟩
def only : RelayMode := ⟨"relay_only"⟩
def smart : RelayMode := ⟨"smart_route"⟩
end RelayMode

structure RelayTransport where
  text : String
deriving DecidableEq, Repr

namespace RelayTransport
def unset : RelayTransport := ⟨""⟩
def auto : RelayTransport := ⟨"auto"⟩
def udp : RelayTransport := ⟨"udp"⟩
def tcp : RelayTransport := ⟨"tcp"⟩
end RelayTransport

structure EndpointSource where
  text : String
deriving DecidableEq, Repr

namespace EndpointSource
def unset : EndpointSource := ⟨""⟩
def «local» : EndpointSource := ⟨"local"⟩
def cloud : EndpointSource := ⟨"cloud"⟩
def bootstrap : EndpointSource := ⟨"bootstrap"⟩
def manual : EndpointSource := ⟨"manual"⟩
def share : EndpointSource := ⟨"share"⟩
def lan : EndpointSource := ⟨"lan"⟩
def user : EndpointSource := ⟨"user"⟩
end EndpointSource

structure CredentialKind where
  text : String
deriving DecidableEq, Repr

namespace CredentialKind
def sshAgent : CredentialKind := ⟨"ssh-agent"⟩
def sshPrivateKey : CredentialKind := ⟨"ssh-private-key"⟩
def sshPassword : CredentialKind := ⟨"ssh-password"⟩
def capabilityGrant : CredentialKind := ⟨"capability-grant"⟩
def cloudProfile : CredentialKind := ⟨"cloud-profile"⟩
end CredentialKind

abbrev EndpointID := String
abbrev RouteID := String

structure DaemonIdentity where
  deviceID : String
  deviceFingerprint : String
deriving DecidableEq, Repr

/-- The delay is in nanoseconds. -/
structure SelectionPolicy where
  hedgeDelay : Int
  hedgeDelayConfigured : Bool
  routePreference : RoutePreference
deriving DecidableEq, Repr

structure CredentialDescriptor where
  descriptorID : String
  kind : CredentialKind
  exportable : Bool
deriving DecidableEq, Repr

structure AccessRoute where
  id : RouteID
  displayName : String
  kind : RouteKind
  enabled : Bool
  manualOnly : Bool
  priority : Option Int
  credentialRef : String
  sshCredentialRef : String
  source : EndpointSource
  policySource : EndpointSource
  socket : String
  host : String
  port : UInt16
  user : String
  proxyJump : String
  hostKeyFingerprints : List String
  credentialDescriptor : Option CredentialDescriptor
  remoteSignalingAddress : String
  remoteICETCPAddress : String
  signalingAddresses : List String
  iceTCPAddresses : List String
  advertisedAddresses : List String
  serverName : String
  /-- The only field that is not persistent. -/
  networkHandle : UInt64
  targetDeviceID : String
  accountProfileRef : String
  relayMode : RelayMode
  relayTransport : RelayTransport
deriving DecidableEq, Repr

structure Endpoint where
  id : EndpointID
  label : String
  labelSource : EndpointSource
  daemonIdentity : DaemonIdentity
  platform : String
  connectMode : ConnectMode
  enabled : Bool
  selectionPolicy : SelectionPolicy
  routes : SortedMap RouteID AccessRoute
deriving DecidableEq

structure Registry where
  version : Int
  default : EndpointID
  endpoints : SortedMap EndpointID Endpoint
deriving DecidableEq

def registryVersion : Int := 3
def defaultEndpointID : EndpointID := "local"

/-! ### Errors and checks -/

inductive ErrorCode
  | config
  | sizeLimit
  | unsupportedVersion
  | identityConflict
  | routeConflict
  | authorizationRequired
deriving DecidableEq, Repr

structure ConnectionError where
  code : ErrorCode
  message : String
deriving DecidableEq, Repr

abbrev Checked (α : Type) := Except ConnectionError α

/-- Refuse with an error of the configuration unless the condition holds. -/
def check (ok : Bool) (message : String) : Checked Unit :=
  if ok then .ok () else .error ⟨.config, message⟩

/-- `fmt.Errorf("…: %w", err)`. -/
def wrap {α : Type} (context : String) : Checked α → Checked α
  | .ok a => .ok a
  | .error err => .error { err with message := context ++ err.message }

variable (text : GoText)

def validIdentifierChar (c : Char) : Bool :=
  ('a' ≤ c && c ≤ 'z') || ('A' ≤ c && c ≤ 'Z') || ('0' ≤ c && c ≤ '9') || c = '-' || c = '_' ||
    c = '.'

def validateIdentifier (kind value : String) : Checked Unit := do
  check (value ≠ "") (kind ++ " id is required")
  check (value.utf8ByteSize ≤ 128) (kind ++ " id is longer than 128 characters")
  match value.toList.find? fun c => !validIdentifierChar c with
  | none => pure ()
  | some c => throw ⟨.config, kind ++ " id " ++ text.quote value ++
      " contains invalid character " ++ text.quoteRune c⟩

/-- An id that may be left out in favour of its key. -/
def validateGiven (kind value : String) : Checked Unit :=
  if value = "" then .ok () else validateIdentifier text kind value

def DaemonIdentity.isEmpty (identity : DaemonIdentity) : Bool :=
  identity.deviceID = "" && identity.deviceFingerprint = ""

def DaemonIdentity.validate (identity : DaemonIdentity) (required : Bool) : Checked Unit :=
  let deviceID := trimSpace identity.deviceID
  let fingerprint := trimSpace identity.deviceFingerprint
  if deviceID = "" ∧ fingerprint = "" ∧ !required then
    check identity.isEmpty "empty pool identity fields must use exact empty strings"
  else do
    check (deviceID ≠ "" && fingerprint ≠ "")
      "pool identity requires both device_id and device_fingerprint"
    check (identity.deviceID = deviceID && identity.deviceFingerprint = fingerprint &&
        !deviceID.toList.any (fun c => isSpace c || isControl c) &&
        !fingerprint.toList.any (fun c => isSpace c || isControl c))
      "pool identity fields must not contain whitespace or control characters"

def validSource (source : EndpointSource) : Bool :=
  source ∈ [.local, .cloud, .bootstrap, .manual, .share, .lan, .user]

def validEndpointPlatform (value : String) : Bool :=
  value = "" || (value = text.toLower (trimSpace value) && value.utf8ByteSize ≤ 32 &&
    value.toList.all fun c => ('a' ≤ c && c ≤ 'z') || ('0' ≤ c && c ≤ '9') || c = '_' || c = '-')

def validateCredentialDescriptor (descriptor : CredentialDescriptor) : Checked Unit :=
  match validateIdentifier text "credential descriptor" descriptor.descriptorID with
  | .error _ => .error ⟨.config, "credential descriptor requires a single-line id"⟩
  | .ok () =>
    if descriptor.kind ∈ [.sshPrivateKey, .sshPassword] then .ok ()
    else if descriptor.kind ∈ [.sshAgent, .capabilityGrant, .cloudProfile] then
      check (!descriptor.exportable) ("credential descriptor " ++
        text.quote descriptor.descriptorID ++ " cannot mark " ++ text.quote descriptor.kind.text ++
        " exportable")
    else .error ⟨.config, "credential descriptor " ++ text.quote descriptor.descriptorID ++
      " has unknown kind " ++ text.quote descriptor.kind.text⟩

def validateCanonicalRouteText (routeID : RouteID) (field value : String) (required : Bool) :
    Checked Unit :=
  if value = "" then
    check (!required) ("route " ++ text.quote routeID ++ " field " ++ field ++ " is required")
  else
    check (value = trimSpace value && !value.toList.any isControl)
      ("route " ++ text.quote routeID ++ " field " ++ field ++ " is not canonical")

/-- The loop of `validateCanonicalRouteList`, with the values it has seen. -/
def validateRouteValues (routeID : RouteID) (field : String) : List String → List String →
    Checked Unit
  | _, [] => .ok ()
  | seen, value :: values => do
    validateCanonicalRouteText text routeID field value true
    check (value ∉ seen) ("route " ++ text.quote routeID ++ " field " ++ field ++
      " repeats value " ++ text.quote value)
    validateRouteValues routeID field (value :: seen) values

def validateCanonicalRouteList (routeID : RouteID) (field : String) (values : List String)
    (required : Bool) : Checked Unit := do
  check (!(required && values.isEmpty)) ("route " ++ text.quote routeID ++ " field " ++ field ++
    " requires at least one value")
  validateRouteValues text routeID field [] values

namespace AccessRoute

section

variable (route : AccessRoute)

def hasSSHFields : Bool :=
  trimSpace route.host ≠ "" || route.port ≠ 0 || trimSpace route.user ≠ "" ||
    trimSpace route.proxyJump ≠ "" || trimSpace route.remoteSignalingAddress ≠ "" ||
    trimSpace route.remoteICETCPAddress ≠ "" || trimSpace route.sshCredentialRef ≠ "" ||
    !route.hostKeyFingerprints.isEmpty || route.credentialDescriptor.isSome

def hasDirectFields : Bool :=
  !route.signalingAddresses.isEmpty || !route.iceTCPAddresses.isEmpty ||
    !route.advertisedAddresses.isEmpty || trimSpace route.serverName ≠ ""

def hasManagedFields : Bool :=
  trimSpace route.targetDeviceID ≠ "" || trimSpace route.accountProfileRef ≠ "" ||
    route.relayMode ≠ .unset

/-- The single-line fields, with their names in the file. -/
def textFields : List (String × String) :=
  [("credential_ref", route.credentialRef), ("ssh_credential_ref", route.sshCredentialRef),
    ("socket", route.socket), ("host", route.host), ("user", route.user),
    ("proxy_jump", route.proxyJump), ("remote_signaling_address", route.remoteSignalingAddress),
    ("remote_ice_tcp_address", route.remoteICETCPAddress), ("server_name", route.serverName),
    ("target_device_id", route.targetDeviceID), ("account_profile_ref", route.accountProfileRef)]

/-- The part of `Validate` that depends on the kind. -/
def validateKind (identity : DaemonIdentity) : Checked Unit :=
  let name := route.kind.text ++ " route " ++ text.quote route.id
  let foreign := name ++ " contains fields owned by another route kind"
  if route.kind = .localUnix then do
    check (route.socket ≠ "") (name ++ " requires socket")
    check (!(route.hasSSHFields || route.hasDirectFields || route.hasManagedFields ||
      route.credentialRef ≠ "")) foreign
  else if route.kind = .sshWebRTCTCP then do
    check (route.host ≠ "" && route.remoteSignalingAddress ≠ "" && route.remoteICETCPAddress ≠ "")
      (name ++ " requires host and remote signaling/ICE-TCP addresses")
    check (!(route.socket ≠ "" || route.hasDirectFields || route.hasManagedFields)) foreign
  else if route.kind = .directWebRTCTCP then do
    check (!(route.signalingAddresses.isEmpty || route.iceTCPAddresses.isEmpty))
      (name ++ " requires signaling and ICE-TCP addresses")
    wrap (name ++ ": ") (identity.validate true)
    check (!(route.socket ≠ "" || route.hasSSHFields || route.hasManagedFields)) foreign
  else if route.kind = .managedWebRTC then do
    check (route.targetDeviceID ≠ "") (name ++ " requires target_device_id")
    wrap (name ++ ": ") (identity.validate true)
    check (route.targetDeviceID = identity.deviceID)
      (name ++ " target_device_id does not match endpoint identity")
    check (route.relayMode ∈ [.auto, .direct, .only, .smart])
      (name ++ " has unknown relay_mode " ++ text.quote route.relayMode.text)
    check (route.relayTransport ∈ [.unset, .auto, .udp, .tcp])
      (name ++ " has unknown relay_transport " ++ text.quote route.relayTransport.text)
    check (!(route.socket ≠ "" || route.hasSSHFields || route.hasDirectFields)) foreign
  else .error ⟨.config, "route " ++ text.quote route.id ++ " has unknown kind " ++
    text.quote route.kind.text⟩

/-- The check of the credential descriptor in `Validate`. -/
def validateDescriptor : Checked Unit :=
  match route.credentialDescriptor with
  | none => .ok ()
  | some descriptor => do
    check (route.kind = .sshWebRTCTCP) ("route " ++ text.quote route.id ++
      " contains credential_descriptor outside ssh-webrtc-tcp")
    wrap ("route " ++ text.quote route.id ++ " credential_descriptor: ")
      (validateCredentialDescriptor text descriptor)

def validate (identity : DaemonIdentity) : Checked Unit := do
  let name := "route " ++ text.quote route.id
  validateIdentifier text "route" route.id
  check (trimSpace route.displayName = route.displayName && route.displayName.utf8ByteSize ≤ 128)
    (name ++ " display_name is invalid")
  check (route.priority.all fun priority => 0 ≤ priority && priority ≤ 2 ^ 31 - 1)
    (name ++ " priority must be between 0 and 2147483647")
  route.textFields.forM fun field => validateCanonicalRouteText text route.id field.1 field.2 false
  validateCanonicalRouteList text route.id "host_key_fingerprints" route.hostKeyFingerprints false
  validateCanonicalRouteList text route.id "signaling_addresses" route.signalingAddresses
    (route.kind = .directWebRTCTCP)
  validateCanonicalRouteList text route.id "ice_tcp_addresses" route.iceTCPAddresses
    (route.kind = .directWebRTCTCP)
  validateCanonicalRouteList text route.id "advertised_addresses" route.advertisedAddresses false
  route.validateDescriptor text
  check (validSource route.source && validSource route.policySource)
    (name ++ " has an unknown source")
  route.validateKind text identity

end

/-- `sort.Strings` of a copy. -/
def normalizeStrings (values : List String) : List String := values.insertionSort (· ≤ ·)

def withDefaults (route : AccessRoute) : AccessRoute :=
  let source := if route.source = .unset then .manual else route.source
  { route with
    id := trimSpace route.id
    source := source
    policySource := if route.policySource = .unset then source else route.policySource
    socket := if route.kind = .localUnix ∧ route.socket = "" then "auto" else route.socket
    port := if route.kind = .sshWebRTCTCP ∧ route.port = 0 then 22 else route.port
    relayMode := if route.kind = .managedWebRTC ∧ route.relayMode = .unset then .auto
      else route.relayMode
    relayTransport := if route.kind = .managedWebRTC ∧
        (route.relayTransport = .unset ∨ route.relayTransport = .auto) then .tcp
      else route.relayTransport
    hostKeyFingerprints := normalizeStrings route.hostKeyFingerprints
    signalingAddresses := normalizeStrings route.signalingAddresses
    iceTCPAddresses := normalizeStrings route.iceTCPAddresses
    advertisedAddresses := normalizeStrings route.advertisedAddresses }

/-- The id under which a route is kept: its own, or its key. -/
def keyed (key : RouteID) (route : AccessRoute) : AccessRoute :=
  if route.id = "" then { route with id := trimSpace key } else route

/-- The route that `Validate` checks under a key. -/
def underKey (key : RouteID) (route : AccessRoute) : AccessRoute :=
  { keyed key route with id := trimSpace (keyed key route).id }

end AccessRoute

namespace Endpoint

/-- The endpoint under its own id, or under its key. -/
def keyed (key : EndpointID) (endpoint : Endpoint) : Endpoint :=
  { endpoint with id := trimSpace (if endpoint.id = "" then key else endpoint.id) }

def withDefaults (endpoint : Endpoint) : Endpoint :=
  let id := trimSpace endpoint.id
  { endpoint with
    id := id
    platform := text.toLower (trimSpace endpoint.platform)
    label := if trimSpace endpoint.label = "" then id else endpoint.label
    labelSource := if endpoint.labelSource = .unset then .manual else endpoint.labelSource
    connectMode := if endpoint.connectMode.text = "" then
        if id = defaultEndpointID then .auto else .onDemand
      else endpoint.connectMode
    routes := SortedMap.build (endpoint.routes.entries.map fun entry =>
      let route := (AccessRoute.keyed entry.1 entry.2).withDefaults
      (route.id, route)) }

/-- The check of one route in `Validate`. -/
def validateRoute (endpoint : Endpoint) (entry : RouteID × AccessRoute) : Checked Unit := do
  let key := trimSpace entry.1
  let route := AccessRoute.underKey entry.1 entry.2
  check (key = "" || key = route.id) ("endpoint " ++ text.quote endpoint.id ++ " route key " ++
    text.quote key ++ " does not match id " ++ text.quote route.id)
  wrap ("endpoint " ++ text.quote endpoint.id ++ ": ") (route.validate text endpoint.daemonIdentity)

/-- The priorities of the enabled automatic routes. -/
def priorities (endpoint : Endpoint) : List (Option Int) :=
  (endpoint.routes.entries.filter fun entry => entry.2.enabled && !entry.2.manualOnly).map
    (·.2.priority)

def validate (endpoint : Endpoint) : Checked Unit := do
  let name := "endpoint " ++ text.quote endpoint.id
  let policy := endpoint.selectionPolicy
  validateIdentifier text "endpoint" endpoint.id
  check (endpoint.connectMode ∈ [.auto, .onDemand, .manual])
    (name ++ " has unknown connect_mode " ++ text.quote endpoint.connectMode.text)
  check (policy.hedgeDelayConfigured || policy.hedgeDelay = 0)
    (name ++ " hedge_delay must be zero when it is not configured")
  check (!policy.hedgeDelayConfigured || (0 ≤ policy.hedgeDelay &&
      policy.hedgeDelay ≤ 30 * 10 ^ 9 && policy.hedgeDelay.tmod (10 ^ 6) = 0))
    (name ++ " hedge_delay must be a whole millisecond between 0 and 30s")
  check (policy.routePreference ∈ [.unset, .auto, .direct, .ssh, .managedCloud])
    (name ++ " has unknown route_preference " ++ text.quote policy.routePreference.text)
  check (validSource endpoint.labelSource)
    (name ++ " has unknown label source " ++ text.quote endpoint.labelSource.text)
  wrap (name ++ ": ") (endpoint.daemonIdentity.validate false)
  check (validEndpointPlatform text endpoint.platform) (name ++ " platform is invalid")
  check (!endpoint.routes.entries.isEmpty) (name ++ " requires at least one route")
  endpoint.routes.entries.forM (endpoint.validateRoute text)
  check (!endpoint.priorities.any (·.isSome) || endpoint.priorities.all (·.isSome))
    (name ++ " must configure priority on every enabled automatic route")

end Endpoint

namespace Registry

/-- The loop of `Normalize` through the routes of an endpoint, with the ids it has seen. -/
def checkRouteKeys (endpointID : EndpointID) : List RouteID → List (RouteID × AccessRoute) →
    Checked Unit
  | _, [] => .ok ()
  | seen, (key, route) :: entries => do
    let name := "endpoint " ++ text.quote endpointID
    wrap (name ++ ": ") (validateIdentifier text "route" key)
    wrap (name ++ ": ") (validateGiven text "route" route.id)
    let routeID := trimSpace (if route.id = "" then key else route.id)
    check (trimSpace key = routeID) (name ++ " route key " ++ text.quote key ++
      " does not match id " ++ text.quote routeID)
    check (routeID ∉ seen) (name ++ " repeats route id " ++ text.quote routeID)
    checkRouteKeys endpointID (routeID :: seen) entries

/-- What the loop of `Normalize` has built so far. -/
structure Progress where
  endpoints : SortedMap EndpointID Endpoint
  deviceIDs : SortedMap String EndpointID
  fingerprints : SortedMap String EndpointID

/-- The identity that an earlier endpoint has under an id. -/
def Progress.identityOf (progress : Progress) (id : EndpointID) : DaemonIdentity :=
  ((progress.endpoints.lookup id).map (·.daemonIdentity)).getD ⟨"", ""⟩

/-- No other endpoint may have the device id or the fingerprint. -/
def addIdentity (progress : Progress) (endpoint : Endpoint) : Checked Progress :=
  let identity := endpoint.daemonIdentity
  if identity.isEmpty then .ok progress
  else
    match progress.deviceIDs.lookup identity.deviceID with
    | some existing =>
      if (progress.identityOf existing).deviceFingerprint = identity.deviceFingerprint then
        .error ⟨.identityConflict, "endpoints " ++ text.quote existing ++ " and " ++
          text.quote endpoint.id ++ " repeat pool identity"⟩
      else
        .error ⟨.identityConflict, "device_id " ++ text.quote identity.deviceID ++
          " is pinned to multiple fingerprints"⟩
    | none =>
      match progress.fingerprints.lookup identity.deviceFingerprint with
      | some existing =>
        .error ⟨.identityConflict, "fingerprint " ++ text.quote identity.deviceFingerprint ++
          " is pinned to device_id values " ++
          text.quote (progress.identityOf existing).deviceID ++ " and " ++
          text.quote identity.deviceID⟩
      | none =>
        .ok { progress with
          deviceIDs := progress.deviceIDs.insert identity.deviceID endpoint.id
          fingerprints := progress.fingerprints.insert identity.deviceFingerprint endpoint.id }

/-- One endpoint in the loop of `Normalize`. -/
def addEndpoint (progress : Progress) (entry : EndpointID × Endpoint) : Checked Progress := do
  validateIdentifier text "endpoint" entry.1
  let key := trimSpace entry.1
  validateGiven text "endpoint" entry.2.id
  let endpoint := Endpoint.keyed key entry.2
  check (key = endpoint.id) ("endpoint key " ++ text.quote key ++ " does not match id " ++
    text.quote endpoint.id)
  checkRouteKeys text endpoint.id [] endpoint.routes.entries
  let endpoint := endpoint.withDefaults text
  endpoint.validate text
  check (progress.endpoints.lookup endpoint.id).isNone ("endpoint registry repeats endpoint id " ++
    text.quote endpoint.id)
  let progress ← addIdentity text progress endpoint
  return { progress with endpoints := progress.endpoints.insert endpoint.id endpoint }

/-- The default must name an enabled endpoint. -/
def checkDefault (registry : Registry) : Checked Registry := do
  check (registry.default ≠ "") "non-empty endpoint registry requires an explicit default endpoint"
  match registry.endpoints.lookup registry.default with
  | none => throw ⟨.config, "default endpoint " ++ text.quote registry.default ++ " not found"⟩
  | some endpoint =>
    check endpoint.enabled ("default endpoint " ++ text.quote registry.default ++ " is disabled")
    return registry

def normalize (registry : Registry) : Checked Registry :=
  if registry.version ≠ 0 ∧ registry.version ≠ registryVersion then
    .error ⟨.unsupportedVersion, "unsupported endpoint registry version " ++
      toString registry.version⟩
  else if registry.endpoints.entries.isEmpty then do
    check (trimSpace registry.default = "")
      ("empty endpoint registry cannot define default endpoint " ++ text.quote registry.default)
    return ⟨registryVersion, "", .empty⟩
  else do
    let progress ← registry.endpoints.entries.foldlM (addEndpoint text) ⟨.empty, .empty, .empty⟩
    checkDefault text ⟨registryVersion, trimSpace registry.default, progress.endpoints⟩

end Registry

/-! ### Checks that succeed -/

section Checks

variable {α β : Type} {x : Checked α} {f : α → Checked β} {b : β}

theorem bind_ok : (x >>= f) = .ok b ↔ ∃ a, x = .ok a ∧ f a = .ok b := by
  cases x with
  | ok a => exact ⟨fun h => ⟨a, rfl, h⟩, fun ⟨a', h, h'⟩ => by cases h; exact h'⟩
  | error err => exact ⟨nofun, nofun⟩

/-- A check in front of the rest. -/
theorem seq_ok {x : Checked Unit} {y : Checked β} :
    (x >>= fun _ => y) = .ok b ↔ x = .ok () ∧ y = .ok b := by
  rw [bind_ok]
  exact ⟨fun ⟨_, h, h'⟩ => ⟨h, h'⟩, fun ⟨h, h'⟩ => ⟨(), h, h'⟩⟩

theorem check_ok {ok : Bool} {message : String} : check ok message = .ok () ↔ ok = true := by
  cases ok with
  | true => exact ⟨fun _ => rfl, fun _ => rfl⟩
  | false => exact ⟨nofun, nofun⟩

theorem wrap_ok {context : String} {a : α} : wrap context x = .ok a ↔ x = .ok a := by
  cases x with
  | ok => exact Iff.rfl
  | error => exact ⟨nofun, nofun⟩

theorem forM_ok {check : α → Checked Unit} {values : List α} :
    values.forM check = .ok () ↔ ∀ value ∈ values, check value = .ok () := by
  induction values with
  | nil => exact ⟨fun _ => nofun, fun _ => rfl⟩
  | cons value values ih =>
    show (check value >>= fun _ => values.forM check) = .ok () ↔ _
    rw [seq_ok, ih, forall_mem_cons]

theorem mapM_ok {g : α → β} {values : List α}
    (h : ∀ value ∈ values, f value = .ok (g value)) : values.mapM f = .ok (values.map g) := by
  induction values with
  | nil => rfl
  | cons value values ih =>
    rw [mapM_cons, h value mem_cons_self,
      ih fun value mem => h value (mem_cons_of_mem _ mem)]
    rfl

end Checks

end Anytty.Connection
