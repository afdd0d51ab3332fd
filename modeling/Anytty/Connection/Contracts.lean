import Anytty.Connection.Document
import Anytty.RemoteAuth.Pairing

/-!
# Portable endpoint contracts

A bootstrap bundle comes from the daemon and a share bundle from another client. Both carry routes
in the wire format of the registry's own file, and both are parsed strictly: a portable route may
not be local, claim a source or, at its top level, name a credential. `accessRouteFromWire` then
copies the message of the route's kind as it is, with the references that it holds. A bundle is
free of references exactly if no such message holds one (`imports_name_no_credentials`); a share
whose SSH route names a credential is imported with it (`import_names_credential`).

Protobuf is a parameter; in a message that was read no element of a list is nil.
-/

namespace Anytty.Connection

open Anytty.Data
open Anytty.RemoteAuth (EndpointDaemonIdentity PairingTicketDescriptor Signature Time Packages
  verifySignature fingerprint publicKeySize signatureSize clockSkewTolerance second hour unixNano)

/-! ### Messages -/

/-- An open enumeration: a peer may send a number that this version does not know. -/
inductive WireSource
  | unspecified | lan | cloud | bootstrap | local | manual | share | user
  | other (number : Int)
deriving DecidableEq, Repr

inductive WireConnectMode
  | unspecified | auto | onDemand | manual
  | other (number : Int)
deriving DecidableEq, Repr

inductive WireRelayMode
  | unspecified | auto | direct | relayOnly | smartRoute
  | other (number : Int)
deriving DecidableEq, Repr

inductive WireRelayTransport
  | unspecified | auto | udp | tcp
  | other (number : Int)
deriving DecidableEq, Repr

inductive WireCredentialKind
  | unspecified | sshAgent | sshPrivateKey | sshPassword | capabilityGrant | cloudProfile
  | other (number : Int)
deriving DecidableEq, Repr

structure EndpointCredentialDescriptor where
  descriptorID : String
  kind : WireCredentialKind
  exportable : Bool
deriving DecidableEq, Repr

structure LocalUnixRouteConfig where
  socket : String
deriving DecidableEq, Repr

structure DirectWebRTCTCPRouteConfig where
  signalingAddresses : List String
  iceTCPAddresses : List String
  advertisedAddresses : List String
  serverName : String
deriving DecidableEq, Repr

structure SSHWebRTCTCPRouteConfig where
  host : String
  port : UInt32
  user : String
  hostKeyFingerprints : List String
  proxyJump : String
  credentialDescriptor : Option EndpointCredentialDescriptor
  remoteSignalingAddress : String
  remoteICETCPAddress : String
  sshCredentialRef : String
deriving DecidableEq, Repr

structure ManagedWebRTCRouteConfig where
  targetDeviceID : String
  accountProfileRef : String
  relayMode : WireRelayMode
  relayTransport : WireRelayTransport
deriving DecidableEq, Repr

/-- The `oneof` of a route. -/
inductive RouteMessage
  | localUnix (config : LocalUnixRouteConfig)
  | directWebRTCTCP (config : DirectWebRTCTCPRouteConfig)
  | sshWebRTCTCP (config : SSHWebRTCTCPRouteConfig)
  | managedWebRTC (config : ManagedWebRTCRouteConfig)
deriving DecidableEq, Repr

structure EndpointRouteConfig where
  schemaVersion : UInt32
  routeID : String
  enabled : Bool
  manualOnly : Bool
  priority : Option Int
  credentialRef : String
  source : WireSource
  policySource : WireSource
  displayName : String
  route : Option RouteMessage
deriving DecidableEq, Repr

structure EndpointSelectionPolicy where
  hedgeDelayConfigured : Bool
  hedgeDelayMillis : UInt64
deriving DecidableEq, Repr

structure ClientEndpointShareBundle where
  schemaVersion : UInt32
  transferID : String
  identity : Option EndpointDaemonIdentity
  suggestedLabel : String
  routes : List EndpointRouteConfig
  connectMode : WireConnectMode
  selectionPolicy : Option EndpointSelectionPolicy
  credentialDescriptors : List EndpointCredentialDescriptor
  boundGrant : Bytes
  issuedAtUnixNano : Int
  expiresAtUnixNano : Int
  platform : String
deriving DecidableEq

inductive EndpointAuthorizationBootstrap
  | pairingTicket (ticket : PairingTicketDescriptor)
  | boundGrant (grant : Bytes)
deriving DecidableEq

structure EndpointBootstrapBundle where
  schemaVersion : UInt32
  bundleID : String
  identity : Option EndpointDaemonIdentity
  suggestedLabel : String
  routes : List EndpointRouteConfig
  authorization : Option EndpointAuthorizationBootstrap
  issuedAtUnixNano : Int
  expiresAtUnixNano : Int
  bundleSignature : Bytes
  platform : String
deriving DecidableEq

structure PairingTicketSignatureInput where
  protocol : String
  version : UInt32
  issuerDeviceID : String
  issuerDeviceFingerprint : String
  ticket : PairingTicketDescriptor
deriving DecidableEq

structure EndpointBootstrapSignatureInput where
  protocol : String
  version : UInt32
  bundle : EndpointBootstrapBundle
deriving DecidableEq

/-- The protobuf package at one type of message. -/
structure Protobuf (α : Type) where
  /-- Deterministic encoding. -/
  marshal : α → Except String Bytes
  unmarshal : Bytes → Except String α
  /-- Whether the message that is read holds fields that its type does not have. -/
  hasUnknownFields : Bytes → Bool

structure ContractPackages extends GoText, Packages where
  share : Protobuf ClientEndpointShareBundle
  bootstrap : Protobuf EndpointBootstrapBundle
  marshalTicketInput : PairingTicketSignatureInput → Except String Bytes
  marshalBootstrapInput : EndpointBootstrapSignatureInput → Except String Bytes

def endpointBootstrapBundleVersion : UInt32 := 2
def clientEndpointShareBundleVersion : UInt32 := 1
def routeConfigVersion : UInt32 := 1
def portableSignatureVersion : UInt32 := 1
def maxPortableContractBytes : Nat := 256 * 2 ^ 10
def endpointBootstrapSignatureProtocol : String := "anytty.endpoint-bootstrap.signature"
def pairingTicketSignatureProtocol : String := "anytty.pairing-ticket.signature"

/-- Refuse with an error of another code than `check` does. -/
def checkAs (code : ErrorCode) (ok : Bool) (message : String) : Checked Unit :=
  if ok then .ok () else .error ⟨code, message⟩

/-! ### Encoding -/

def tooLarge : ConnectionError :=
  ⟨.sizeLimit, "portable endpoint contract exceeds " ++ toString maxPortableContractBytes ++
    " bytes"⟩

/-- The end of `marshalPortableContract`, for a message without unknown fields. -/
def marshalPortableContract (encoded : Except String Bytes) : Checked Bytes :=
  match encoded with
  | .error err => .error ⟨.config, "encode portable endpoint contract: " ++ err⟩
  | .ok payload => if maxPortableContractBytes < payload.length then .error tooLarge else .ok payload

def unmarshalPortableContract {α : Type} (protobuf : Protobuf α) (payload : Bytes) : Checked α :=
  if maxPortableContractBytes < payload.length then .error tooLarge
  else if payload.isEmpty then .error ⟨.config, "portable endpoint contract is empty"⟩
  else
    match protobuf.unmarshal payload with
    | .error err => .error ⟨.config, "decode portable endpoint contract: " ++ err⟩
    | .ok message =>
      if protobuf.hasUnknownFields payload then
        .error ⟨.config, "portable endpoint contract contains unknown fields"⟩
      else
        match protobuf.marshal message with
        | .error err => .error ⟨.config, "canonicalize portable endpoint contract: " ++ err⟩
        | .ok canonical =>
          if payload ≠ canonical then
            .error ⟨.config, "portable endpoint contract is not canonical deterministic protobuf"⟩
          else .ok message

/-! ### Routes -/

def mapWireSource : WireSource → EndpointSource
  | .local => .local
  | .cloud => .cloud
  | .bootstrap => .bootstrap
  | .manual => .manual
  | .share => .share
  | .lan => .lan
  | .user => .user
  | _ => .unset

def mapWireRelayMode : WireRelayMode → RelayMode
  | .unspecified | .auto => .auto
  | .direct => .direct
  | .relayOnly => .only
  | .smartRoute => .smart
  | .other _ => .unset

def mapWireRelayTransport : WireRelayTransport → RelayTransport
  | .unspecified | .auto => .tcp
  | .udp => .udp
  | .tcp => .tcp
  | .other _ => .unset

def mapWireConnectMode : WireConnectMode → ConnectMode
  | .auto => .auto
  | .onDemand => .onDemand
  | .manual => .manual
  | _ => ⟨""⟩

def mapWireCredentialKind : WireCredentialKind → CredentialKind
  | .sshAgent => .sshAgent
  | .sshPrivateKey => .sshPrivateKey
  | .sshPassword => .sshPassword
  | .capabilityGrant => .capabilityGrant
  | .cloudProfile => .cloudProfile
  | _ => ⟨""⟩

def credentialDescriptorFromWire (wire : EndpointCredentialDescriptor) : CredentialDescriptor :=
  ⟨wire.descriptorID, mapWireCredentialKind wire.kind, wire.exportable⟩

/-- The fields that do not depend on the kind. -/
def routeFrame (route : EndpointRouteConfig) (enabled : Bool) : AccessRoute :=
  let source := if mapWireSource route.source = .unset then .share else mapWireSource route.source
  { id := trimSpace route.routeID
    displayName := route.displayName
    kind := ⟨""⟩
    enabled := enabled
    manualOnly := route.manualOnly
    priority := route.priority
    credentialRef := route.credentialRef
    sshCredentialRef := ""
    source := source
    policySource := if mapWireSource route.policySource = .unset then source
      else mapWireSource route.policySource
    socket := ""
    host := ""
    port := 0
    user := ""
    proxyJump := ""
    hostKeyFingerprints := []
    credentialDescriptor := none
    remoteSignalingAddress := ""
    remoteICETCPAddress := ""
    signalingAddresses := []
    iceTCPAddresses := []
    advertisedAddresses := []
    serverName := ""
    networkHandle := 0
    targetDeviceID := ""
    accountProfileRef := ""
    relayMode := .unset
    relayTransport := .unset }

def accessRouteFromWire (route : EndpointRouteConfig) (enabled : Bool) : Checked AccessRoute :=
  let model := routeFrame route enabled
  match route.route with
  | some (.localUnix config) => .ok { model with kind := .localUnix, socket := config.socket }
  | some (.directWebRTCTCP config) =>
    .ok { model with
      kind := .directWebRTCTCP
      signalingAddresses := config.signalingAddresses
      iceTCPAddresses := config.iceTCPAddresses
      advertisedAddresses := config.advertisedAddresses
      serverName := config.serverName }
  | some (.sshWebRTCTCP config) =>
    if 65535 < config.port then .error ⟨.config, "portable route port is invalid"⟩
    else
      .ok { model with
        kind := .sshWebRTCTCP
        host := config.host
        port := config.port.toUInt16
        user := config.user
        proxyJump := config.proxyJump
        hostKeyFingerprints := config.hostKeyFingerprints
        remoteSignalingAddress := config.remoteSignalingAddress
        remoteICETCPAddress := config.remoteICETCPAddress
        sshCredentialRef := config.sshCredentialRef
        credentialDescriptor := config.credentialDescriptor.map credentialDescriptorFromWire }
  | some (.managedWebRTC config) =>
    .ok { model with
      kind := .managedWebRTC
      targetDeviceID := config.targetDeviceID
      accountProfileRef := config.accountProfileRef
      relayMode := mapWireRelayMode config.relayMode
      relayTransport := mapWireRelayTransport config.relayTransport }
  | none => .error ⟨.config, "portable route has unknown kind"⟩

section Text

variable (text : GoText)

def validatePortableRoute (route : EndpointRouteConfig) (identity : EndpointDaemonIdentity)
    (allowPolicy : Bool) : Checked Unit := do
  check (validateIdentifier text "portable route" route.routeID).isOk
    "portable route_id is required"
  checkAs .unsupportedVersion (route.schemaVersion = routeConfigVersion)
    "portable route version is unsupported"
  check (!route.route matches some (.localUnix _)) "local-unix route is not portable"
  check (route.credentialRef = "") "portable route cannot contain a source credential_ref"
  check (route.source = .unspecified && route.policySource = .unspecified)
    "portable route cannot claim source provenance"
  check (allowPolicy || !(route.manualOnly || route.priority.isSome))
    "pool bootstrap cannot contain client route policy"
  let model ← accessRouteFromWire route (!allowPolicy || route.enabled)
  model.validate text ⟨identity.deviceID, identity.deviceFingerprint⟩

/-- The loop over the routes of a bundle, with the ids it has seen. -/
def validatePortableRoutes (bundle : String) (identity : EndpointDaemonIdentity)
    (allowPolicy : Bool) : List String → List EndpointRouteConfig → Checked Unit
  | _, [] => .ok ()
  | seen, route :: routes => do
    wrap (bundle ++ " route: ") (validatePortableRoute text route identity allowPolicy)
    checkAs .routeConflict (route.routeID ∉ seen)
      (bundle ++ " repeats route_id " ++ text.quote route.routeID)
    validatePortableRoutes bundle identity allowPolicy (route.routeID :: seen) routes

/-- The check of one credential descriptor of a share, with those before it. -/
def validateShareDescriptor (seen : List EndpointCredentialDescriptor)
    (descriptor : EndpointCredentialDescriptor) : Checked Unit := do
  let name := "credential descriptor " ++ text.quote descriptor.descriptorID
  check (validateIdentifier text "credential descriptor" descriptor.descriptorID).isOk
    "credential descriptor id is required"
  match descriptor.kind with
  | .sshPrivateKey | .sshPassword => pure ()
  | .sshAgent | .capabilityGrant | .cloudProfile =>
    check (!descriptor.exportable) (name ++ " cannot be exportable")
  | _ => throw ⟨.config, name ++ " has unknown kind"⟩
  match seen.find? fun existing => existing.descriptorID = descriptor.descriptorID with
  | none => pure ()
  | some existing =>
    check (existing.kind = descriptor.kind && existing.exportable = descriptor.exportable)
      (name ++ " is defined inconsistently")
    throw ⟨.config, name ++ " is repeated"⟩

def validateShareDescriptors : List EndpointCredentialDescriptor →
    List EndpointCredentialDescriptor → Checked Unit
  | _, [] => .ok ()
  | seen, descriptor :: descriptors => do
    validateShareDescriptor text seen descriptor
    validateShareDescriptors (descriptor :: seen) descriptors

end Text

/-! ### Bundles -/

variable (packages : ContractPackages)

def validateWireIdentity (identity : Option EndpointDaemonIdentity) (requirePublicKey : Bool) :
    Checked EndpointDaemonIdentity :=
  match identity with
  | none => .error ⟨.config, "pool identity is required"⟩
  | some identity => do
    (DaemonIdentity.mk identity.deviceID identity.deviceFingerprint).validate true
    checkAs .identityConflict ((identity.devicePublicKey.isEmpty && !requirePublicKey) ||
        (identity.devicePublicKey.length = publicKeySize &&
          fingerprint packages.toPackages identity.devicePublicKey = identity.deviceFingerprint))
      "pool public key does not match device_fingerprint"
    return identity

/-- A time that is read from the clock if it is not given. -/
def givenOr (given clock : Time) : Time := if given = 0 then clock else given

/-- Neither expired nor issued in the future, up to the difference of two clocks. -/
def freshAt (issuedAtUnixNano expiresAtUnixNano : Int) (now : Time) : Bool :=
  unixNano (now - clockSkewTolerance) < expiresAtUnixNano &&
    issuedAtUnixNano ≤ unixNano (now + clockSkewTolerance)

/-- The scopes are trimmed, single-line and strictly ascending. -/
def validateTicketScopes : List String → List String → Checked Unit
  | _, [] => .ok ()
  | seen, scope :: scopes => do
    check (scope = trimSpace scope && scope ≠ "" &&
        !scope.toList.any (fun c => c = '\r' || c = '\n'))
      "pairing ticket scope is invalid"
    check (scope ∉ seen) "pairing ticket scope is repeated"
    check (seen.head?.all (· < scope)) "pairing ticket scopes are not canonical"
    validateTicketScopes (scope :: seen) scopes

def validatePairingTicketFields (ticket : PairingTicketDescriptor) (requireSignature : Bool)
    (now clock : Time) (requireFreshness : Bool) : Checked Unit := do
  check ((validateIdentifier packages.toGoText "pairing ticket" ticket.ticketID).isOk &&
      !ticket.scopeCeiling.isEmpty && 0 < ticket.issuedAtUnixNano &&
      ticket.issuedAtUnixNano < ticket.expiresAtUnixNano && 16 ≤ ticket.nonce.length &&
      ticket.maxRedemptions = 1 && 0 ≤ ticket.grantLifetimeSeconds &&
      ticket.grantLifetimeSeconds ≤ 365 * 24 * hour / second)
    "pairing ticket is invalid"
  check (!requireFreshness ||
      freshAt ticket.issuedAtUnixNano ticket.expiresAtUnixNano (givenOr now clock))
    "pairing ticket is invalid"
  validateTicketScopes [] ticket.scopeCeiling
  check (!requireSignature || ticket.signature.length = signatureSize)
    "pairing ticket signature is invalid"
  check (requireSignature || ticket.signature.isEmpty)
    "pairing ticket signature must be empty while signing"

def pairingTicketSigningBytesUnchecked (identity : EndpointDaemonIdentity)
    (ticket : PairingTicketDescriptor) : Checked Bytes :=
  marshalPortableContract (packages.marshalTicketInput ⟨pairingTicketSignatureProtocol,
    portableSignatureVersion, identity.deviceID, identity.deviceFingerprint,
    { ticket with signature := [] }⟩)

def endpointBootstrapSigningBytesUnchecked (bundle : EndpointBootstrapBundle) : Checked Bytes :=
  marshalPortableContract (packages.marshalBootstrapInput ⟨endpointBootstrapSignatureProtocol,
    portableSignatureVersion, { bundle with bundleSignature := [] }⟩)

section

variable (log : List Signature) (bundle : EndpointBootstrapBundle)

/-- The authorization of a bootstrap bundle. -/
def validateAuthorization
    (identity : EndpointDaemonIdentity) (now clock : Time) (requireFreshness : Bool) :
    Checked Unit :=
  match bundle.authorization with
  | none => .error ⟨.config, "endpoint bootstrap requires an authorization bootstrap"⟩
  | some (.pairingTicket ticket) => do
    check ((validatePairingTicketFields packages ticket true now clock requireFreshness).isOk &&
        ticket.issuedAtUnixNano = bundle.issuedAtUnixNano &&
        ticket.expiresAtUnixNano ≤ bundle.expiresAtUnixNano)
      "pairing ticket is invalid"
    let signingBytes ← pairingTicketSigningBytesUnchecked packages identity ticket
    checkAs .identityConflict
      (verifySignature log identity.devicePublicKey signingBytes ticket.signature)
      "pairing ticket signature does not match pool identity"
  | some (.boundGrant grant) =>
    if grant.isEmpty then .error ⟨.config, "authorization bootstrap is empty"⟩
    else .error ⟨.authorizationRequired, "bound capability grant verification is not available"⟩

/-- The identity is returned for the signature check that follows. -/
def validateEndpointBootstrapPayload
    (requireBundleSignature : Bool) (now clock : Time) (requireFreshness : Bool) :
    Checked EndpointDaemonIdentity := do
  checkAs .unsupportedVersion (bundle.schemaVersion = endpointBootstrapBundleVersion)
    "endpoint bootstrap version or bundle_id is invalid"
  check (validateIdentifier packages.toGoText "endpoint bootstrap bundle" bundle.bundleID).isOk
    "endpoint bootstrap bundle_id is invalid"
  let identity ← wrap "endpoint bootstrap identity: "
    (validateWireIdentity packages bundle.identity true)
  check (validEndpointPlatform packages.toGoText bundle.platform)
    "endpoint bootstrap platform is invalid"
  check (0 < bundle.issuedAtUnixNano && bundle.issuedAtUnixNano < bundle.expiresAtUnixNano)
    "endpoint bootstrap timestamps or signature are invalid"
  check (!requireFreshness ||
      freshAt bundle.issuedAtUnixNano bundle.expiresAtUnixNano (givenOr now clock))
    "endpoint bootstrap timestamps or signature are invalid"
  check (!requireBundleSignature || bundle.bundleSignature.length = signatureSize)
    "endpoint bootstrap signature is invalid"
  check (requireBundleSignature || bundle.bundleSignature.isEmpty)
    "endpoint bootstrap signature must be empty while signing"
  validatePortableRoutes packages.toGoText "endpoint bootstrap" identity false [] bundle.routes
  validateAuthorization packages log bundle identity now clock requireFreshness
  return identity

def validateEndpointBootstrapBundleAt
    (now clock : Time) (requireFreshness : Bool) : Checked EndpointDaemonIdentity := do
  let identity ←
    validateEndpointBootstrapPayload packages log bundle true now clock requireFreshness
  let signingBytes ← endpointBootstrapSigningBytesUnchecked packages bundle
  checkAs .identityConflict
    (verifySignature log identity.devicePublicKey signingBytes bundle.bundleSignature)
    "endpoint bootstrap signature does not match pool identity"
  return identity

end

def parseEndpointBootstrapBundle (log : List Signature) (payload : Bytes) (now : Time) :
    Checked EndpointBootstrapBundle := do
  let bundle ← unmarshalPortableContract packages.bootstrap payload
  let _ ← validateEndpointBootstrapBundleAt packages log bundle now now true
  return bundle

def validateClientEndpointShareBundle (bundle : ClientEndpointShareBundle) (now : Time) :
    Checked EndpointDaemonIdentity := do
  checkAs .unsupportedVersion (bundle.schemaVersion = clientEndpointShareBundleVersion)
    "client endpoint share version or transfer_id is invalid"
  check (validateIdentifier packages.toGoText "client endpoint share transfer"
      bundle.transferID).isOk
    "client endpoint share transfer_id is invalid"
  let identity ← wrap "client endpoint share identity: "
    (validateWireIdentity packages bundle.identity false)
  check (validEndpointPlatform packages.toGoText bundle.platform)
    "client endpoint share platform is invalid"
  check (0 < bundle.issuedAtUnixNano && bundle.issuedAtUnixNano < bundle.expiresAtUnixNano &&
      freshAt bundle.issuedAtUnixNano bundle.expiresAtUnixNano now)
    "client endpoint share timestamps are invalid"
  check (bundle.connectMode ∈ [.auto, .onDemand, .manual])
    "client endpoint share connect_mode is invalid"
  check (bundle.selectionPolicy.all fun policy =>
      if policy.hedgeDelayConfigured then policy.hedgeDelayMillis ≤ 30000
      else policy.hedgeDelayMillis = 0)
    "client endpoint share hedge delay is invalid"
  validatePortableRoutes packages.toGoText "client endpoint share" identity true [] bundle.routes
  validateShareDescriptors packages.toGoText [] bundle.credentialDescriptors
  checkAs .authorizationRequired bundle.boundGrant.isEmpty
    "shared bound capability grant verification is not available"
  return identity

def parseClientEndpointShareBundle (payload : Bytes) (now : Time) :
    Checked ClientEndpointShareBundle := do
  let bundle ← unmarshalPortableContract packages.share payload
  let _ ← validateClientEndpointShareBundle packages bundle now
  return bundle

/-! ### Candidates -/

structure EndpointCandidate where
  source : EndpointSource
  identity : DaemonIdentity
  suggestedLabel : String
  platform : String
  routes : List AccessRoute
  connectMode : ConnectMode
  selectionPolicy : Option SelectionPolicy
  applyClientPolicy : Bool
  credentialDescriptors : List CredentialDescriptor
deriving DecidableEq, Repr

/-- The routes of a candidate, under its source. -/
def candidateRoutes (source : EndpointSource) (enabled : EndpointRouteConfig → Bool)
    (routes : List EndpointRouteConfig) : Checked (List AccessRoute) :=
  routes.mapM fun wire => do
    let route ← accessRouteFromWire wire (enabled wire)
    return { route with source := source, policySource := source }

def endpointCandidateFromShareBundle (bundle : ClientEndpointShareBundle) (now : Time) :
    Checked EndpointCandidate := do
  let identity ← validateClientEndpointShareBundle packages bundle now
  let routes ← candidateRoutes .share (·.enabled) bundle.routes
  return {
    source := .share
    identity := ⟨identity.deviceID, identity.deviceFingerprint⟩
    suggestedLabel := bundle.suggestedLabel
    platform := bundle.platform
    routes := routes
    connectMode := mapWireConnectMode bundle.connectMode
    selectionPolicy := some (bundle.selectionPolicy.elim ⟨0, false, .unset⟩ fun policy =>
      ⟨policy.hedgeDelayMillis.toNat * 10 ^ 6, policy.hedgeDelayConfigured, .unset⟩)
    applyClientPolicy := true
    credentialDescriptors := bundle.credentialDescriptors.map credentialDescriptorFromWire }

def endpointCandidateFromBootstrapBundle (log : List Signature) (bundle : EndpointBootstrapBundle)
    (clock : Time) : Checked EndpointCandidate := do
  let identity ← validateEndpointBootstrapBundleAt packages log bundle 0 clock false
  let routes ← candidateRoutes .bootstrap (fun _ => true) bundle.routes
  return {
    source := .bootstrap
    identity := ⟨identity.deviceID, identity.deviceFingerprint⟩
    suggestedLabel := trimSpace bundle.suggestedLabel
    platform := bundle.platform
    routes := routes
    connectMode := ⟨""⟩
    selectionPolicy := none
    applyClientPolicy := false
    credentialDescriptors := [] }

/-! ### What an import names -/

/-- Nothing of the client's own: no credential, no account profile and no socket. -/
structure AccessRoute.NamesNothing (route : AccessRoute) : Prop where
  credentialRef : route.credentialRef = ""
  sshCredentialRef : route.sshCredentialRef = ""
  accountProfileRef : route.accountProfileRef = ""
  socket : route.socket = ""

/-- The reference in the message of the route's kind. -/
def EndpointRouteConfig.nestedRef (wire : EndpointRouteConfig) : String :=
  match wire.route with
  | some (.sshWebRTCTCP config) => config.sshCredentialRef
  | some (.managedWebRTC config) => config.accountProfileRef
  | _ => ""

section Names

variable {text : GoText} {wire : EndpointRouteConfig} {identity : EndpointDaemonIdentity}
  {allowPolicy enabled : Bool} {route : AccessRoute}

theorem validatePortableRoute_spec
    (h : validatePortableRoute text wire identity allowPolicy = .ok ()) :
    (∀ config, wire.route ≠ some (.localUnix config)) ∧ wire.credentialRef = "" := by
  unfold validatePortableRoute at h
  simp only [seq_ok, check_ok] at h
  obtain ⟨-, -, portable, unnamed, -⟩ := h
  refine ⟨?_, of_decide_eq_true unnamed⟩
  intro config isLocal
  rw [isLocal] at portable
  cases portable

variable {wires : List EndpointRouteConfig}

theorem validatePortableRoutes_spec {bundle : String} {seen : List String}
    (h : validatePortableRoutes text bundle identity allowPolicy seen wires = .ok ()) :
    ∀ wire ∈ wires, validatePortableRoute text wire identity allowPolicy = .ok () := by
  induction wires generalizing seen with
  | nil => exact List.forall_mem_nil _
  | cons wire wires ih =>
    unfold validatePortableRoutes at h
    simp only [seq_ok, wrap_ok] at h
    exact List.forall_mem_cons.mpr ⟨h.1, ih h.2.2⟩

/-- The conversion copies the reference of the kind, and a portable route has no other. -/
theorem namesNothing_iff (valid : validatePortableRoute text wire identity allowPolicy = .ok ())
    (converted : accessRouteFromWire wire enabled = .ok route) :
    route.NamesNothing ↔ wire.nestedRef = "" := by
  obtain ⟨portable, unnamed⟩ := validatePortableRoute_spec valid
  unfold accessRouteFromWire at converted
  unfold EndpointRouteConfig.nestedRef
  split at converted
  · next config isLocal => exact absurd isLocal (portable config)
  · next config isDirect =>
    cases converted
    rw [isDirect]
    exact ⟨fun _ => rfl, fun _ => ⟨unnamed, rfl, rfl, rfl⟩⟩
  · next config isSSH =>
    split at converted
    · cases converted
    cases converted
    rw [isSSH]
    exact ⟨fun h => h.sshCredentialRef, fun h => ⟨unnamed, h, rfl, rfl⟩⟩
  · next config isManaged =>
    cases converted
    rw [isManaged]
    exact ⟨fun h => h.accountProfileRef, fun h => ⟨unnamed, rfl, h, rfl⟩⟩
  · cases converted

theorem candidateRoutes_namesNothing {source : EndpointSource}
    {isEnabled : EndpointRouteConfig → Bool}
    {routes : List AccessRoute}
    (valid : ∀ wire ∈ wires, validatePortableRoute text wire identity allowPolicy = .ok ())
    (converted : candidateRoutes source isEnabled wires = .ok routes) :
    (∀ route ∈ routes, route.NamesNothing) ↔ ∀ wire ∈ wires, wire.nestedRef = "" := by
  unfold candidateRoutes at converted
  induction wires generalizing routes with
  | nil =>
    cases converted
    exact ⟨fun _ => List.forall_mem_nil _, fun _ => List.forall_mem_nil _⟩
  | cons wire wires ih =>
    rw [List.mapM_cons] at converted
    obtain ⟨first, convertedFirst, rest⟩ := bind_ok.mp converted
    obtain ⟨later, convertedLater, same⟩ := bind_ok.mp rest
    obtain ⟨model, convertedModel, sourced⟩ := bind_ok.mp convertedFirst
    cases same
    cases sourced
    obtain ⟨validFirst, validLater⟩ := List.forall_mem_cons.mp valid
    have sameNames :
        AccessRoute.NamesNothing { model with source := source, policySource := source } ↔
          model.NamesNothing :=
      ⟨fun h => ⟨h.1, h.2, h.3, h.4⟩, fun h => ⟨h.1, h.2, h.3, h.4⟩⟩
    rw [List.forall_mem_cons, List.forall_mem_cons, sameNames,
      namesNothing_iff validFirst convertedModel, ih validLater convertedLater]

theorem unmarshalPortableContract_spec {α : Type} {protobuf : Protobuf α} {payload : Bytes}
    {message : α} (h : unmarshalPortableContract protobuf payload = .ok message) :
    protobuf.unmarshal payload = .ok message := by
  unfold unmarshalPortableContract at h
  split at h
  · cases h
  split at h
  · cases h
  split at h
  · cases h
  next read =>
  split at h
  · cases h
  split at h
  · cases h
  split at h
  · cases h
  · cases h
    exact read

end Names

variable {packages}

theorem validateClientEndpointShareBundle_routes {bundle : ClientEndpointShareBundle} {now : Time}
    {identity : EndpointDaemonIdentity}
    (h : validateClientEndpointShareBundle packages bundle now = .ok identity) :
    ∀ wire ∈ bundle.routes,
      validatePortableRoute packages.toGoText wire identity true = .ok () := by
  unfold validateClientEndpointShareBundle at h
  simp only [seq_ok] at h
  obtain ⟨found, -, rest⟩ := bind_ok.mp h.2.2
  simp only [seq_ok] at rest
  obtain ⟨-, -, -, -, routes, -, -, same⟩ := rest
  cases same
  exact validatePortableRoutes_spec routes

theorem validateEndpointBootstrapBundleAt_routes {log : List Signature}
    {bundle : EndpointBootstrapBundle} {now clock : Time} {requireFreshness : Bool}
    {identity : EndpointDaemonIdentity}
    (h : validateEndpointBootstrapBundleAt packages log bundle now clock requireFreshness =
      .ok identity) :
    ∀ wire ∈ bundle.routes,
      validatePortableRoute packages.toGoText wire identity false = .ok () := by
  obtain ⟨checked, payload, rest⟩ := bind_ok.mp h
  obtain ⟨signingBytes, -, rest⟩ := bind_ok.mp rest
  rw [seq_ok] at rest
  obtain ⟨-, same⟩ := rest
  cases same
  unfold validateEndpointBootstrapPayload at payload
  simp only [seq_ok] at payload
  obtain ⟨found, -, rest⟩ := bind_ok.mp payload.2.2
  simp only [seq_ok] at rest
  obtain ⟨-, -, -, -, -, routes, -, same⟩ := rest
  cases same
  exact validatePortableRoutes_spec routes

/-- **What an import names.** For every payload that is parsed and made a candidate, the routes of
the candidate name nothing of the client exactly if the message that the payload encodes holds no
SSH credential reference and no account profile reference. -/
theorem imports_name_no_credentials (payload : Bytes) (log : List Signature) (parsed used : Time) :
    (∀ bundle candidate, parseClientEndpointShareBundle packages payload parsed = .ok bundle →
      endpointCandidateFromShareBundle packages bundle used = .ok candidate →
      ((∀ route ∈ candidate.routes, route.NamesNothing) ↔
        ∀ message, packages.share.unmarshal payload = .ok message →
          ∀ wire ∈ message.routes, wire.nestedRef = "")) ∧
    (∀ bundle candidate, parseEndpointBootstrapBundle packages log payload parsed = .ok bundle →
      endpointCandidateFromBootstrapBundle packages log bundle used = .ok candidate →
      ((∀ route ∈ candidate.routes, route.NamesNothing) ↔
        ∀ message, packages.bootstrap.unmarshal payload = .ok message →
          ∀ wire ∈ message.routes, wire.nestedRef = "")) := by
  constructor
  all_goals
    intro bundle candidate isParsed isUsed
    obtain ⟨message, decoded, rest⟩ := bind_ok.mp isParsed
    obtain ⟨_, _, same⟩ := bind_ok.mp rest
    cases same
    obtain ⟨identity, validated, rest⟩ := bind_ok.mp isUsed
    obtain ⟨routes, converted, made⟩ := bind_ok.mp rest
    cases made
    rw [unmarshalPortableContract_spec decoded]
    refine Iff.trans ?_ ⟨fun h message same => by cases same; exact h, fun h => h bundle rfl⟩
  · exact candidateRoutes_namesNothing
      (validateClientEndpointShareBundle_routes validated) converted
  · exact candidateRoutes_namesNothing
      (validateEndpointBootstrapBundleAt_routes validated) converted

/-! ### An import that names a credential -/

section

variable (sshCredentialRef : String)

/-- An SSH route with a reference to a credential. -/
def sampleWire : EndpointRouteConfig where
  schemaVersion := routeConfigVersion
  routeID := "shell"
  enabled := true
  manualOnly := false
  priority := none
  credentialRef := ""
  source := .unspecified
  policySource := .unspecified
  displayName := ""
  route := some (.sshWebRTCTCP {
    host := "relay.example"
    port := 22
    user := "root"
    hostKeyFingerprints := []
    proxyJump := ""
    credentialDescriptor := none
    remoteSignalingAddress := "127.0.0.1:1"
    remoteICETCPAddress := "127.0.0.1:2"
    sshCredentialRef := sshCredentialRef })

def sampleKey : Bytes := List.replicate 32 0

def sampleDaemon : EndpointDaemonIdentity := ⟨"box", sampleKey, "ed25519-sha256:key"⟩

def sampleShare : ClientEndpointShareBundle where
  schemaVersion := clientEndpointShareBundleVersion
  transferID := "transfer"
  identity := some sampleDaemon
  suggestedLabel := "box"
  routes := [sampleWire sshCredentialRef]
  connectMode := .manual
  selectionPolicy := none
  credentialDescriptors := []
  boundGrant := []
  issuedAtUnixNano := 1
  expiresAtUnixNano := 2
  platform := ""

def sampleSignature : Bytes := List.replicate 64 0

def sampleBootstrap : EndpointBootstrapBundle where
  schemaVersion := endpointBootstrapBundleVersion
  bundleID := "bundle"
  identity := some sampleDaemon
  suggestedLabel := "box"
  routes := [sampleWire sshCredentialRef]
  authorization := some (.pairingTicket {
    ticketID := "ticket"
    scopeCeiling := ["base:daemon"]
    issuedAtUnixNano := 1
    expiresAtUnixNano := 2
    nonce := List.replicate 16 0
    maxRedemptions := 1
    grantLifetimeSeconds := 0
    signature := sampleSignature })
  issuedAtUnixNano := 1
  expiresAtUnixNano := 2
  bundleSignature := sampleSignature
  platform := ""

/-- Packages that know the two bundles, a ticket and one key. -/
def samplePackages : ContractPackages where
  toGoText := plainText
  encodeBase64 _ := "key"
  decodeBase64 _ := none
  marshalClaims _ := .error "no claims"
  unmarshalClaims _ := .error "no claims"
  sha256 bytes := bytes
  publicKey _ := sampleKey
  sign _ _ := sampleSignature
  share := ⟨fun _ => .ok [1], fun _ => .ok (sampleShare sshCredentialRef), fun _ => false⟩
  bootstrap := ⟨fun _ => .ok [1], fun _ => .ok (sampleBootstrap sshCredentialRef), fun _ => false⟩
  marshalTicketInput _ := .ok [2]
  marshalBootstrapInput _ := .ok [3]

def sampleLog : List Signature :=
  [⟨sampleKey, [2], sampleSignature⟩, ⟨sampleKey, [3], sampleSignature⟩]

def sampleTime : Time := RemoteAuth.ofUnixNano 1

/-- A bundle of either kind becomes a candidate whose only route has the reference of the sample. -/
def ImportsWith : Prop :=
  (∃ bundle candidate,
    parseClientEndpointShareBundle (samplePackages sshCredentialRef) [1] sampleTime = .ok bundle ∧
    endpointCandidateFromShareBundle (samplePackages sshCredentialRef) bundle sampleTime =
      .ok candidate ∧
    candidate.routes.map (·.sshCredentialRef) = [sshCredentialRef]) ∧
  ∃ bundle candidate,
    parseEndpointBootstrapBundle (samplePackages sshCredentialRef) sampleLog [1] sampleTime =
      .ok bundle ∧
    endpointCandidateFromBootstrapBundle (samplePackages sshCredentialRef) sampleLog bundle
      sampleTime = .ok candidate ∧
    candidate.routes.map (·.sshCredentialRef) = [sshCredentialRef]

end

theorem imports_name_no_credentials_sample :
    (∃ bundle candidate,
      parseClientEndpointShareBundle (samplePackages "") [1] sampleTime = .ok bundle ∧
      endpointCandidateFromShareBundle (samplePackages "") bundle sampleTime = .ok candidate ∧
      ∀ route ∈ candidate.routes, route.NamesNothing) ∧
    ∃ bundle candidate,
      parseEndpointBootstrapBundle (samplePackages "") sampleLog [1] sampleTime = .ok bundle ∧
      endpointCandidateFromBootstrapBundle (samplePackages "") sampleLog bundle sampleTime =
        .ok candidate ∧
      ∀ route ∈ candidate.routes, route.NamesNothing := by
  have imported := @imports_name_no_credentials (samplePackages "") [1] sampleLog sampleTime
    sampleTime
  have unnamed : ∀ wire ∈ [sampleWire ""], wire.nestedRef = "" := by decide
  refine ⟨⟨_, _, rfl, rfl, (imported.1 _ _ rfl rfl).mpr ?_⟩, _, _, rfl, rfl,
    (imported.2 _ _ rfl rfl).mpr ?_⟩
  · intro message same
    cases same
    exact unnamed
  · intro message same
    cases same
    exact unnamed

/-- Both kinds of bundles are imported with the name of a credential of the importing client. -/
theorem import_names_credential : ImportsWith "id_ed25519" :=
  ⟨⟨_, _, rfl, rfl, rfl⟩, _, _, rfl, rfl, rfl⟩

end Anytty.Connection
