import Anytty.RemoteAuth.Grant

/-!
# Pairing tickets

A pairing bundle carries a ticket: the upper bound of the scope that its one redemption may
grant, with a short lifetime. The bundle and ticket encodings of the endpoint package are
parameters, and so is the content of a route beyond whether it is a managed one.
-/

namespace Anytty.RemoteAuth

open Anytty.Connection (trimSpace isControl)

structure Identity where
  deviceID : String
  fingerprint : String
  publicKey : Bytes
  privateKey : Bytes
deriving DecidableEq

structure PairingTicketClaims where
  version : Nat
  ticketID : String
  issuerDeviceID : String
  issuerDeviceFingerprint : String
  scopeCeiling : Scope
  issuedAt : Time
  notBefore : Time
  expiresAt : Time
  grantLifetimeSeconds : Int
  nonce : String
  maxRedemptions : Nat
deriving DecidableEq

structure PairingTicketDescriptor where
  ticketID : String
  scopeCeiling : List String
  issuedAtUnixNano : Int
  expiresAtUnixNano : Int
  nonce : Bytes
  maxRedemptions : Nat
  grantLifetimeSeconds : Int
  signature : Bytes
deriving DecidableEq

structure EndpointDaemonIdentity where
  deviceID : String
  devicePublicKey : Bytes
  deviceFingerprint : String
deriving DecidableEq

structure RouteConfig where
  managedWebrtc : Bool
  config : Bytes
deriving DecidableEq

structure PairingBundle where
  schemaVersion : Nat
  bundleID : String
  identity : Option EndpointDaemonIdentity
  suggestedLabel : String
  platform : String
  routes : List RouteConfig
  pairingTicket : Option PairingTicketDescriptor
  issuedAtUnixNano : Int
  expiresAtUnixNano : Int
  bundleSignature : Bytes
deriving DecidableEq

inductive PairingError
  | malformed (detail : String)
  | expired
  | consumed
  | claimMalformed
  | claimUnavailable
  | grant (err : GrantError)
  | failed (message : String)
deriving DecidableEq

/-- The encodings of bundles and tickets. -/
structure PairingPackages extends Packages where
  toLower : String → String
  ticketSigningBytes : EndpointDaemonIdentity → PairingTicketDescriptor → Except String Bytes
  bundleSigningBytes : PairingBundle → Except String Bytes
  /-- `MarshalEndpointBootstrapBundle`. -/
  encodePairingBundle : PairingBundle → Except String Bytes
  /-- `ParseEndpointBootstrapBundleForExchange`. -/
  parseEndpointBootstrapBundle : Bytes → Except String PairingBundle

def pairingBundleVersion : Nat := 2
def pairingTicketVersion : Nat := 1
def defaultPairingTicketTTL : Int := 600 * second
def maxPairingTicketTTL : Int := 7 * 24 * hour
def maxPairingGrantTTL : Int := 365 * 24 * hour
def maxPairingLabelBytes : Nat := 128

/-- The Unix epoch. -/
def unixEpoch : Time := 62135596800 * second
def unixNano (time : Time) : Int := time - unixEpoch
def ofUnixNano (nanoseconds : Int) : Time := nanoseconds + unixEpoch

/-! ### Labels, scopes and claims -/

def normalizePairingLabel (value field : String) : Except PairingError String :=
  let value := trimSpace value
  if maxPairingLabelBytes < value.utf8ByteSize then
    .error (.failed (field ++ " must be valid UTF-8 and at most " ++
      toString maxPairingLabelBytes ++ " bytes"))
  else if value.toList.any isControl then
    .error (.failed (field ++ " cannot contain control characters"))
  else .ok value

variable (packages : PairingPackages)

def Identity.validate (identity : Identity) : Except PairingError Unit :=
  if trimSpace identity.deviceID = "" ∨ identity.publicKey.length ≠ publicKeySize ∨
      identity.privateKey.length ≠ privateKeySize then
    .error (.failed "incomplete DeviceIdentity")
  else if RemoteAuth.fingerprint packages.toPackages identity.publicKey ≠ identity.fingerprint ∨
      identity.publicKey ≠ packages.publicKey identity.privateKey then
    .error (.failed "DeviceIdentity key and fingerprint mismatch")
  else .ok ()

def pairingScopeDaemon : String := "base:daemon"
def pairingScopeMachineEvent : String := "base:machine_events"
def pairingScopeTerminal : String := "base:terminal:"
def pairingScopeFileMetadata : String := "file:read_metadata"
def pairingScopeFileRead : String := "file:read_content"
def pairingScopeFileWrite : String := "file:write_content"
def pairingScopeFileMutate : String := "file:mutate"
def pairingScopeManageAccess : String := "manage:client_access"

/-- The scope as a sorted list of texts. -/
def pairingScopeStrings (scope : Scope) : Except PairingError (List String) :=
  match scope.validate with
  | .error err => .error (.grant err)
  | .ok () =>
    let base := if scope.allowDaemon then [pairingScopeDaemon]
      else if scope.terminalID ≠ "" then
        [pairingScopeTerminal ++ packages.encodeBase64 (textBytes (trimSpace scope.terminalID))]
      else if scope.machineEventsOnly then [pairingScopeMachineEvent] else []
    let values := base ++ (if scope.fileReadMetadata then [pairingScopeFileMetadata] else []) ++
      (if scope.fileReadContent then [pairingScopeFileRead] else []) ++
      (if scope.fileWriteContent then [pairingScopeFileWrite] else []) ++
      (if scope.fileMutate then [pairingScopeFileMutate] else []) ++
      (if scope.manageClientAccess then [pairingScopeManageAccess] else [])
    .ok (values.insertionSort (· ≤ ·))

def emptyScope : Scope := ⟨false, "", false, false, false, false, false, false⟩

/-- One text of a scope. A terminal id that is not a text is refused here. -/
def addPairingScope (scope : Scope) (value : String) : Except PairingError Scope :=
  if value = pairingScopeDaemon then .ok { scope with allowDaemon := true }
  else if value = pairingScopeMachineEvent then .ok { scope with machineEventsOnly := true }
  else if value = pairingScopeFileMetadata then .ok { scope with fileReadMetadata := true }
  else if value = pairingScopeFileRead then .ok { scope with fileReadContent := true }
  else if value = pairingScopeFileWrite then .ok { scope with fileWriteContent := true }
  else if value = pairingScopeFileMutate then .ok { scope with fileMutate := true }
  else if value = pairingScopeManageAccess then .ok { scope with manageClientAccess := true }
  else if !pairingScopeTerminal.toList.isPrefixOf value.toList then
    .error (.grant (.scopeInvalid "unknown pairing scope"))
  else
    let invalid := PairingError.grant (.scopeInvalid "terminal pairing scope is invalid")
    let encoded := String.ofList (value.toList.drop pairingScopeTerminal.length)
    match packages.decodeBase64 encoded with
    | none => .error invalid
    | some raw =>
      match String.fromUTF8? ⟨raw.toArray⟩ with
      | none => .error (.grant (.scopeInvalid "terminal ID must be valid UTF-8"))
      | some terminalID =>
        if terminalID = "" ∨ terminalID ≠ trimSpace terminalID then .error invalid
        else .ok { scope with terminalID := terminalID }

/-- The loop of `pairingScopeFromStrings`, with the text before. -/
def addPairingScopes : Scope → String → List String → Except PairingError Scope
  | scope, _, [] => .ok scope
  | scope, previous, value :: values =>
    if value = "" ∨ value ≠ trimSpace value ∨ (previous ≠ "" ∧ value ≤ previous) then
      .error (.grant (.scopeInvalid "pairing scope list is not canonical"))
    else
      match addPairingScope packages scope value with
      | .error err => .error err
      | .ok scope => addPairingScopes scope value values

def pairingScopeFromStrings (values : List String) : Except PairingError Scope :=
  match addPairingScopes packages emptyScope "" values with
  | .error err => .error err
  | .ok scope =>
    match scope.validate with
    | .error err => .error (.grant err)
    | .ok () => .ok scope

def PairingTicketClaims.normalize (claims : PairingTicketClaims) : PairingTicketClaims :=
  { claims with
    ticketID := trimSpace claims.ticketID
    issuerDeviceID := trimSpace claims.issuerDeviceID
    issuerDeviceFingerprint := trimSpace claims.issuerDeviceFingerprint
    scopeCeiling := { claims.scopeCeiling with
      terminalID := trimSpace claims.scopeCeiling.terminalID }
    nonce := trimSpace claims.nonce }

def PairingTicketClaims.validate (claims : PairingTicketClaims) : Except PairingError Unit :=
  if claims.version ≠ pairingTicketVersion ∨ claims.ticketID = "" ∨ claims.issuerDeviceID = "" ∨
      claims.issuerDeviceFingerprint = "" ∨ claims.nonce = "" then
    .error (.malformed "incomplete claims")
  else if claims.maxRedemptions ≠ 1 ∨ claims.grantLifetimeSeconds < 0 ∨
      maxPairingGrantTTL / second < claims.grantLifetimeSeconds then
    .error (.malformed "ticket must allow exactly one bounded redemption")
  else
    match claims.scopeCeiling.validate with
    | .error err => .error (.grant err)
    | .ok () =>
      if claims.issuedAt = 0 ∨ claims.notBefore = 0 ∨ claims.expiresAt = 0 ∨
          claims.notBefore < claims.issuedAt ∨ ¬ claims.notBefore < claims.expiresAt ∨
          maxPairingTicketTTL < claims.expiresAt - claims.issuedAt then
        .error (.malformed "invalid time window")
      else .ok ()

/-- `validatePairingTicketTime` at a time that is known. -/
def validatePairingTicketTime (claims : PairingTicketClaims) (now : Time) :
    Except PairingError Unit :=
  if now + clockSkewTolerance < claims.notBefore ∨
      ¬ now - clockSkewTolerance < claims.expiresAt then .error .expired
  else .ok ()

def pairingTicketClaimsFromBundle (bundle : PairingBundle) :
    Except PairingError PairingTicketClaims :=
  match bundle.identity, bundle.pairingTicket with
  | some identity, some ticket =>
    match pairingScopeFromStrings packages ticket.scopeCeiling with
    | .error err => .error err
    | .ok scope =>
      let claims := PairingTicketClaims.normalize {
        version := pairingTicketVersion
        ticketID := ticket.ticketID
        issuerDeviceID := identity.deviceID
        issuerDeviceFingerprint := identity.deviceFingerprint
        scopeCeiling := scope
        issuedAt := ofUnixNano ticket.issuedAtUnixNano
        notBefore := ofUnixNano ticket.issuedAtUnixNano
        expiresAt := ofUnixNano ticket.expiresAtUnixNano
        grantLifetimeSeconds := ticket.grantLifetimeSeconds
        nonce := packages.encodeBase64 ticket.nonce
        maxRedemptions := ticket.maxRedemptions }
      match claims.validate with
      | .error err => .error err
      | .ok () => .ok claims
  | _, _ => .error (.malformed "bootstrap does not contain a pairing ticket")

def parsePairingBundleForExchange (payload : Bytes) :
    Except PairingError (PairingBundle × PairingTicketClaims) :=
  match packages.parseEndpointBootstrapBundle payload with
  | .error err => .error (.malformed err)
  | .ok bundle =>
    match pairingTicketClaimsFromBundle packages bundle with
    | .error err => .error err
    | .ok claims => .ok (bundle, claims)

def pairingBundleHasManagedRoute (bundle : PairingBundle) : Bool :=
  bundle.routes.any (·.managedWebrtc)

/-! ### Issuing -/

structure PairingIssueOptions where
  label : String
  accessLabel : String
  platform : String
  scope : Scope
  ticketTTL : Int
  grantLifetime : Int
  now : Time
  routes : List RouteConfig

/-- Eighteen bytes of a random source. -/
abbrev RandomBytes := { bytes : Bytes // bytes.length = 18 }

/-- What a call reads from its random source. -/
structure PairingRandom where
  ticketID : Except String RandomBytes
  bundleID : Except String RandomBytes
  nonce : Except String RandomBytes

def randomIdentifier (raw : Except String RandomBytes) (start : String) : Except String String :=
  match raw with
  | .error err => .error err
  | .ok bytes => .ok (start ++ packages.encodeBase64 bytes)

/-- The checks of `issuePairingBundle` before it draws anything: the label and the lifetimes. -/
def checkPairingIssue (identity : Identity) (options : PairingIssueOptions) :
    Except PairingError String := do
  identity.validate packages
  (options.scope.validate).mapError .grant
  let label ← normalizePairingLabel options.label "pairing bundle label"
  let _ ← normalizePairingLabel options.accessLabel "pairing access label"
  let ticketTTL := if options.ticketTTL = 0 then defaultPairingTicketTTL else options.ticketTTL
  if ticketTTL ≤ 0 ∨ maxPairingTicketTTL < ticketTTL ∨ options.grantLifetime < 0 ∨
      maxPairingGrantTTL < options.grantLifetime then
    .error (.failed ("pairing ticket lifetime must be at most seven days and grant lifetime must " ++
      "be zero or at most one year"))
  else .ok label

/-- `issuePairingBundle` at `options.now`, which its callers have set. -/
def issuePairingBundle (identity : Identity) (options : PairingIssueOptions)
    (random : PairingRandom) : Except PairingError (PairingBundle × PairingTicketClaims) := do
  let label ← checkPairingIssue packages identity options
  let ticketTTL := if options.ticketTTL = 0 then defaultPairingTicketTTL else options.ticketTTL
  let ticketID ← (randomIdentifier packages random.ticketID "ticket-").mapError fun err =>
    .failed ("generate pairing ticket id: " ++ err)
  let bundleID ← (randomIdentifier packages random.bundleID "bundle-").mapError fun err =>
    .failed ("generate pairing bundle id: " ++ err)
  let nonce ← random.nonce.mapError fun err =>
    .failed ("generate pairing ticket nonce: " ++ err)
  let scopeCeiling ← pairingScopeStrings packages options.scope
  let wireIdentity : EndpointDaemonIdentity :=
    ⟨identity.deviceID, identity.publicKey, identity.fingerprint⟩
  let ticket : PairingTicketDescriptor := {
    ticketID := ticketID
    scopeCeiling := scopeCeiling
    issuedAtUnixNano := unixNano options.now
    expiresAtUnixNano := unixNano (options.now + ticketTTL)
    nonce := nonce
    maxRedemptions := 1
    grantLifetimeSeconds := options.grantLifetime / second
    signature := [] }
  let ticketBytes ← (packages.ticketSigningBytes wireIdentity ticket).mapError fun err =>
    .failed ("build pairing ticket signature input: " ++ err)
  let ticket := { ticket with signature := packages.sign identity.privateKey ticketBytes }
  let bundle : PairingBundle := {
    schemaVersion := pairingBundleVersion
    bundleID := bundleID
    identity := some wireIdentity
    suggestedLabel := label
    platform := packages.toLower (trimSpace options.platform)
    routes := options.routes
    pairingTicket := some ticket
    issuedAtUnixNano := unixNano options.now
    expiresAtUnixNano := ticket.expiresAtUnixNano
    bundleSignature := [] }
  let bundleBytes ← (packages.bundleSigningBytes bundle).mapError fun err =>
    .failed ("build pairing bundle signature input: " ++ err)
  let bundle := { bundle with bundleSignature := packages.sign identity.privateKey bundleBytes }
  let claims ← pairingTicketClaimsFromBundle packages bundle
  return (bundle, claims)

end Anytty.RemoteAuth
