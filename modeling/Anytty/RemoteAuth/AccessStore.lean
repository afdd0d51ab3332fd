import Anytty.RemoteAuth.Pairing

/-!
# The client access store

The daemon's `AccessStore`: pairing tickets, client grants and the revision of their
projection, kept in memory and in one signed state file, with an index of the grants of
each client key and a channel of change notifications. A mutation works on the maps, writes
the file, and restores the maps if the file was not published. What a call reads from
outside is an argument: the clock, the random source, the managed route issuer and the
outcome of `writeFile`. `Daemon` is a store with its state file.
-/

namespace Anytty.RemoteAuth

open Anytty.Connection (trimSpace)
open Anytty.Data

def defaultDeliveryGrace : Int := 24 * hour
def expiredTicketRetention : Int := 24 * hour
def expiredGrantRecordRetention : Int := 30 * 24 * hour

structure StoredPairingTicket where
  claims : PairingTicketClaims
  ticketDigest : String
  subjectKeyFingerprint : String := ""
  clientLabel : String := ""
  grantID : String := ""
  resultGrantDigest : String := ""
  deliveryReceiptDigest : String := ""
  redeemedAt : Time := 0
  deliveryGraceUntil : Time := 0
  cloudRouteGrantDigest : String := ""
  cloudEdgeLocatorDigest : String := ""
  accessLabel : String
deriving DecidableEq

structure StoredAccessGrant where
  claims : Claims
  clientLabel : String
  revokedAt : Time := 0
  cloudRouteGrant : Bytes
  cloudEdgeLocator : Bytes
  accessLabel : String
deriving DecidableEq

/-- What the state file holds. Its version, issuer and signature are those of the daemon. -/
structure AccessState where
  tickets : SortedMap String StoredPairingTicket
  grants : SortedMap String StoredAccessGrant
  accessProjectionRevision : Nat
deriving DecidableEq

/-- The ids of the grants of each subject. -/
abbrev ClientGrants := SortedMap String (SortedMap String Unit)

structure AccessStore extends AccessState where
  clientGrants : ClientGrants
  closed : Bool
  /-- The channel of change notifications, of capacity one, holds a value. -/
  changes : Bool
deriving DecidableEq

structure PairingExchangeResult where
  ticketID : String
  grant : String
  grantID : String
  deliveryReceipt : String
  subjectKeyFingerprint : String
  scope : Scope
  expiresAt : Time
  cloudRouteGrant : Bytes
  cloudEdgeLocator : Bytes
deriving DecidableEq

structure ClientAccessRecord where
  grantID : String
  revocationID : String
  subjectKeyFingerprint : String
  accessLabel : String
  clientLabel : String
  scope : Scope
  issuedAt : Time
  expiresAt : Time
  revokedAt : Time
deriving DecidableEq

def clientAccessRecordFromStored (record : StoredAccessGrant) : ClientAccessRecord where
  grantID := record.claims.grantID
  revocationID := record.claims.revocationID
  subjectKeyFingerprint := record.claims.subjectKeyFingerprint
  accessLabel := record.accessLabel
  clientLabel := record.clientLabel
  scope := record.claims.scope
  issuedAt := record.claims.issuedAt
  expiresAt := record.claims.expiresAt
  revokedAt := record.revokedAt

/-! ### The index and compaction -/

def indexGrant (index : ClientGrants) (subject grantID : String) : ClientGrants :=
  index.insert subject (((index.lookup subject).getD .empty).insert grantID ())

def rebuildClientGrantIndex (grants : SortedMap String StoredAccessGrant) : ClientGrants :=
  grants.entries.foldl
    (fun index entry => indexGrant index entry.2.claims.subjectKeyFingerprint entry.1) .empty

/-- A ticket that `compactLocked` deletes. -/
def StoredPairingTicket.stale (now : Time) (record : StoredPairingTicket) : Bool :=
  if record.grantID = "" then record.claims.expiresAt + expiredTicketRetention ≤ now
  else record.deliveryGraceUntil ≠ 0 && record.deliveryGraceUntil ≤ now

/-- A grant that `compactLocked` deletes. -/
def StoredAccessGrant.stale (now : Time) (record : StoredAccessGrant) : Bool :=
  record.claims.expiresAt ≠ 0 && record.claims.expiresAt + expiredGrantRecordRetention ≤ now

namespace AccessStore

variable (store : AccessStore)

/-- Whether `compactLocked` deletes a grant. -/
def compacts (now : Time) : Bool := store.grants.entries.any (·.2.stale now)

def compactLocked (now : Time) : AccessStore :=
  let grants := store.grants.filter (!·.stale now)
  { store with
    tickets := store.tickets.filter (!·.stale now)
    grants := grants
    clientGrants := if store.compacts now then rebuildClientGrantIndex grants
      else store.clientGrants }

def notifyAccessChangedLocked : AccessStore := { store with changes := true }

/-- The maps after a ticket is added. -/
def addTicket (now : Time) (ticketID : String) (record : StoredPairingTicket) : AccessStore :=
  let compacted := store.compactLocked now
  { compacted with
    tickets := compacted.tickets.insert ticketID record
    accessProjectionRevision := store.accessProjectionRevision + (store.compacts now).toNat }

/-- The maps after a grant is revoked. The record is put back after the compaction, and is not
indexed again. -/
def revokeRecord (now : Time) (grantID : String) (record : StoredAccessGrant) : AccessStore :=
  let compacted := store.compactLocked now
  { compacted with
    grants := compacted.grants.insert grantID { record with revokedAt := now }
    accessProjectionRevision := store.accessProjectionRevision + 1 }

/-! ### Queries -/

def revoked (revocationID : String) : Bool :=
  store.closed || match store.grants.lookup (trimSpace revocationID) with
    | none => true
    | some record => record.revokedAt ≠ 0

def listClientAccess : List ClientAccessRecord :=
  if store.closed then []
  else (store.grants.entries.map fun entry => clientAccessRecordFromStored entry.2).insertionSort
    fun a b => a.grantID ≤ b.grantID

/-- The test of one grant in `AllowsClientPublicKey`. -/
def admits (now : Time) (grantID : String) : Bool :=
  (store.grants.lookup grantID).any fun record => record.revokedAt = 0 &&
    record.claims.notBefore < now + clockSkewTolerance &&
    grantUnexpiredAt record.claims.expiresAt (now - clockSkewTolerance)

def allowsClientPublicKey (packages : Packages) (publicKey : Bytes) (given clock : Time) : Bool :=
  let now := if given = 0 then clock else given
  publicKey.length = publicKeySize && !store.closed &&
    ((store.clientGrants.lookup (fingerprint packages publicKey)).getD .empty).entries.any
      fun entry => store.admits now entry.1

def grantActive (grantID : String) (expiresAt given clock : Time) : Bool :=
  let grantID := trimSpace grantID
  let now := if given = 0 then clock else given
  grantID ≠ "" && !store.closed && (store.grants.lookup grantID).any fun record =>
    record.revokedAt = 0 && record.claims.grantID = grantID &&
      record.claims.expiresAt = expiresAt && grantUnexpiredAt record.claims.expiresAt now

end AccessStore

/-! ### Writing the state file -/

/-- The outcome of `writeFile`. -/
inductive Write
  | published
  /-- The file is installed, and the call fails afterwards. -/
  | publishedWith (err : String)
  | failed (err : String)
deriving DecidableEq

structure Daemon where
  store : AccessStore
  /-- The last state file that was published. -/
  file : Option AccessState
deriving DecidableEq

/-- `persistLocked` with what its callers do around it: the error, if any, and the daemon. -/
def Daemon.persist (daemon : Daemon) (updated restored : AccessStore) (notify : Bool) :
    Write → Option String × Daemon
  | .published =>
    (none, ⟨if notify then updated.notifyAccessChangedLocked else updated,
      some updated.toAccessState⟩)
  | .publishedWith err =>
    (some ("persist client access store: " ++ err), ⟨updated, some updated.toAccessState⟩)
  | .failed err => (some ("persist client access store: " ++ err), ⟨restored, daemon.file⟩)

/-- What a caller of `persistLocked` returns. -/
def reportPersist {α : Type} (outcome : Option String × Daemon) (value : α) :
    Except PairingError α × Daemon :=
  match outcome.1 with
  | some err => (.error (.failed err), outcome.2)
  | none => (.ok value, outcome.2)

variable (packages : PairingPackages) (identity : Identity)

def payloadDigest (payload : Bytes) : String := packages.encodeBase64 (packages.sha256 payload)

def pairingDeliveryReceipt (ticketID subject grantID : String) : String :=
  let message := "anytty.remoteauth.pairing-receipt.v1" ++ "\x00" ++ ticketID ++ "\x00" ++ subject ++
    "\x00" ++ grantID
  "anytty-pairing-receipt-v1" ++ "." ++
    packages.encodeBase64 (packages.sign identity.privateKey (packages.sha256 (textBytes message)))

/-! ### Issuing tickets -/

namespace Daemon

def persistPairingBundleLocked (daemon : Daemon) (payload : Bytes) (claims : PairingTicketClaims)
    (accessLabel : String) (now : Time) (write : Write) : Except PairingError Unit × Daemon :=
  match normalizePairingLabel accessLabel "pairing access label" with
  | .error err => (.error err, daemon)
  | .ok accessLabel =>
    let store := daemon.store
    if (store.tickets.lookup claims.ticketID).isSome then
      (.error (.failed "pairing ticket id collision"), daemon)
    else
      let updated := store.addTicket now claims.ticketID
        { claims, ticketDigest := payloadDigest packages payload, accessLabel }
      -- The maps are restored, the index is not.
      let restored := { updated with toAccessState := store.toAccessState }
      reportPersist (daemon.persist updated restored (store.compacts now) write) ()

/-- The first half of `IssuePairingBundle`: the bundle, its bytes and its claims. -/
def preparePairingBundle (store : AccessStore) (options : PairingIssueOptions)
    (random : PairingRandom) : Except PairingError (PairingBundle × Bytes × PairingTicketClaims) :=
  if store.closed then .error (.failed "client access store is closed")
  else
    match issuePairingBundle packages identity options random with
    | .error err => .error err
    | .ok (bundle, claims) =>
      match packages.encodePairingBundle bundle with
      | .error err => .error (.failed err)
      | .ok payload => .ok (bundle, payload, claims)

/-- `options.Now` is the clock if it is not given. -/
def withClock (options : PairingIssueOptions) (clock : Time) : PairingIssueOptions :=
  { options with now := if options.now = 0 then clock else options.now }

def issuePairingBundle (daemon : Daemon) (options : PairingIssueOptions) (clock : Time)
    (random : PairingRandom) (write : Write) :
    Except PairingError (PairingBundle × PairingTicketClaims) × Daemon :=
  let options := withClock options clock
  match preparePairingBundle packages identity daemon.store options random with
  | .error err => (.error err, daemon)
  | .ok (bundle, payload, claims) =>
    match daemon.persistPairingBundleLocked packages payload claims options.accessLabel
        options.now write with
    | (.error err, daemon) => (.error err, daemon)
    | (.ok (), daemon) => (.ok (bundle, claims), daemon)

end Daemon

/-! ### Redeeming tickets -/

/-- What a redemption reads from its random source. The last is read by `Issue` for claims without
a nonce. -/
structure RedeemRandom where
  grantID : Except String RandomBytes
  nonce : Except String RandomBytes
  entropy : Except String Bytes

/-- A call of `redeemPairingBundle`. Its time is set. -/
structure RedeemRequest where
  payload : Bytes
  clientPublicKey : Bytes
  clientLabel : String
  now : Time
  random : RedeemRandom
  /-- What the managed route issuer returns, if there is one. -/
  managed : Option (Except String (Bytes × Bytes))

/-- What a redemption that passed its checks does. -/
inductive Redemption
  /-- The ticket is redeemed already: return the stored result. -/
  | repeated (result : PairingExchangeResult)
  /-- Store a grant and bind the ticket to it. -/
  | bind (ticket : StoredPairingTicket) (grant : StoredAccessGrant)
      (result : PairingExchangeResult)

namespace AccessStore

variable (store : AccessStore)

def pairingResultFromStored (ticket : StoredPairingTicket) (entropy : Except String Bytes) :
    Except PairingError PairingExchangeResult :=
  match store.grants.lookup ticket.grantID with
  | none => .error (.failed "stored pairing grant is missing")
  | some grant =>
    match issue packages.toPackages identity.privateKey grant.claims entropy with
    | .error _ => .error (.failed "stored pairing grant cannot be reconstructed")
    | .ok boundGrant =>
      let receipt := pairingDeliveryReceipt packages identity ticket.claims.ticketID
        ticket.subjectKeyFingerprint ticket.grantID
      if payloadDigest packages (textBytes boundGrant) ≠ ticket.resultGrantDigest then
        .error (.failed "stored pairing grant digest mismatch")
      else if payloadDigest packages (textBytes receipt) ≠ ticket.deliveryReceiptDigest then
        .error (.failed "stored pairing receipt digest mismatch")
      else if ticket.cloudRouteGrantDigest ≠ "" ∧
          payloadDigest packages grant.cloudRouteGrant ≠ ticket.cloudRouteGrantDigest then
        .error (.failed "stored managed Route grant digest mismatch")
      else if ticket.cloudEdgeLocatorDigest ≠ "" ∧
          payloadDigest packages grant.cloudEdgeLocator ≠ ticket.cloudEdgeLocatorDigest then
        .error (.failed "stored managed Edge locator digest mismatch")
      else .ok {
        ticketID := ticket.claims.ticketID
        grant := boundGrant
        grantID := ticket.grantID
        deliveryReceipt := receipt
        subjectKeyFingerprint := ticket.subjectKeyFingerprint
        scope := grant.claims.scope
        expiresAt := grant.claims.expiresAt
        cloudRouteGrant := grant.cloudRouteGrant
        cloudEdgeLocator := grant.cloudEdgeLocator }

/-- The claims of the grant that a redemption signs. -/
def boundClaims (claims : PairingTicketClaims) (subject : String) (now : Time)
    (grantID nonce : String) : Claims :=
  Claims.normalize {
    version := 2
    grantID := grantID
    issuerDeviceID := identity.deviceID
    issuerDeviceFingerprint := identity.fingerprint
    subjectKeyFingerprint := subject
    scope := claims.scopeCeiling
    issuedAt := now
    notBefore := now - clockSkewTolerance
    expiresAt := grantExpiryForLifetime now (claims.grantLifetimeSeconds * second)
    revocationID := grantID
    nonce := nonce }

/-- The managed route material of a redemption. -/
def managedRoute (bundle : PairingBundle) (managed : Option (Except String (Bytes × Bytes))) :
    Except PairingError (Bytes × Bytes) :=
  if !pairingBundleHasManagedRoute bundle then .ok ([], [])
  else
    match managed with
    | none => .error (.failed "managed Route grant issuer is unavailable")
    | some (.error err) => .error (.failed ("issue managed Route grant: " ++ err))
    | some (.ok (route, locator)) =>
      if route.isEmpty || locator.isEmpty then
        .error (.failed "managed Route grant issuer returned incomplete route material")
      else .ok (route, locator)

/-- The ticket record of a redemption. -/
def redeemedTicket (record : StoredPairingTicket) (subject clientLabel grantID boundGrant
    receipt : String) (now : Time) (route : Bytes × Bytes) : StoredPairingTicket :=
  { record with
    subjectKeyFingerprint := subject
    clientLabel := clientLabel
    grantID := grantID
    resultGrantDigest := payloadDigest packages (textBytes boundGrant)
    deliveryReceiptDigest := payloadDigest packages (textBytes receipt)
    redeemedAt := now
    deliveryGraceUntil := now + defaultDeliveryGrace
    cloudRouteGrantDigest := if route.1.isEmpty then record.cloudRouteGrantDigest
      else payloadDigest packages route.1
    cloudEdgeLocatorDigest := if route.1.isEmpty then record.cloudEdgeLocatorDigest
      else payloadDigest packages route.2 }

/-- The part of `redeemPairingBundle` for a ticket that is not redeemed yet. -/
def planBinding (bundle : PairingBundle) (claims : PairingTicketClaims)
    (record : StoredPairingTicket) (clientLabel subject : String) (request : RedeemRequest) :
    Except PairingError Redemption :=
  match validatePairingTicketTime claims request.now with
  | .error err => .error err
  | .ok () =>
  match randomIdentifier packages request.random.grantID "grant-" with
  | .error err => .error (.failed ("generate bound grant id: " ++ err))
  | .ok grantID =>
  if (store.grants.lookup grantID).isSome then .error (.failed "bound grant id collision")
  else
  match randomIdentifier packages request.random.nonce "" with
  | .error err => .error (.failed ("generate bound grant nonce: " ++ err))
  | .ok nonce =>
  let grantClaims := boundClaims identity claims subject request.now grantID nonce
  match issue packages.toPackages identity.privateKey grantClaims request.random.entropy with
  | .error err => .error (.grant err)
  | .ok boundGrant =>
  let receipt := pairingDeliveryReceipt packages identity claims.ticketID subject grantID
  match managedRoute bundle request.managed with
  | .error err => .error err
  | .ok route =>
    .ok (.bind
      (redeemedTicket packages record subject clientLabel grantID boundGrant receipt request.now
        route)
      { claims := grantClaims, clientLabel, cloudRouteGrant := route.1,
        cloudEdgeLocator := route.2, accessLabel := record.accessLabel }
      { ticketID := claims.ticketID
        grant := boundGrant
        grantID := grantID
        deliveryReceipt := receipt
        subjectKeyFingerprint := subject
        scope := grantClaims.scope
        expiresAt := grantClaims.expiresAt
        cloudRouteGrant := route.1
        cloudEdgeLocator := route.2 })

/-- `redeemPairingBundle` up to its first change. -/
def planRedemption (request : RedeemRequest) : Except PairingError Redemption :=
  if request.clientPublicKey.length ≠ publicKeySize then
    .error (.malformed "client public key is invalid")
  else
  match normalizePairingLabel request.clientLabel "pairing client label" with
  | .error err => .error err
  | .ok clientLabel =>
  match parsePairingBundleForExchange packages request.payload with
  | .error err => .error err
  | .ok (bundle, claims) =>
  if claims.issuerDeviceID ≠ identity.deviceID ∨
      bundle.identity.map (·.deviceFingerprint) ≠ some identity.fingerprint then
    .error (.grant .fingerprintMismatch)
  else
  match packages.encodePairingBundle bundle with
  | .error err => .error (.failed err)
  | .ok canonicalPayload =>
  let subject := fingerprint packages.toPackages request.clientPublicKey
  if store.closed then .error (.failed "client access store is closed")
  else
  match store.tickets.lookup claims.ticketID with
  | none => .error (.malformed "")
  | some record =>
  if record.ticketDigest ≠ payloadDigest packages canonicalPayload then .error (.malformed "")
  else if record.grantID ≠ "" then
    if record.subjectKeyFingerprint ≠ subject then .error .consumed
    else if record.deliveryGraceUntil = 0 ∨ ¬ request.now < record.deliveryGraceUntil then
      .error .consumed
    else
      match store.pairingResultFromStored packages identity record request.random.entropy with
      | .error err => .error err
      | .ok result => .ok (.repeated result)
  else store.planBinding packages identity bundle claims record clientLabel subject request

/-- The maps after a redemption. -/
def bindTicket (now : Time) (ticket : StoredPairingTicket) (grant : StoredAccessGrant)
    (result : PairingExchangeResult) : AccessStore :=
  let compacted := store.compactLocked now
  { compacted with
    tickets := compacted.tickets.insert result.ticketID ticket
    grants := compacted.grants.insert result.grantID grant
    clientGrants := indexGrant compacted.clientGrants result.subjectKeyFingerprint result.grantID
    accessProjectionRevision := store.accessProjectionRevision + 1 }

end AccessStore

namespace Daemon

def redeemPairingBundle (daemon : Daemon) (request : RedeemRequest) (write : Write) :
    Except PairingError PairingExchangeResult × Daemon :=
  match daemon.store.planRedemption packages identity request with
  | .error err => (.error err, daemon)
  | .ok (.repeated result) => (.ok result, daemon)
  | .ok (.bind ticket grant result) =>
    let updated := daemon.store.bindTicket request.now ticket grant result
    let restored := { updated with
      toAccessState := daemon.store.toAccessState
      clientGrants := rebuildClientGrantIndex daemon.store.grants }
    reportPersist (daemon.persist updated restored true write) result

/-- `RevokeGrant`; `now` is the clock of the store. -/
def revokeGrant (daemon : Daemon) (grantID : String) (now : Time) (write : Write) :
    Except PairingError ClientAccessRecord × Daemon :=
  let grantID := trimSpace grantID
  let store := daemon.store
  if grantID = "" then (.error (.failed "client access revoke requires grant_id"), daemon)
  else if store.closed then (.error (.failed "client access store is closed"), daemon)
  else
    match store.grants.lookup grantID with
    | none => (.error (.failed "client access grant not found"), daemon)
    | some record =>
      if record.revokedAt ≠ 0 then (.ok (clientAccessRecordFromStored record), daemon)
      else
        let updated := store.revokeRecord now grantID record
        -- Again the index is not restored.
        let restored := { updated with toAccessState := store.toAccessState }
        reportPersist (daemon.persist updated restored true write)
          (clientAccessRecordFromStored { record with revokedAt := now })

end Daemon

/-! ### Loading -/

/-- `validPayloadDigest`. -/
def validPayloadDigest (value : String) : Bool :=
  (packages.decodeBase64 (trimSpace value)).any fun decoded => decoded.length = 32

namespace AccessStore

variable (store : AccessStore)

def validateTicketRecord (entropy : Except String Bytes)
    (entry : String × StoredPairingTicket) : Bool :=
  let record := entry.2
  let claims := record.claims.normalize
  entry.1 = claims.ticketID && claims.issuerDeviceID = identity.deviceID &&
    claims.issuerDeviceFingerprint = identity.fingerprint &&
    claims.validate.isOk && validPayloadDigest packages record.ticketDigest &&
    if record.grantID = "" then
      record.subjectKeyFingerprint = "" && record.clientLabel = "" &&
        record.resultGrantDigest = "" && record.deliveryReceiptDigest = "" &&
        record.cloudRouteGrantDigest = "" && record.cloudEdgeLocatorDigest = "" &&
        record.redeemedAt = 0 && record.deliveryGraceUntil = 0
    else
      match store.grants.lookup record.grantID with
      | none => false
      | some grant =>
        grant.claims.grantID = record.grantID &&
          grant.claims.subjectKeyFingerprint = record.subjectKeyFingerprint &&
          grant.clientLabel = record.clientLabel && grant.accessLabel = record.accessLabel &&
          record.redeemedAt = grant.claims.issuedAt &&
          record.redeemedAt < record.deliveryGraceUntil &&
          validPayloadDigest packages record.resultGrantDigest &&
          validPayloadDigest packages record.deliveryReceiptDigest &&
          ((grant.cloudRouteGrant.isEmpty && grant.cloudEdgeLocator.isEmpty &&
              record.cloudRouteGrantDigest = "" && record.cloudEdgeLocatorDigest = "") ||
            (!grant.cloudRouteGrant.isEmpty && !grant.cloudEdgeLocator.isEmpty &&
              validPayloadDigest packages record.cloudRouteGrantDigest &&
              validPayloadDigest packages record.cloudEdgeLocatorDigest)) &&
          match store.pairingResultFromStored packages identity record entropy with
          | .error _ => false
          | .ok result => result.scope = claims.scopeCeiling

def validateGrantRecord (log : List Signature) (entropy : Except String Bytes)
    (entry : String × StoredAccessGrant) : Bool :=
  let claims := entry.2.claims.normalize
  entry.1 = claims.grantID && claims.revocationID = entry.1 &&
    claims.issuerDeviceID = identity.deviceID &&
    claims.issuerDeviceFingerprint = identity.fingerprint && claims.validate.isOk &&
    match issue packages.toPackages identity.privateKey claims entropy with
    | .error _ => false
    | .ok grant =>
      match verifyGrantEnvelope packages.toPackages log grant identity.fingerprint with
      | .error _ => false
      | .ok parsed => parsed = claims

def validateLoadedState (log : List Signature) (entropy : Except String Bytes) : Bool :=
  !(store.accessProjectionRevision = 0 && !store.grants.entries.isEmpty) &&
    store.tickets.entries.all (store.validateTicketRecord packages identity entropy) &&
    store.grants.entries.all (validateGrantRecord packages identity log entropy)

end AccessStore

def emptyAccessState : AccessState := ⟨.empty, .empty, 0⟩

/-- `LoadAccessStore` on the last state file; none if it refuses the file. -/
def loadAccessStore (log : List Signature) (entropy : Except String Bytes)
    (file : Option AccessState) : Option AccessStore :=
  let state := file.getD emptyAccessState
  let store : AccessStore := { state with
    clientGrants := rebuildClientGrantIndex state.grants, closed := false, changes := false }
  if file.isNone || store.validateLoadedState packages identity log entropy then some store
  else none

end Anytty.RemoteAuth
