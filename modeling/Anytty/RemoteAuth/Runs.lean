import Anytty.RemoteAuth.AccessStore

/-!
# Pairing claims and runs of the access store

A pairing claim is a short secret for a bundle that the daemon keeps in memory, under a lock
of its own. `IssuePairingClaim` and `RedeemPairingClaim` go back and forth between the claim
table and the store, so other calls come in between. `perform` is one region under one lock
of one call; what the call reads from outside is part of the event. A `World` has the daemon,
the claim table and the calls in progress, and the history that the properties are about.
-/

namespace Anytty.RemoteAuth

open Anytty.Connection (trimSpace)
open Function
open Anytty.Data

structure StoredPairingClaim where
  bundlePayload : Bytes
  expiresAt : Time
  subjectKeyFingerprint : String

abbrev PairingClaims := Bytes → Option StoredPairingClaim

structure PairingClaimOffer where
  claim : Bytes
  deviceID : String
  devicePublicKey : Bytes

/-- The encoding of claim offers. -/
structure ClaimPackages extends PairingPackages where
  /-- The offer of a bundle with its route seeds, given what the managed bootstrap issuer
  returns. -/
  encodePairingClaimOffer : PairingClaimOffer → PairingBundle → Option (Except String Bytes) →
    Except PairingError Bytes
  parsePairingClaimOfferForExchange : Bytes → Except PairingError PairingClaimOffer

variable (packages : ClaimPackages) (identity : Identity)

/-! ### The claim table -/

def compactPairingClaims (claims : PairingClaims) (now : Time) : PairingClaims := fun digest =>
  (claims digest).filter fun record =>
    !(record.expiresAt ≠ 0 && record.expiresAt + defaultDeliveryGrace < now)

/-- `ResolvePairingClaimForExchange` for an offer that was parsed, under the lock. -/
def resolvePairingClaim (claims : PairingClaims) (digest : Bytes) (subject : String) (now : Time) :
    Except PairingError Bytes :=
  match claims digest with
  | none => .error .claimUnavailable
  | some record =>
    if record.bundlePayload.isEmpty then .error .claimUnavailable
    else if record.subjectKeyFingerprint ≠ "" ∧ record.subjectKeyFingerprint ≠ subject then
      .error .consumed
    else if record.expiresAt < now ∧ record.subjectKeyFingerprint = "" then .error .expired
    else .ok record.bundlePayload

/-- The checks of `ResolvePairingClaimForExchange` before the lock: the digest of the claim. -/
def pairingClaimDigest (offerPayload clientPublicKey : Bytes) : Except PairingError Bytes :=
  if clientPublicKey.length ≠ publicKeySize then .error .claimMalformed
  else
    match packages.parsePairingClaimOfferForExchange offerPayload with
    | .error err => .error err
    | .ok offer =>
      if offer.deviceID ≠ identity.deviceID ∨ offer.devicePublicKey ≠ identity.publicKey then
        .error .claimUnavailable
      else .ok (packages.sha256 offer.claim)

/-- The end of `redeemPairingClaim`: the claim stays with the client. -/
def bindPairingClaim (claims : PairingClaims) (digest : Bytes) (subject : String) : PairingClaims :=
  let record := (claims digest).getD ⟨[], 0, ""⟩
  update claims digest (some { record with subjectKeyFingerprint := subject })

/-! ### Worlds -/

/-- A call that has left one lock and not yet taken the next. -/
inductive Call
  /-- `IssuePairingClaim` has reserved its claim. -/
  | reserved (claim : Bytes)
  /-- It has stored its ticket. -/
  | issued (digest payload : Bytes) (expiresAt : Time)
  /-- It has failed and gives its claim back. -/
  | abandoned (digest : Bytes)
  /-- `redeemPairingClaim` has the bundle of its claim. -/
  | resolved (digest payload clientPublicKey : Bytes) (clientLabel : String) (now : Time)
  /-- It has redeemed the bundle. -/
  | redeemed (digest : Bytes) (subject : String)

structure World where
  daemon : Daemon
  claims : PairingClaims
  calls : Nat → Option Call
  /-- The signatures made so far. -/
  log : List Signature
  /-- The ids of the tickets and grants that were drawn. -/
  ticketIDs : List String
  grantIDs : List String
  /-- The results of the redemptions whose grant was written to a published state file. -/
  bindings : List PairingExchangeResult
  /-- The successful redemptions, with the client's key. -/
  redemptions : List (Bytes × PairingExchangeResult)

/-- One region under one lock, with what it reads from outside. -/
inductive Event
  | issueBundle (options : PairingIssueOptions) (clock : Time) (random : PairingRandom)
      (write : Write)
  | reserveClaim (call : Nat) (claim : Bytes)
  | issueClaim (call : Nat) (options : PairingIssueOptions) (clock : Time)
      (random : PairingRandom) (bootstrap : Option (Except String Bytes)) (write : Write)
  | commitClaim (call : Nat)
  | releaseClaim (call : Nat)
  | redeemBundle (request : RedeemRequest) (write : Write)
  | resolveClaim (call : Nat) (offerPayload clientPublicKey : Bytes) (clientLabel : String)
      (now : Time)
  | redeemClaim (call : Nat) (random : RedeemRandom)
      (managed : Option (Except String (Bytes × Bytes))) (write : Write)
  | bindClaim (call : Nat)
  | revoke (grantID : String) (now : Time) (write : Write)
  /-- A reader of `AccessChanges` takes the notification. -/
  | receiveChange
  /-- Somebody signs something else than a grant. -/
  | sign (signature : Signature)
  | restart (entropy : Except String Bytes)

/-- The signature of the grant with these claims. -/
def grantSignature (payload : Bytes) : Signature :=
  let message := textBytes (grantSigningInput packages.toPackages
    (packages.publicKey identity.privateKey) payload)
  ⟨packages.publicKey identity.privateKey, message, packages.sign identity.privateKey message⟩

/-- The grant that a redemption signs, before it asks the managed route issuer. -/
def signedGrants (store : AccessStore) (request : RedeemRequest) : List Signature :=
  match store.planRedemption packages.toPairingPackages identity
      { request with managed := some (.ok ([0], [0])) } with
  | .ok (.bind _ grant _) =>
    match issueClaims packages.toPackages identity.privateKey grant.claims request.random.entropy with
    | .error _ => []
    | .ok claims =>
      (packages.marshalClaims claims).toOption.toList.map (grantSignature packages identity)
  | _ => []

namespace World

variable (world : World)

/-- The id that a redemption draws. -/
def drawnGrantID (random : RedeemRandom) : Option String :=
  (randomIdentifier packages.toPairingPackages random.grantID "grant-").toOption

/-- The id of the ticket that a call issues. -/
def drawnTicketID (options : PairingIssueOptions) (clock : Time) (random : PairingRandom) :
    Option String :=
  (Daemon.preparePairingBundle packages.toPairingPackages identity world.daemon.store
    (Daemon.withClock options clock) random).toOption.map (·.2.2.ticketID)

/-- `redeemPairingBundle` with its history. -/
def redeem (request : RedeemRequest) (write : Write) : World :=
  let plan := world.daemon.store.planRedemption packages.toPairingPackages identity request
  let outcome := world.daemon.redeemPairingBundle packages.toPairingPackages identity request write
  { world with
    daemon := outcome.2
    log := signedGrants packages identity world.daemon.store request ++ world.log
    grantIDs := (drawnGrantID packages request.random).toList ++ world.grantIDs
    bindings := match plan, write with
      | .ok (.bind _ _ _), .failed _ => world.bindings
      | .ok (.bind _ _ result), _ => result :: world.bindings
      | _, _ => world.bindings
    redemptions := match outcome.1 with
      | .ok result => (request.clientPublicKey, result) :: world.redemptions
      | .error _ => world.redemptions }

/-- The ticket part of `IssuePairingClaim`, under the lock of the store. -/
def issueClaim (call : Nat) (claim : Bytes) (options : PairingIssueOptions) (clock : Time)
    (random : PairingRandom) (bootstrap : Option (Except String Bytes)) (write : Write) : World :=
  let dated := Daemon.withClock options clock
  let digest := packages.sha256 claim
  let abandoned := update world.calls call (some (.abandoned digest))
  let drawn := (world.drawnTicketID packages identity options clock random).toList ++ world.ticketIDs
  match Daemon.preparePairingBundle packages.toPairingPackages identity world.daemon.store dated
      random with
  | .error _ => { world with calls := abandoned, ticketIDs := drawn }
  | .ok (bundle, payload, claims) =>
    match packages.encodePairingClaimOffer ⟨claim, identity.deviceID, identity.publicKey⟩ bundle
        bootstrap with
    | .error _ => { world with calls := abandoned, ticketIDs := drawn }
    | .ok _ =>
      match world.daemon.persistPairingBundleLocked packages.toPairingPackages payload claims
          dated.accessLabel dated.now write with
      | (.error _, daemon) => { world with daemon, calls := abandoned, ticketIDs := drawn }
      | (.ok (), daemon) => { world with
          daemon
          calls := update world.calls call (some (.issued digest payload claims.expiresAt))
          ticketIDs := drawn }

/-- One region of one call. An event that does not fit the state of its call does nothing. -/
def perform : Event → World
  | .issueBundle options clock random write =>
    let outcome := world.daemon.issuePairingBundle packages.toPairingPackages identity options clock
      random write
    { world with
      daemon := outcome.2
      ticketIDs := (world.drawnTicketID packages identity options clock random).toList ++
        world.ticketIDs }
  | .reserveClaim call claim =>
    let digest := packages.sha256 claim
    if (world.claims digest).isSome ∨ (world.calls call).isSome ∨ world.daemon.store.closed then world
    else { world with
      claims := update world.claims digest (some ⟨[], 0, ""⟩)
      calls := update world.calls call (some (.reserved claim)) }
  | .issueClaim call options clock random bootstrap write =>
    match world.calls call with
    | some (.reserved claim) =>
      if options.routes.isEmpty then { world with
        calls := update world.calls call (some (.abandoned (packages.sha256 claim))) }
      else world.issueClaim packages identity call claim options clock random bootstrap write
    | _ => world
  | .commitClaim call =>
    match world.calls call with
    | some (.issued digest payload expiresAt) => { world with
        claims := update world.claims digest (some ⟨payload, expiresAt, ""⟩)
        calls := update world.calls call none }
    | _ => world
  | .releaseClaim call =>
    match world.calls call with
    | some (.abandoned digest) => { world with
        claims := update world.claims digest none
        calls := update world.calls call none }
    | _ => world
  | .redeemBundle request write => world.redeem packages identity request write
  | .resolveClaim call offerPayload clientPublicKey clientLabel now =>
    match world.calls call, pairingClaimDigest packages identity offerPayload clientPublicKey with
    | none, .ok digest =>
      let claims := compactPairingClaims world.claims now
      let subject := fingerprint packages.toPackages clientPublicKey
      match resolvePairingClaim claims digest subject now with
      | .error _ => { world with claims }
      | .ok payload => { world with
          claims
          calls := update world.calls call
            (some (.resolved digest payload clientPublicKey clientLabel now)) }
    | _, _ => world
  | .redeemClaim call random managed write =>
    match world.calls call with
    | some (.resolved digest payload clientPublicKey clientLabel now) =>
      let request : RedeemRequest := ⟨payload, clientPublicKey, clientLabel, now, random, managed⟩
      let outcome := world.daemon.redeemPairingBundle packages.toPairingPackages identity request
        write
      { world.redeem packages identity request write with
        calls := update world.calls call (outcome.1.toOption.map fun result =>
          .redeemed digest result.subjectKeyFingerprint) }
    | _ => world
  | .bindClaim call =>
    match world.calls call with
    | some (.redeemed digest subject) => { world with
        claims := bindPairingClaim world.claims digest subject
        calls := update world.calls call none }
    | _ => world
  | .revoke grantID now write => { world with
      daemon := (world.daemon.revokeGrant grantID now write).2 }
  | .receiveChange => { world with
      daemon := { world.daemon with store := { world.daemon.store with changes := false } } }
  | .sign signature => { world with log := signature :: world.log }
  | .restart entropy =>
    match loadAccessStore packages.toPairingPackages identity world.log entropy world.daemon.file with
    | none => world
    | some store => { world with
        daemon := { world.daemon with store }
        claims := fun _ => none
        calls := fun _ => none }

end World

/-- A daemon that starts without a state file. -/
def initialWorld : World where
  daemon := ⟨⟨emptyAccessState, .empty, false, false⟩, none⟩
  claims := fun _ => none
  calls := fun _ => none
  log := []
  ticketIDs := []
  grantIDs := []
  bindings := []
  redemptions := []

/-- A step by an event that the predicate allows. -/
def AccessStep (allowed : World → Event → Prop) (world world' : World) : Prop :=
  ∃ event, allowed world event ∧ world' = world.perform packages identity event

/-- The worlds of the runs whose events the predicate allows. -/
def Reachable (allowed : World → Event → Prop) : World → Prop :=
  Relation.ReflTransGen (AccessStep packages identity allowed) initialWorld

/-! ### A sample daemon

Packages for one bundle. Keys and ids that repeat one byte have short texts. -/

/-- A letter for a byte. -/
def letter (byte : UInt8) : Char := Char.ofNat (byte.toNat + 0x100)

def unletter (c : Char) : UInt8 := UInt8.ofNat (c.toNat - 0x100)

def sampleLetters (bytes : Bytes) : List Char :=
  let first := bytes.headD 0
  if bytes = List.replicate 18 first then ['i', letter first]
  else if bytes = List.replicate 32 first then ['k', letter first]
  else 'b' :: bytes.map letter

def sampleBytes : List Char → Option Bytes
  | 'i' :: letters => letters.head?.map fun c => List.replicate 18 (unletter c)
  | 'k' :: letters => letters.head?.map fun c => List.replicate 32 (unletter c)
  | 'b' :: letters => some (letters.map unletter)
  | _ => none

def sampleBase64 (bytes : Bytes) : String := String.ofList (sampleLetters bytes)

def sampleIdentity : Identity where
  deviceID := "box"
  fingerprint := "ed25519-sha256:" ++ sampleBase64 (List.replicate 32 1)
  publicKey := List.replicate 32 1
  privateKey := List.replicate 64 1

def sampleOptions : PairingIssueOptions where
  label := ""
  accessLabel := ""
  platform := ""
  scope := { emptyScope with allowDaemon := true }
  ticketTTL := 0
  grantLifetime := 3600 * second
  now := unixEpoch + second
  routes := []

/-- The bundle that the options give with the ids 1 and 2 and the nonce 3. -/
def sampleBundle : PairingBundle where
  schemaVersion := pairingBundleVersion
  bundleID := "bundle-" ++ sampleBase64 (List.replicate 18 2)
  identity := some ⟨"box", sampleIdentity.publicKey, sampleIdentity.fingerprint⟩
  suggestedLabel := ""
  platform := ""
  routes := []
  pairingTicket := some {
    ticketID := "ticket-" ++ sampleBase64 (List.replicate 18 1)
    scopeCeiling := [pairingScopeDaemon]
    issuedAtUnixNano := second
    expiresAtUnixNano := 601 * second
    nonce := List.replicate 18 3
    maxRedemptions := 1
    grantLifetimeSeconds := 3600
    signature := [] }
  issuedAtUnixNano := second
  expiresAtUnixNano := 601 * second
  bundleSignature := []

def samplePackages (marshalClaims : Claims → Except String Bytes)
    (unmarshalClaims : Bytes → Except String Claims) : ClaimPackages where
  encodeBase64 := sampleBase64
  decodeBase64 text := sampleBytes text.toList
  marshalClaims := marshalClaims
  unmarshalClaims := unmarshalClaims
  sha256 bytes := if bytes.length = 32 then bytes else []
  publicKey privateKey := privateKey.take 32
  sign _ _ := []
  toLower := id
  ticketSigningBytes _ _ := .ok []
  bundleSigningBytes _ := .ok []
  encodePairingBundle bundle := if bundle = sampleBundle then .ok [1] else .error "unknown bundle"
  parseEndpointBootstrapBundle payload := if payload = [1] then .ok sampleBundle
    else .error "unknown payload"
  encodePairingClaimOffer _ _ _ := .ok []
  parsePairingClaimOfferForExchange _ := .error .claimMalformed

/-- Packages that do not read claims. -/
def writingPackages : ClaimPackages :=
  samplePackages (fun claims => .ok (textBytes claims.grantID)) fun _ => .error "unknown claims"

def sampleRandom (byte : UInt8) : Except String RandomBytes := .ok ⟨List.replicate 18 byte, rfl⟩

/-- Issue the sample bundle. -/
def sampleIssue (now : Time) (write : Write) : Event :=
  .issueBundle { sampleOptions with now } 0 ⟨sampleRandom 1, sampleRandom 2, sampleRandom 3⟩ write

/-- Redeem it with the key of one client, drawing a grant id. -/
def sampleRedeem (drawn : UInt8) (now : Time) (write : Write) : Event :=
  .redeemBundle ⟨[1], List.replicate 32 9, "phone", now,
    ⟨sampleRandom drawn, sampleRandom 4, .error "no entropy"⟩, none⟩ write

end Anytty.RemoteAuth
