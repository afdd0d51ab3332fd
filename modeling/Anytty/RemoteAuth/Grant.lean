import Anytty.Connection.Registry

/-!
# Capability grants

The grant format of `grant.go`: claims signed by the daemon's device key, in an envelope of
four base64 parts. Base64, JSON, SHA-256 and Ed25519 signing are parameters. Verification
is ideal: a signature is valid if the holder of the key made it, so it is looked up in the
log of the signatures that were made.
-/

namespace Anytty.RemoteAuth

open Anytty.Connection (trimSpace)

abbrev Bytes := List UInt8

/-- A `time.Time`, in nanoseconds since the zero time. -/
abbrev Time := Int

def second : Int := 10 ^ 9
def hour : Int := 3600 * second

/-- `timepolicy.ClockSkewTolerance`, ten minutes. -/
def clockSkewTolerance : Int := 600 * second

structure Scope where
  allowDaemon : Bool
  terminalID : String
  machineEventsOnly : Bool
  fileReadMetadata : Bool
  fileReadContent : Bool
  fileWriteContent : Bool
  fileMutate : Bool
  manageClientAccess : Bool
deriving DecidableEq, Repr

structure Claims where
  version : Nat
  grantID : String
  issuerDeviceID : String
  issuerDeviceFingerprint : String
  subjectKeyFingerprint : String
  scope : Scope
  issuedAt : Time
  notBefore : Time
  expiresAt : Time
  revocationID : String
  nonce : String
deriving DecidableEq, Repr

inductive GrantError
  | malformed (detail : String)
  | fingerprintMismatch
  | signatureInvalid
  | notActive
  | expired
  | revoked
  | scopeInvalid (detail : String)
  | failed (message : String)
deriving DecidableEq, Repr

/-- The packages that the formats rest on. -/
structure Packages where
  /-- `base64.RawURLEncoding`. -/
  encodeBase64 : Bytes → String
  decodeBase64 : String → Option Bytes
  /-- `json.Marshal` of claims. -/
  marshalClaims : Claims → Except String Bytes
  /-- The strict decoder, which wants nothing after the claims. -/
  unmarshalClaims : Bytes → Except String Claims
  sha256 : Bytes → Bytes
  /-- `ed25519.PrivateKey.Public` and `ed25519.Sign`. -/
  publicKey : Bytes → Bytes
  sign : Bytes → Bytes → Bytes

/-- A signature that the holder of a key made. -/
structure Signature where
  publicKey : Bytes
  message : Bytes
  signature : Bytes
deriving DecidableEq

/-- `ed25519.Verify`, given the signatures that were made. -/
def verifySignature (log : List Signature) (publicKey message signature : Bytes) : Bool :=
  ⟨publicKey, message, signature⟩ ∈ log

def publicKeySize : Nat := 32
def privateKeySize : Nat := 64
def signatureSize : Nat := 64

/-- `[]byte(text)`. -/
def textBytes (text : String) : Bytes := text.toByteArray.data.toList

def grantPrefix : String := "anytty-grant-v2"

/-- `strings.Split(text, ".")`. -/
def splitDots (text : String) : List String := (text.toList.splitOn '.').map String.ofList

/-- `strings.Join(parts, ".")`. -/
def joinDots (parts : List String) : String :=
  String.ofList (['.'].intercalate (parts.map String.toList))

/-! ### Claims -/

def Scope.validate (scope : Scope) : Except GrantError Unit :=
  let capabilities := scope.allowDaemon.toNat + (decide (trimSpace scope.terminalID ≠ "")).toNat +
    scope.machineEventsOnly.toNat
  if capabilities = 0 then .error (.scopeInvalid "requires explicit scope")
  else if capabilities ≠ 1 then .error (.scopeInvalid "scopes are mutually exclusive")
  else if (scope.fileReadMetadata || scope.fileReadContent || scope.fileWriteContent ||
      scope.fileMutate) && !scope.allowDaemon then
    .error (.scopeInvalid "file permissions require daemon scope")
  else .ok ()

def Claims.normalize (claims : Claims) : Claims :=
  { claims with
    grantID := trimSpace claims.grantID
    issuerDeviceID := trimSpace claims.issuerDeviceID
    issuerDeviceFingerprint := trimSpace claims.issuerDeviceFingerprint
    subjectKeyFingerprint := trimSpace claims.subjectKeyFingerprint
    scope := { claims.scope with terminalID := trimSpace claims.scope.terminalID }
    revocationID := trimSpace claims.revocationID
    nonce := trimSpace claims.nonce }

def Claims.validate (claims : Claims) : Except GrantError Unit :=
  if claims.version ≠ 2 then
    .error (.malformed ("unsupported version " ++ toString claims.version))
  else if claims.grantID = "" then .error (.malformed "requires grant_id")
  else if claims.issuerDeviceID = "" then .error (.malformed "requires issuer_device_id")
  else if claims.issuerDeviceFingerprint = "" then
    .error (.malformed "requires issuer_device_fingerprint")
  else if claims.subjectKeyFingerprint = "" then
    .error (.malformed "requires subject_key_fingerprint")
  else if claims.revocationID = "" ∨ claims.nonce = "" then
    .error (.malformed "requires revocation_id and nonce")
  else
    match claims.scope.validate with
    | .error err => .error err
    | .ok () =>
      if claims.issuedAt = 0 ∨ claims.notBefore = 0 ∨ (claims.expiresAt ≠ 0 ∧
          ¬ (claims.notBefore < claims.expiresAt ∧ claims.issuedAt < claims.expiresAt)) then
        .error (.malformed "requires valid issued_at, not_before and optional expires_at")
      else .ok ()

def grantExpiryForLifetime (issuedAt : Time) (lifetime : Int) : Time :=
  if lifetime = 0 then 0 else issuedAt + lifetime

def grantUnexpiredAt (expiresAt now : Time) : Bool := expiresAt = 0 || now < expiresAt

/-! ### Issue and verify -/

variable (packages : Packages)

def fingerprint (publicKey : Bytes) : String :=
  "ed25519-sha256:" ++ packages.encodeBase64 (packages.sha256 publicKey)

section

variable (privateKey : Bytes) (claims : Claims) (entropy : Except String Bytes)

/-- The claims that `Issue` signs. The nonce is drawn only if there is none. -/
def issueClaims : Except GrantError Claims :=
  let claims := claims.normalize
  let claims := { claims with
    version := if claims.version = 0 then 2 else claims.version
    notBefore := if claims.notBefore = 0 then claims.issuedAt else claims.notBefore
    revocationID := if claims.revocationID = "" then claims.grantID else claims.revocationID
    issuerDeviceFingerprint := fingerprint packages (packages.publicKey privateKey) }
  if claims.nonce ≠ "" then .ok claims
  else
    match entropy with
    | .error err => .error (.failed ("generate remote capability nonce: " ++ err))
    | .ok nonce => .ok { claims with nonce := packages.encodeBase64 nonce }

/-- The first three parts of a grant. -/
def grantSigningInput (publicKey payload : Bytes) : String :=
  joinDots [grantPrefix, packages.encodeBase64 payload, packages.encodeBase64 publicKey]

def grantOf (privateKey payload : Bytes) : String :=
  let signingInput := grantSigningInput packages (packages.publicKey privateKey) payload
  signingInput ++ "." ++ packages.encodeBase64 (packages.sign privateKey (textBytes signingInput))

def issue : Except GrantError String :=
  if privateKey.length ≠ privateKeySize then .error (.malformed "requires ed25519 private key")
  else
    match issueClaims packages privateKey claims entropy with
    | .error err => .error err
    | .ok claims =>
      match claims.validate with
      | .error err => .error err
      | .ok () =>
        match packages.marshalClaims claims with
        | .error err => .error (.failed ("encode remote capability grant: " ++ err))
        | .ok payload => .ok (grantOf packages privateKey payload)

end

/-- `verifyGrantEnvelope` once the four parts are found. -/
def verifyGrantParts (log : List Signature) (expectedFingerprint payloadPart publicPart
    signaturePart : String) : Except GrantError Claims :=
  match packages.decodeBase64 publicPart with
  | none => .error (.malformed "invalid public key")
  | some publicKey =>
    if publicKey.length ≠ publicKeySize then .error (.malformed "invalid public key")
    else if fingerprint packages publicKey ≠ trimSpace expectedFingerprint then
      .error .fingerprintMismatch
    else
      match packages.decodeBase64 signaturePart with
      | none => .error .signatureInvalid
      | some signature =>
        if !verifySignature log publicKey
            (textBytes (joinDots [grantPrefix, payloadPart, publicPart])) signature then
          .error .signatureInvalid
        else
          match packages.decodeBase64 payloadPart with
          | none => .error (.malformed "decode payload")
          | some payload =>
            match packages.unmarshalClaims payload with
            | .error err => .error (.malformed ("decode claims: " ++ err))
            | .ok claims =>
              if claims.normalize.issuerDeviceFingerprint ≠ fingerprint packages publicKey then
                .error .fingerprintMismatch
              else
                match claims.normalize.validate with
                | .error err => .error err
                | .ok () => .ok claims.normalize

section

variable (log : List Signature) (grant expectedFingerprint : String)

def verifyGrantEnvelope : Except GrantError Claims :=
  match splitDots (trimSpace grant) with
  | [first, payloadPart, publicPart, signaturePart] =>
    if first ≠ grantPrefix then .error (.malformed "unsupported envelope")
    else verifyGrantParts packages log expectedFingerprint payloadPart publicPart signaturePart
  | _ => .error (.malformed "unsupported envelope")

/-- `Verify`; the time is read from the clock if it is not given. -/
def verify (given clock : Time) (revoked : Option (String → Bool)) : Except GrantError Claims :=
  match verifyGrantEnvelope packages log grant expectedFingerprint with
  | .error err => .error err
  | .ok claims =>
    let now := if given = 0 then clock else given
    if now + clockSkewTolerance < claims.notBefore then .error .notActive
    else if !grantUnexpiredAt claims.expiresAt (now - clockSkewTolerance) then .error .expired
    else if revoked.any fun check => check claims.revocationID then .error .revoked
    else .ok claims

end

end Anytty.RemoteAuth
