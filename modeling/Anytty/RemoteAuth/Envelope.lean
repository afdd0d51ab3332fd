import Anytty.RemoteAuth.Changes

/-!
# The envelope of a grant

A grant that `Issue` writes is read back by `verifyGrantEnvelope` (`verifyGrantEnvelope_grantOf`).
Conversely, the claims that it returns were signed (`verifyGrantEnvelope_signed`), and the message
that was signed determines them (`grantSigningInput_injective`).
-/

namespace Anytty.RemoteAuth

open List

open Anytty.Connection (trimSpace isSpace trimSpace_id)

/-! ### Texts -/

theorem textBytes_injective {text text' : String} (h : textBytes text = textBytes text') :
    text = text' := by
  exact String.toByteArray_inj.mp (ByteArray.ext (Array.toList_inj.mp h))

theorem not_mem_of_mem_splitOn {α : Type} [BEq α] [LawfulBEq α] {separator : α} {xs part : List α}
    (mem : part ∈ xs.splitOn separator) : separator ∉ part := by
  induction xs generalizing part with
  | nil =>
    rw [splitOn_nil, mem_singleton] at mem
    exact mem ▸ not_mem_nil
  | cons x xs ih =>
    rw [splitOn_cons_eq_if_modifyHead] at mem
    split at mem
    · rcases mem_cons.mp mem with rfl | later
      · exact not_mem_nil
      · exact ih later
    · next other =>
      cases parts : xs.splitOn separator with
      | nil => exact absurd parts (splitOn_ne_nil _ _)
      | cons first rest =>
        rw [parts] at mem
        rw [parts] at ih
        rcases mem_cons.mp mem with rfl | later
        · intro found
          rcases mem_cons.mp found with same | inFirst
          · exact other (beq_iff_eq.mpr same.symm)
          · exact ih mem_cons_self inFirst
        · exact ih (mem_cons_of_mem _ later)

theorem not_mem_of_mem_splitDots {text part : String} (mem : part ∈ splitDots text) :
    '.' ∉ part.toList := by
  obtain ⟨chars, found, rfl⟩ := mem_map.mp mem
  rw [String.toList_ofList]
  exact not_mem_of_mem_splitOn found

theorem splitDots_joinDots {parts : List String} (nonempty : parts ≠ [])
    (clean : ∀ part ∈ parts, '.' ∉ part.toList) : splitDots (joinDots parts) = parts := by
  unfold splitDots joinDots
  rw [String.toList_ofList, splitOn_intercalate _ ?_ ?_, map_map]
  · exact (map_congr_left fun part _ => String.ofList_toList).trans (map_id _)
  · intro chars mem
    obtain ⟨part, found, rfl⟩ := mem_map.mp mem
    exact clean part found
  · exact fun empty => nonempty (map_eq_nil_iff.mp empty)

/-! ### Reading a grant back -/

/-- The facts about the packages that the envelope relies on. -/
structure Packages.Lawful (packages : Packages) : Prop extends packages.Base64 where
  json : ∀ claims payload, packages.marshalClaims claims = .ok payload →
    packages.unmarshalClaims payload = .ok claims

section Envelope

variable {packages : Packages} {log : List Signature} {privateKey payload : Bytes} {claims : Claims}

section

variable (base64 : packages.Base64)
include base64

theorem Packages.Base64.noDots (bytes : Bytes) : '.' ∉ (packages.encodeBase64 bytes).toList :=
  fun mem => (base64.alphabet bytes '.' mem).1 rfl

theorem Packages.Base64.encode_injective {bytes bytes' : Bytes}
    (h : packages.encodeBase64 bytes = packages.encodeBase64 bytes') : bytes = bytes' := by
  have decoded := congrArg packages.decodeBase64 h
  rw [base64.round_trip, base64.round_trip] at decoded
  exact Option.some.inj decoded

/-- The message that was signed has one payload and one key. -/
theorem grantSigningInput_injective {payloadPart publicPart : String}
    {publicKey : Bytes} (noDots : '.' ∉ payloadPart.toList) (noDots' : '.' ∉ publicPart.toList)
    (same : textBytes (joinDots [grantPrefix, payloadPart, publicPart]) =
      textBytes (grantSigningInput packages publicKey payload)) :
    payloadPart = packages.encodeBase64 payload ∧ publicPart = packages.encodeBase64 publicKey := by
  have parts := congrArg splitDots (textBytes_injective same)
  unfold grantSigningInput at parts
  have cleanPrefix : '.' ∉ grantPrefix.toList := by decide
  rw [splitDots_joinDots (cons_ne_nil _ _), splitDots_joinDots (cons_ne_nil _ _)] at parts
  · simp only [List.cons.injEq, true_and, and_true] at parts
    exact parts
  · simp only [forall_mem_cons, not_mem_nil, false_imp_iff, implies_true, and_true]
    exact ⟨cleanPrefix, base64.noDots _, base64.noDots _⟩
  · simp only [forall_mem_cons, not_mem_nil, false_imp_iff, implies_true, and_true]
    exact ⟨cleanPrefix, noDots, noDots'⟩

omit base64 in
theorem grantOf_eq_joinDots : grantOf packages privateKey payload =
    joinDots [grantPrefix, packages.encodeBase64 payload,
      packages.encodeBase64 (packages.publicKey privateKey),
      packages.encodeBase64 (packages.sign privateKey
        (textBytes (grantSigningInput packages (packages.publicKey privateKey) payload)))] := by
  unfold grantOf
  dsimp only
  generalize packages.sign privateKey _ = signature
  unfold grantSigningInput joinDots
  refine String.ext ?_
  simp [List.intercalate, List.intersperse]

theorem trimSpace_grantOf :
    trimSpace (grantOf packages privateKey payload) = grantOf packages privateKey payload := by
  refine trimSpace_id fun c mem => ?_
  unfold grantOf grantSigningInput joinDots at mem
  have cleanPrefix : ∀ c ∈ grantPrefix.toList, isSpace c = false := noSpace_of_all rfl
  simp only [List.intercalate, List.intersperse, map_cons, map_nil, flatten_cons,
    flatten_nil, String.toList_append, String.toList_ofList, mem_append, append_nil,
    mem_cons, not_mem_nil, or_false] at mem
  rcases mem with ((first | rfl | payloadPart | rfl | publicPart) | dot) | signature
  · exact cleanPrefix c first
  · decide
  · exact (base64.alphabet _ c payloadPart).2
  · decide
  · exact (base64.alphabet _ c publicPart).2
  · have same : c = '.' := by simpa using dot
    subst same
    decide
  · exact (base64.alphabet _ c signature).2

theorem splitDots_grantOf :
    splitDots (trimSpace (grantOf packages privateKey payload)) =
      [grantPrefix, packages.encodeBase64 payload,
        packages.encodeBase64 (packages.publicKey privateKey),
        packages.encodeBase64 (packages.sign privateKey
          (textBytes (grantSigningInput packages (packages.publicKey privateKey) payload)))] := by
  rw [trimSpace_grantOf base64, grantOf_eq_joinDots, splitDots_joinDots (cons_ne_nil _ _)]
  simp only [forall_mem_cons, not_mem_nil, false_imp_iff, implies_true, and_true]
  exact ⟨by decide, base64.noDots _, base64.noDots _, base64.noDots _⟩

end

/-- A grant whose signature is known is accepted, with the claims that were signed. -/
theorem verifyGrantEnvelope_grantOf (lawful : packages.Lawful)
    (size : (packages.publicKey privateKey).length = publicKeySize)
    (marshalled : packages.marshalClaims claims = .ok payload) (normal : claims.normalize = claims)
    (valid : claims.validate = .ok ())
    (issuer : claims.issuerDeviceFingerprint = fingerprint packages (packages.publicKey privateKey))
    (signed : ⟨packages.publicKey privateKey,
      textBytes (grantSigningInput packages (packages.publicKey privateKey) payload),
      packages.sign privateKey
        (textBytes (grantSigningInput packages (packages.publicKey privateKey) payload))⟩ ∈ log) :
    verifyGrantEnvelope packages log (grantOf packages privateKey payload)
      (fingerprint packages (packages.publicKey privateKey)) = .ok claims := by
  have base64 := lawful.toBase64
  have verified := decide_eq_true signed
  unfold grantSigningInput at verified
  unfold verifyGrantEnvelope
  rw [splitDots_grantOf base64]
  dsimp only
  rw [if_neg (not_not.mpr rfl)]
  unfold verifyGrantParts verifySignature grantSigningInput
  rw [base64.round_trip, base64.round_trip, base64.round_trip, base64.trimSpace_fingerprint]
  dsimp only
  rw [if_neg (not_not.mpr size), if_neg (not_not.mpr rfl), verified, if_neg (by decide),
    lawful.json claims payload marshalled]
  dsimp only
  rw [normal, if_neg (not_not.mpr issuer), valid]

/-- The claims of an accepted grant come from a message that was signed. -/
theorem verifyGrantEnvelope_signed {grant expected : String}
    (h : verifyGrantEnvelope packages log grant expected = .ok claims) :
    ∃ publicKey signature payload raw payloadPart publicPart,
      ⟨publicKey, textBytes (joinDots [grantPrefix, payloadPart, publicPart]), signature⟩ ∈ log ∧
      '.' ∉ payloadPart.toList ∧ '.' ∉ publicPart.toList ∧
      fingerprint packages publicKey = trimSpace expected ∧
      packages.decodeBase64 payloadPart = some payload ∧
      packages.unmarshalClaims payload = .ok raw ∧ claims = raw.normalize := by
  unfold verifyGrantEnvelope at h
  split at h
  case h_2 => cases h
  next first payloadPart publicPart signaturePart parts =>
  split at h
  · cases h
  unfold verifyGrantParts at h
  split at h
  · cases h
  next publicKey _ =>
  split at h
  · cases h
  split at h
  · cases h
  next known =>
  split at h
  · cases h
  next signature _ =>
  split at h
  · cases h
  next verified =>
  split at h
  · cases h
  next payload decoded =>
  split at h
  · cases h
  next raw read =>
  split at h
  · cases h
  split at h
  · cases h
  cases h
  have noDots : ∀ part ∈ splitDots (trimSpace grant), '.' ∉ part.toList :=
    fun part => not_mem_of_mem_splitDots
  rw [parts] at noDots
  refine ⟨publicKey, signature, payload, raw, payloadPart, publicPart, ?_, noDots _ (by simp),
    noDots _ (by simp), not_not.mp known, decoded, read, rfl⟩
  unfold verifySignature at verified
  simpa using verified

end Envelope

end Anytty.RemoteAuth
