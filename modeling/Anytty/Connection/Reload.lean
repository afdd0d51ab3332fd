import Anytty.Connection.RoundTrip

/-!
# Reloading a saved registry

`Parse` of what `Encode` writes is the normalized registry without the platform of its
endpoints and without the SSH credential references and network handles of its routes:
`parse_encode`. The documents carry everything else, and `Normalize` accepts what is left.
So a registry reloads unchanged exactly if no endpoint of it has a platform and no route
an SSH credential reference: `reload_iff`.
-/

namespace Anytty.Connection

open Anytty.Data SortedMap

/-! ### The delay -/

theorem trimSuffix_append (s suffix : String) : trimSuffix (s ++ suffix) suffix = s := by
  unfold trimSuffix
  rw [String.toList_append, if_pos (List.isSuffixOf_iff_suffix.mpr (List.suffix_append _ _)),
    List.length_append, Nat.add_sub_cancel, List.take_left, String.ofList_toList]

theorem parseUint32_repr {n : Nat} (h : n < 2 ^ 32) : parseUint32 n.repr = some n := by
  have digits : n.repr.toList.all Char.isDigit = true := by
    rw [Nat.toList_repr, List.all_eq_true]
    exact fun c mem => Nat.isDigit_of_mem_toDigits (by decide) (by decide) mem
  unfold parseUint32
  rw [digits, if_neg (by simp), Nat.toList_repr,
    Nat.ofDigitChars_toDigits (by decide) (by decide)]
  exact if_pos h

theorem formatHedgeDelay_nonempty (delay : Int) : formatHedgeDelay delay ≠ "" := fun empty => by
  have length := congrArg String.length empty
  unfold formatHedgeDelay at length
  rw [String.length_append] at length
  cases length

/-- A configured delay that passed `Validate` is read back. -/
theorem parseHedgeDelay_format {delay : Int} (nonneg : 0 ≤ delay) (bound : delay ≤ 30 * 10 ^ 9)
    (whole : delay.tmod (10 ^ 6) = 0) : parseHedgeDelay (formatHedgeDelay delay) = .ok delay := by
  obtain ⟨n, rfl⟩ := Int.eq_ofNat_of_zero_le nonneg
  have written : formatHedgeDelay n = (n / 10 ^ 6).repr ++ "ms" := rfl
  have whole' : n % 10 ^ 6 = 0 := Int.ofNat.inj whole
  have amount : ((n / 10 ^ 6 : Nat) : Int) * 10 ^ 6 = n := by omega
  have small : n / 10 ^ 6 < 2 ^ 32 := by omega
  have shorter : (n / 10 ^ 6).repr ≠ (n / 10 ^ 6).repr ++ "ms" := fun same => by
    have length := congrArg String.length same
    rw [String.length_append] at length
    exact absurd length (Nat.ne_of_lt (Nat.lt_add_of_pos_right (by decide)))
  unfold parseHedgeDelay
  rw [written, trimSuffix_append]
  dsimp only
  rw [if_neg shorter]
  rw [if_neg (not_or.mpr ⟨shorter, Nat.repr_ne_empty⟩), parseUint32_repr small]
  dsimp only
  rw [amount]
  exact if_neg (not_lt.mpr bound)

/-! ### Documents -/

section Documents

variable {text : GoText} {key : EndpointID} {endpoint : Endpoint}

/-- The document of a route carries all but the two fields. -/
theorem routeOfDocument_routeDocument (route : AccessRoute) :
    routeOfDocument route.id (routeDocument route) = route.persisted := by
  have descriptor : (route.credentialDescriptor.map credentialDescriptorDocument).map
      parseCredentialDescriptor = route.credentialDescriptor := by
    cases route.credentialDescriptor with
    | none | some descriptor => rfl
  unfold routeOfDocument routeDocument AccessRoute.persisted
  dsimp only [Option.getD_some]
  rw [descriptor]

/-- The delay of a valid endpoint comes back from its document. -/
theorem parseSelectionDelay_document (valid : endpoint.validate text = .ok ()) :
    parseSelectionDelay text key (endpointDocument endpoint).selection.hedgeDelay =
      .ok (endpoint.selectionPolicy.hedgeDelay, endpoint.selectionPolicy.hedgeDelayConfigured) := by
  unfold Endpoint.validate at valid
  simp only [seq_ok, check_ok] at valid
  obtain ⟨-, -, unconfigured, range, -⟩ := valid
  show parseSelectionDelay text key (if endpoint.selectionPolicy.hedgeDelayConfigured = true then
    formatHedgeDelay endpoint.selectionPolicy.hedgeDelay else "") = _
  cases configured : endpoint.selectionPolicy.hedgeDelayConfigured with
  | false =>
    rw [configured, Bool.false_or, decide_eq_true_eq] at unconfigured
    rw [unconfigured]
    rfl
  | true =>
    rw [configured] at range
    simp only [Bool.not_true, Bool.false_or, Bool.and_eq_true, decide_eq_true_eq] at range
    obtain ⟨⟨nonneg, bound⟩, whole⟩ := range
    have read := parseHedgeDelay_format nonneg bound whole
    rw [if_pos rfl]
    unfold parseSelectionDelay
    rw [if_neg (formatHedgeDelay_nonempty _), read]

theorem parseRoute_document {entry : RouteID × AccessRoute} (id : entry.2.id = entry.1)
    (valid : validateIdentifier text "route" entry.1 = .ok ()) :
    parseRoute text key (entry.1, routeDocument entry.2) = .ok (entry.1, entry.2.persisted) := by
  unfold parseRoute
  rw [seq_ok, wrap_ok]
  refine ⟨valid, ?_⟩
  rw [← id, routeOfDocument_routeDocument]
  rfl

section

variable (h : CanonicalEndpoint text key endpoint)
include h

theorem endpointDocument_routes :
    (endpointDocument endpoint).routes = endpoint.routes.mapValues routeDocument := by
  rw [← build_mapValues]
  refine congrArg build (List.map_congr_left fun entry mem => ?_)
  rw [(h.routes entry mem).1]

theorem parseRoutes_document :
    (endpointDocument endpoint).routes.entries.mapM (parseRoute text key) =
      .ok (endpoint.routes.entries.map fun entry => (entry.1, entry.2.persisted)) := by
  rw [endpointDocument_routes h]
  unfold mapValues
  rw [List.mapM_map]
  exact mapM_ok fun entry mem => parseRoute_document (h.routes entry mem).1 (h.routes entry mem).2.1

/-- `Parse` of the document of a canonical endpoint. -/
theorem parseEndpoint_document :
    parseEndpoint text (key, endpointDocument endpoint) = .ok (key, endpoint.persisted) := by
  unfold parseEndpoint
  rw [seq_ok]
  refine ⟨h.identifier, bind_ok.mpr ⟨_, parseSelectionDelay_document h.validate,
    bind_ok.mpr ⟨_, parseRoutes_document h, ?_⟩⟩⟩
  rw [build_mapValues]
  refine congrArg (fun endpoint => Except.ok (key, endpoint)) ?_
  rw [← h.id]
  rfl

end

end Documents

/-! ### The fields that a reload keeps -/

/-- The persistent fields of a route: all but its network handle. -/
def AccessRoute.withoutHandle (route : AccessRoute) : AccessRoute := { route with networkHandle := 0 }

def Endpoint.withoutHandles (endpoint : Endpoint) : Endpoint :=
  { endpoint with routes := endpoint.routes.mapValues AccessRoute.withoutHandle }

def Registry.withoutHandles (registry : Registry) : Registry :=
  { registry with endpoints := registry.endpoints.mapValues Endpoint.withoutHandles }

theorem AccessRoute.kept_iff {route : AccessRoute} :
    route.persisted.withoutHandle = route.withoutHandle ↔ route.sshCredentialRef = "" := by
  refine ⟨fun same => (congrArg sshCredentialRef same).symm, fun unset => ?_⟩
  unfold withoutHandle persisted
  rw [unset]

theorem Endpoint.kept_iff {endpoint : Endpoint} :
    endpoint.persisted.withoutHandles = endpoint.withoutHandles ↔
      endpoint.platform = "" ∧ ∀ route ∈ endpoint.routes.entries, route.2.sshCredentialRef = "" := by
  have routes : endpoint.persisted.withoutHandles.routes = endpoint.withoutHandles.routes ↔
      ∀ route ∈ endpoint.routes.entries, route.2.sshCredentialRef = "" := by
    show (endpoint.routes.mapValues _).mapValues _ = endpoint.routes.mapValues _ ↔ _
    rw [mapValues_mapValues, mapValues_eq_iff]
    exact forall₂_congr fun _ _ => AccessRoute.kept_iff
  rw [← routes]
  constructor
  · intro same
    exact ⟨(congrArg Endpoint.platform same).symm, congrArg Endpoint.routes same⟩
  · rintro ⟨platform, same⟩
    unfold withoutHandles at same ⊢
    dsimp only at same
    rw [same]
    unfold persisted
    rw [platform]

theorem Registry.kept_iff {registry : Registry} :
    registry.persisted.withoutHandles = registry.withoutHandles ↔
      ∀ entry ∈ registry.endpoints.entries, entry.2.platform = "" ∧
        ∀ route ∈ entry.2.routes.entries, route.2.sshCredentialRef = "" := by
  have endpoints : registry.persisted.withoutHandles = registry.withoutHandles ↔
      registry.persisted.withoutHandles.endpoints = registry.withoutHandles.endpoints := by
    refine ⟨congrArg _, fun same => ?_⟩
    unfold withoutHandles at same ⊢
    dsimp only at same
    rw [same]
    rfl
  rw [endpoints]
  show (registry.endpoints.mapValues _).mapValues _ = registry.endpoints.mapValues _ ↔ _
  rw [mapValues_mapValues, mapValues_eq_iff]
  exact forall₂_congr fun _ _ => Endpoint.kept_iff

/-! ### Files -/

section Files

variable {text : GoText} {yaml : Yaml} {registry normalized : Registry} {bytes : Bytes}

theorem parseDocument_registryDocument (h : Registry.Canonical text registry) :
    parseDocument text (registryDocument registry) = .ok registry.persisted := by
  have documents : build (registry.endpoints.entries.map fun entry =>
      (entry.2.id, endpointDocument entry.2)) = registry.endpoints.mapValues endpointDocument := by
    rw [← build_mapValues]
    refine congrArg build (List.map_congr_left fun entry mem => ?_)
    rw [(h.endpoints entry mem).id]
  have entries : (registry.endpoints.mapValues endpointDocument).entries.mapM (parseEndpoint text) =
      .ok (registry.endpoints.entries.map fun entry => (entry.1, entry.2.persisted)) := by
    unfold mapValues
    rw [List.mapM_map]
    exact mapM_ok fun entry mem => parseEndpoint_document (h.endpoints entry mem)
  unfold parseDocument registryDocument
  dsimp only
  rw [if_neg (by decide), documents, seq_ok, check_ok, decide_eq_true_eq]
  refine ⟨h.default.symm, bind_ok.mpr ⟨_, entries, ?_⟩⟩
  rw [wrap_ok, build_mapValues, ← h.version]
  exact h.normalize

/-- What a load after a save returns. -/
theorem parse_encode (normal : registry.normalize text = .ok normalized)
    (written : encode text yaml registry = .ok bytes) :
    parse text yaml bytes = .ok normalized.persisted := by
  unfold encode at written
  rw [normal] at written
  dsimp only at written
  split at written
  · cases written
  next payload marshalled =>
  split at written
  · cases written
  next small =>
  cases written
  unfold parse
  rw [if_neg small, yaml.written _ _ marshalled, yaml.round_trip _ _ marshalled]
  rw [yaml.single _ _ marshalled]
  exact parseDocument_registryDocument (Registry.normalize_canonical normal)

theorem registryDocument_persisted (registry : Registry) :
    registryDocument registry.persisted = registryDocument registry := by
  simp [registryDocument, Registry.persisted, mapValues, endpointDocument, Endpoint.persisted,
    routeDocument, AccessRoute.persisted, Function.comp_def]

/-- A registry that was saved and loaded is saved as the same bytes. -/
theorem save_after_load {loaded : Registry} (written : encode text yaml registry = .ok bytes)
    (read : parse text yaml bytes = .ok loaded) : encode text yaml loaded = .ok bytes := by
  cases normal : registry.normalize text with
  | error err =>
    rw [encode, normal] at written
    cases written
  | ok normalized =>
    cases (parse_encode normal written).symm.trans read
    rw [encode, normal] at written
    rw [encode, (Registry.normalize_canonical normal).normalize]
    simpa only [registryDocument_persisted] using written

/-- A saved registry reloads unchanged exactly if no endpoint has a platform and no route an SSH
credential reference. -/
theorem reload_iff (normal : registry.normalize text = .ok normalized)
    (written : encode text yaml registry = .ok bytes) :
    (∃ loaded, parse text yaml bytes = .ok loaded ∧
        loaded.withoutHandles = normalized.withoutHandles) ↔
      ∀ entry ∈ normalized.endpoints.entries, entry.2.platform = "" ∧
        ∀ route ∈ entry.2.routes.entries, route.2.sshCredentialRef = "" := by
  rw [parse_encode normal written, ← Registry.kept_iff]
  constructor
  · rintro ⟨loaded, same, unchanged⟩
    cases same
    exact unchanged
  · exact fun unchanged => ⟨_, rfl, unchanged⟩

end Files

/-! ### A registry with one SSH route -/

def sampleRoute (sshCredentialRef : String) : AccessRoute where
  id := "shell"
  displayName := ""
  kind := .sshWebRTCTCP
  enabled := true
  manualOnly := false
  priority := none
  credentialRef := ""
  sshCredentialRef := sshCredentialRef
  source := .manual
  policySource := .manual
  socket := ""
  host := "host"
  port := 22
  user := ""
  proxyJump := ""
  hostKeyFingerprints := []
  credentialDescriptor := none
  remoteSignalingAddress := "host:1"
  remoteICETCPAddress := "host:2"
  signalingAddresses := []
  iceTCPAddresses := []
  advertisedAddresses := []
  serverName := ""
  networkHandle := 0
  targetDeviceID := ""
  accountProfileRef := ""
  relayMode := .unset
  relayTransport := .unset

section

variable (platform sshCredentialRef : String)

def sampleEndpoint : Endpoint where
  id := "box"
  label := "box"
  labelSource := .manual
  daemonIdentity := ⟨"", ""⟩
  platform := platform
  connectMode := .auto
  enabled := true
  selectionPolicy := ⟨250 * 10 ^ 6, true, .auto⟩
  routes := empty.insert "shell" (sampleRoute sshCredentialRef)

def sampleRegistry : Registry :=
  ⟨registryVersion, "box", empty.insert "box" (sampleEndpoint platform sshCredentialRef)⟩

/-- A YAML package for a single document. -/
def oneDocument (document : RegistryDocument) : Yaml where
  marshal other := if other = document then .ok [0x0a] else .error "unknown document"
  decode _ := .ok document
  trailing _ := .eof
  blank bytes := bytes.isEmpty
  round_trip other bytes h := by
    split at h
    · next same => rw [same]
    · cases h
  single _ _ _ := rfl
  written other bytes h := by
    split at h
    · cases h
      rfl
    · cases h

/-- The file of a sample registry. -/
def sampleYaml : Yaml :=
  oneDocument (registryDocument (sampleRegistry platform sshCredentialRef))

end

theorem reload_iff_sample :
    Registry.normalize plainText (sampleRegistry "" "") = .ok (sampleRegistry "" "") ∧
      encode plainText (sampleYaml "" "") (sampleRegistry "" "") = .ok [0x0a] ∧
      ((∃ loaded, parse plainText (sampleYaml "" "") [0x0a] = .ok loaded ∧
          loaded.withoutHandles = (sampleRegistry "" "").withoutHandles) ↔
        ∀ entry ∈ (sampleRegistry "" "").endpoints.entries, entry.2.platform = "" ∧
          ∀ route ∈ entry.2.routes.entries, route.2.sshCredentialRef = "") := by
  have normal : Registry.normalize plainText (sampleRegistry "" "") = .ok (sampleRegistry "" "") :=
    rfl
  have written : encode plainText (sampleYaml "" "") (sampleRegistry "" "") = .ok [0x0a] := rfl
  exact ⟨normal, written, reload_iff normal written⟩

/-- A registry that is normal and written, and that `Parse` reads back as another one. -/
def ReloadsChanged (registry : Registry) (yaml : Yaml) (bytes : Bytes) : Prop :=
  registry.normalize plainText = .ok registry ∧ encode plainText yaml registry = .ok bytes ∧
    ∃ loaded, parse plainText yaml bytes = .ok loaded ∧
      loaded.withoutHandles ≠ registry.withoutHandles

/-- `Encode` does not write the SSH credential reference of a route, nor the platform of an
endpoint. -/
theorem reload_loses_fields :
    ReloadsChanged (sampleRegistry "" "id_ed25519") (sampleYaml "" "id_ed25519") [0x0a] ∧
      ReloadsChanged (sampleRegistry "linux" "") (sampleYaml "linux" "") [0x0a] :=
  ⟨⟨rfl, rfl, _, rfl, by decide +kernel⟩, rfl, rfl, _, rfl, by decide +kernel⟩

theorem save_after_load_sample : encode plainText (sampleYaml "linux" "")
    (sampleRegistry "linux" "").persisted = .ok [0x0a] := by
  have written : encode plainText (sampleYaml "linux" "") (sampleRegistry "linux" "") =
    .ok [0x0a] := rfl
  exact save_after_load written (parse_encode rfl written)

end Anytty.Connection
