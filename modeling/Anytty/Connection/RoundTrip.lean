import Anytty.Connection.Document

/-!
# What `Normalize` leaves

`Normalize` makes every endpoint and route canonical: ids are keys, defaults are set, lists
are sorted. It leaves such a registry alone, also once the fields that a file does not keep
are lost: no check asks for them.
-/

namespace Anytty.Connection

open Anytty.Data List SortedMap AccessRoute

/-! ### Identifiers -/

variable {text : GoText}

section Identifiers

theorem not_isSpace_of_valid {c : Char} (h : validIdentifierChar c = true) : isSpace c = false := by
  have le : ∀ a : Char, a ≤ c ↔ a.toNat ≤ c.toNat := fun a => UInt32.le_iff_toNat_le
  have ge : ∀ a : Char, c ≤ a ↔ c.toNat ≤ a.toNat := fun a => UInt32.le_iff_toNat_le
  have eq : ∀ a : Char, c = a → c.toNat = a.toNat := fun a => congrArg Char.toNat
  have range : (97 ≤ c.toNat ∧ c.toNat ≤ 122) ∨ (65 ≤ c.toNat ∧ c.toNat ≤ 90) ∨
      (48 ≤ c.toNat ∧ c.toNat ≤ 57) ∨ c.toNat = 45 ∨ c.toNat = 95 ∨ c.toNat = 46 := by
    simp only [validIdentifierChar, Bool.or_eq_true, Bool.and_eq_true, decide_eq_true_eq, le,
      ge] at h
    rcases h with ((((lower | upper) | digit) | h) | h) | h
    · exact .inl lower
    · exact .inr (.inl upper)
    · exact .inr (.inr (.inl digit))
    · exact .inr (.inr (.inr (.inl (eq _ h))))
    · exact .inr (.inr (.inr (.inr (.inl (eq _ h)))))
    · exact .inr (.inr (.inr (.inr (.inr (eq _ h)))))
  rw [isSpace, Bool.or_eq_false_iff]
  refine ⟨decide_eq_false fun mem => ?_, ?_⟩
  · simp only [mem_cons, not_mem_nil, or_false] at mem
    omega
  · simp only [Bool.and_eq_false_iff, decide_eq_false_iff_not]
    omega

variable {kind value : String}

theorem validateIdentifier_ok : validateIdentifier text kind value = .ok () ↔
    value ≠ "" ∧ value.utf8ByteSize ≤ 128 ∧ ∀ c ∈ value.toList, validIdentifierChar c = true := by
  unfold validateIdentifier
  rw [seq_ok, seq_ok, check_ok, check_ok, decide_eq_true_eq, decide_eq_true_eq]
  refine and_congr_right fun _ => and_congr_right fun _ => ?_
  cases found : value.toList.find? fun c => !validIdentifierChar c with
  | none =>
    refine ⟨fun _ c mem => ?_, fun _ => rfl⟩
    simpa using List.find?_eq_none.mp found c mem
  | some c =>
    refine ⟨nofun, fun all => ?_⟩
    have bad := List.find?_some found
    rw [all c (List.mem_of_find?_eq_some found)] at bad
    cases bad

theorem trimSpace_identifier
    (h : validateIdentifier text kind value = .ok ()) : trimSpace value = value :=
  trimSpace_id fun c mem => not_isSpace_of_valid ((validateIdentifier_ok.mp h).2.2 c mem)

theorem identifier_nonempty (h : validateIdentifier text kind value = .ok ()) : value ≠ "" :=
  (validateIdentifier_ok.mp h).1

end Identifiers

/-! ### What a file keeps -/

/-- A route without the fields that a file loses. -/
@[simps]
def AccessRoute.persisted (route : AccessRoute) : AccessRoute :=
  { route with sshCredentialRef := "", networkHandle := 0 }

@[simps]
def Endpoint.persisted (endpoint : Endpoint) : Endpoint :=
  { endpoint with platform := "", routes := endpoint.routes.mapValues AccessRoute.persisted }

def Registry.persisted (registry : Registry) : Registry :=
  { registry with endpoints := registry.endpoints.mapValues Endpoint.persisted }

section Routes

variable {route : AccessRoute} {identity : DaemonIdentity}

theorem hasSSHFields_persisted (h : route.hasSSHFields = false) :
    route.persisted.hasSSHFields = false := by
  have lost : ¬ trimSpace "" ≠ "" := by decide
  simp only [hasSSHFields, Bool.or_eq_false_iff, decide_eq_false_iff_not] at h ⊢
  exact ⟨⟨⟨h.1.1.1, lost⟩, h.1.2⟩, h.2⟩

theorem hasDirectFields_persisted : route.persisted.hasDirectFields = route.hasDirectFields := rfl

theorem hasManagedFields_persisted : route.persisted.hasManagedFields = route.hasManagedFields := rfl

/-- The kind of a route does not ask for what is lost. -/
theorem validateKind_persisted (h : route.validateKind text identity = .ok ()) :
    route.persisted.validateKind text identity = .ok () := by
  unfold validateKind at h ⊢
  simp only [persisted_kind, persisted_id, persisted_socket,
    persisted_credentialRef, persisted_host,
    persisted_remoteSignalingAddress, persisted_remoteICETCPAddress,
    persisted_signalingAddresses, persisted_iceTCPAddresses,
    persisted_targetDeviceID, persisted_relayMode,
    persisted_relayTransport, hasDirectFields_persisted, hasManagedFields_persisted]
  split at h
  · next kind =>
    rw [if_pos kind]
    simp only [seq_ok, check_ok, Bool.not_eq_true', Bool.or_eq_false_iff, decide_eq_true_eq,
      decide_eq_false_iff_not] at h ⊢
    refine ⟨h.1, ?_⟩
    exact ⟨⟨⟨hasSSHFields_persisted h.2.1.1.1, h.2.1.1.2⟩, h.2.1.2⟩, h.2.2⟩
  next notLocal =>
  rw [if_neg notLocal]
  split at h
  · next kind =>
    rw [if_pos kind]
    exact h
  next notSSH =>
  rw [if_neg notSSH]
  split at h
  · next kind =>
    rw [if_pos kind]
    simp only [seq_ok, check_ok, wrap_ok, Bool.not_eq_true', Bool.or_eq_false_iff,
      decide_eq_false_iff_not] at h ⊢
    obtain ⟨addresses, validIdentity, ⟨socket, ssh⟩, managed⟩ := h
    exact ⟨addresses, validIdentity, ⟨socket, hasSSHFields_persisted ssh⟩, managed⟩
  next notDirect =>
  rw [if_neg notDirect]
  split at h
  · next kind =>
    rw [if_pos kind]
    simp only [seq_ok, check_ok, wrap_ok, Bool.not_eq_true', Bool.or_eq_false_iff,
      decide_eq_true_eq, decide_eq_false_iff_not] at h ⊢
    obtain ⟨target, validIdentity, same, mode, transport, ⟨socket, ssh⟩, direct⟩ := h
    exact ⟨target, validIdentity, same, mode, transport, ⟨socket, hasSSHFields_persisted ssh⟩,
      direct⟩
  · cases h

theorem textFields_persisted {field : String × String} (mem : field ∈ route.persisted.textFields) :
    field ∈ route.textFields ∨ field = ("ssh_credential_ref", "") := by
  unfold textFields persisted at mem
  unfold textFields
  simp only [mem_cons, not_mem_nil, or_false] at mem ⊢
  tauto

theorem validateDescriptor_persisted :
    route.persisted.validateDescriptor text = route.validateDescriptor text := rfl

theorem validate_persisted (h : route.validate text identity = .ok ()) :
    route.persisted.validate text identity = .ok () := by
  unfold validate at h ⊢
  simp only [persisted_kind, persisted_id, persisted_displayName,
    persisted_priority, persisted_hostKeyFingerprints,
    persisted_signalingAddresses, persisted_iceTCPAddresses,
    persisted_advertisedAddresses, persisted_source,
    persisted_policySource, validateDescriptor_persisted, seq_ok, forM_ok, check_ok,
    Bool.and_eq_true, decide_eq_true_eq] at h ⊢
  obtain ⟨identifier, display, priority, fields, hostKeys, signaling, ice, advertised, descriptor,
    source, kind⟩ := h
  refine ⟨identifier, display, priority, fun field mem => ?_, hostKeys, signaling, ice, advertised,
    descriptor, source, validateKind_persisted kind⟩
  rcases textFields_persisted mem with old | lost
  · exact fields field old
  · rw [lost]
    rfl

/-- A route that has its defaults. -/
structure AccessRoute.Settled (route : AccessRoute) : Prop where
  id : trimSpace route.id = route.id
  source : route.source ≠ .unset
  policySource : route.policySource ≠ .unset
  socket : route.kind = .localUnix → route.socket ≠ ""
  port : route.kind = .sshWebRTCTCP → route.port ≠ 0
  relayMode : route.kind = .managedWebRTC → route.relayMode ≠ .unset
  relayTransport : route.kind = .managedWebRTC →
    route.relayTransport ≠ .unset ∧ route.relayTransport ≠ .auto
  hostKeyFingerprints : route.hostKeyFingerprints.Pairwise (· ≤ ·)
  signalingAddresses : route.signalingAddresses.Pairwise (· ≤ ·)
  iceTCPAddresses : route.iceTCPAddresses.Pairwise (· ≤ ·)
  advertisedAddresses : route.advertisedAddresses.Pairwise (· ≤ ·)

theorem AccessRoute.Settled.withDefaults_eq (h : route.Settled) : route.withDefaults = route := by
  unfold withDefaults normalizeStrings
  dsimp only
  rw [if_neg h.source, if_neg h.policySource, if_neg fun c => h.socket c.1 c.2,
    if_neg fun c => h.port c.1 c.2, if_neg fun c => h.relayMode c.1 c.2,
    if_neg fun c => c.2.elim (h.relayTransport c.1).1 (h.relayTransport c.1).2,
    h.hostKeyFingerprints.insertionSort_eq, h.signalingAddresses.insertionSort_eq,
    h.iceTCPAddresses.insertionSort_eq, h.advertisedAddresses.insertionSort_eq, h.id]

theorem AccessRoute.withDefaults_kind : route.withDefaults.kind = route.kind := by
  unfold withDefaults
  rfl

theorem defaulted_ne {α : Type} {kind : Prop} {value default unset : α}
    [Decidable (kind ∧ value = unset)] (is : kind) (set : default ≠ unset) :
    (if kind ∧ value = unset then default else value) ≠ unset := by
  split
  · exact set
  · next given => exact fun same => given ⟨is, same⟩

theorem AccessRoute.withDefaults_settled
    (h : trimSpace (trimSpace route.id) = trimSpace route.id) : route.withDefaults.Settled where
  id := h
  source := by
    show (if _ then _ else _) ≠ _
    split
    · decide
    · assumption
  policySource := by
    show (if _ then (if _ then _ else _) else _) ≠ _
    split
    · split
      · decide
      · assumption
    · assumption
  socket := fun kind => defaulted_ne (withDefaults_kind ▸ kind) (by decide)
  port := fun kind => defaulted_ne (withDefaults_kind ▸ kind) (by decide)
  relayMode := fun kind => defaulted_ne (withDefaults_kind ▸ kind) (by decide)
  relayTransport := fun kind => by
    rw [withDefaults_kind] at kind
    show (if _ then _ else _) ≠ _ ∧ (if _ then _ else _) ≠ _
    split
    · decide
    · next set => exact ⟨fun unset => set ⟨kind, .inl unset⟩, fun auto => set ⟨kind, .inr auto⟩⟩
  hostKeyFingerprints := pairwise_insertionSort _ _
  signalingAddresses := pairwise_insertionSort _ _
  iceTCPAddresses := pairwise_insertionSort _ _
  advertisedAddresses := pairwise_insertionSort _ _

theorem AccessRoute.Settled.persisted (h : route.Settled) : route.persisted.Settled :=
  { h with }

end Routes

/-! ### Endpoints -/

/-- An endpoint as `Normalize` leaves it under its key. -/
structure CanonicalEndpoint (text : GoText) (key : EndpointID) (endpoint : Endpoint) : Prop where
  id : endpoint.id = key
  routes : ∀ entry ∈ endpoint.routes.entries, entry.2.id = entry.1 ∧
    validateIdentifier text "route" entry.1 = .ok () ∧ entry.2.Settled
  platform : text.toLower (trimSpace endpoint.platform) = endpoint.platform
  label : trimSpace endpoint.label ≠ ""
  labelSource : endpoint.labelSource ≠ .unset
  connectMode : endpoint.connectMode.text ≠ ""
  validate : endpoint.validate text = .ok ()

/-- An endpoint whose defaults are set, whether or not it is valid. -/
structure SettledEndpoint (text : GoText) (key : EndpointID) (endpoint : Endpoint) : Prop where
  id : endpoint.id = key
  identifier : validateIdentifier text "endpoint" key = .ok ()
  routes : ∀ entry ∈ endpoint.routes.entries, entry.2.id = entry.1 ∧
    validateIdentifier text "route" entry.1 = .ok () ∧ entry.2.Settled
  platform : text.toLower (trimSpace endpoint.platform) = endpoint.platform
  label : trimSpace endpoint.label ≠ ""
  labelSource : endpoint.labelSource ≠ .unset
  connectMode : endpoint.connectMode.text ≠ ""

section Endpoints

variable {key : EndpointID} {endpoint : Endpoint}

theorem validate_identifier (h : endpoint.validate text = .ok ()) :
    validateIdentifier text "endpoint" endpoint.id = .ok () := by
  unfold Endpoint.validate at h
  rw [seq_ok] at h
  exact h.1

theorem validate_platform (h : endpoint.validate text = .ok ()) :
    validEndpointPlatform text endpoint.platform = true := by
  unfold Endpoint.validate at h
  simp only [seq_ok, check_ok] at h
  exact h.2.2.2.2.2.2.2.1

theorem validateGiven_spec {kind value key : String}
    (valid : validateIdentifier text kind key = .ok ())
    (given : validateGiven text kind value = .ok ())
    (same : trimSpace key = trimSpace (if value = "" then key else value)) :
    (if value = "" then key else value) = key := by
  unfold validateGiven at given
  split
  · rfl
  next set =>
  rw [if_neg set] at given same
  rw [trimSpace_identifier valid, trimSpace_identifier given] at same
  exact same.symm

variable {endpointID : EndpointID} {seen : List RouteID} {entries : List (RouteID × AccessRoute)}

theorem checkRouteKeys_spec (h : Registry.checkRouteKeys text endpointID seen entries = .ok ()) :
    ∀ entry ∈ entries, validateIdentifier text "route" entry.1 = .ok () ∧
      (keyed entry.1 entry.2).id = entry.1 := by
  induction entries generalizing seen with
  | nil => exact forall_mem_nil _
  | cons entry entries ih =>
    obtain ⟨key, route⟩ := entry
    unfold Registry.checkRouteKeys at h
    simp only [seq_ok, wrap_ok, check_ok, decide_eq_true_eq] at h
    obtain ⟨valid, given, same, -, rest⟩ := h
    refine forall_mem_cons.mpr ⟨⟨valid, ?_⟩, ih rest⟩
    have id := validateGiven_spec valid given same
    unfold AccessRoute.keyed
    split
    · exact trimSpace_identifier valid
    next set =>
    rw [if_neg set] at id
    exact id

theorem checkRouteKeys_ok (sorted : entries.Pairwise fun a b => a.1 < b.1)
    (valid : ∀ entry ∈ entries, entry.2.id = entry.1 ∧
      validateIdentifier text "route" entry.1 = .ok ())
    (new : ∀ entry ∈ entries, entry.1 ∉ seen) :
    Registry.checkRouteKeys text endpointID seen entries = .ok () := by
  induction entries generalizing seen with
  | nil => rfl
  | cons entry entries ih =>
    obtain ⟨key, route⟩ := entry
    obtain ⟨id, identifier⟩ := valid (key, route) mem_cons_self
    obtain ⟨first, rest⟩ := pairwise_cons.mp sorted
    have nonempty := identifier_nonempty identifier
    unfold Registry.checkRouteKeys
    simp only [seq_ok, wrap_ok, check_ok, decide_eq_true_eq]
    rw [id, if_neg nonempty, trimSpace_identifier identifier]
    refine ⟨identifier, ?_, rfl, new _ mem_cons_self, ?_⟩
    · unfold validateGiven
      rw [if_neg nonempty]
      exact identifier
    · refine ih rest (fun entry mem => valid entry (mem_cons_of_mem _ mem)) fun entry mem => ?_
      rw [mem_cons, not_or]
      exact ⟨ne_of_gt (first entry mem), new entry (mem_cons_of_mem _ mem)⟩

theorem CanonicalEndpoint.identifier (h : CanonicalEndpoint text key endpoint) :
    validateIdentifier text "endpoint" key = .ok () := h.id ▸ validate_identifier h.validate

theorem CanonicalEndpoint.settled (h : CanonicalEndpoint text key endpoint) :
    SettledEndpoint text key endpoint :=
  ⟨h.id, h.identifier, h.routes, h.platform, h.label, h.labelSource, h.connectMode⟩

theorem SettledEndpoint.withDefaults_eq (h : SettledEndpoint text key endpoint) :
    endpoint.withDefaults text = endpoint := by
  have id : trimSpace endpoint.id = endpoint.id := h.id ▸ trimSpace_identifier h.identifier
  have routes : (endpoint.routes.entries.map fun entry =>
      ((keyed entry.1 entry.2).withDefaults.id,
        (keyed entry.1 entry.2).withDefaults)) = endpoint.routes.entries := by
    refine (map_congr_left fun entry mem => ?_).trans (map_id _)
    obtain ⟨same, valid, settled⟩ := h.routes entry mem
    have keyed : keyed entry.1 entry.2 = entry.2 := by
      unfold keyed
      rw [if_neg]
      rw [same]
      exact identifier_nonempty valid
    rw [keyed, settled.withDefaults_eq, same]
    rfl
  unfold Endpoint.withDefaults
  dsimp only
  rw [routes, build_self, id, h.platform, if_neg h.label, if_neg h.labelSource,
    if_neg h.connectMode]

theorem underKey_persisted (key : RouteID) (route : AccessRoute) :
    underKey key route.persisted = (underKey key route).persisted := by
  unfold underKey keyed
  by_cases empty : route.id = ""
  · rw [if_pos (show route.persisted.id = "" from empty), if_pos empty]
    rfl
  · rw [if_neg (show ¬ route.persisted.id = "" from empty), if_neg empty]
    rfl

theorem validateRoute_persisted {entry : RouteID × AccessRoute}
    (h : endpoint.validateRoute text entry = .ok ()) :
    endpoint.persisted.validateRoute text (entry.1, entry.2.persisted) = .ok () := by
  unfold Endpoint.validateRoute at h ⊢
  simp only [underKey_persisted, Endpoint.persisted_daemonIdentity, persisted_id, seq_ok,
    wrap_ok, check_ok, Bool.or_eq_true, decide_eq_true_eq] at h ⊢
  exact ⟨h.1, validate_persisted h.2⟩

theorem priorities_persisted : endpoint.persisted.priorities = endpoint.priorities := by
  unfold Endpoint.priorities Endpoint.persisted mapValues
  rw [filter_map, map_map]
  rfl

open Endpoint

theorem validate_persisted_endpoint (h : endpoint.validate text = .ok ()) :
    endpoint.persisted.validate text = .ok () := by
  unfold Endpoint.validate at h ⊢
  simp only [priorities_persisted, Endpoint.persisted_id, Endpoint.persisted_connectMode,
    persisted_selectionPolicy, persisted_labelSource,
    persisted_daemonIdentity, persisted_platform, seq_ok, forM_ok, check_ok, wrap_ok,
    Bool.and_eq_true, Bool.or_eq_true, decide_eq_true_eq] at h ⊢
  obtain ⟨identifier, mode, unconfigured, delay, preference, source, identity, -, routes, valid,
    priorities⟩ := h
  refine ⟨identifier, mode, unconfigured, delay, preference, source, identity, rfl, ?_,
    fun entry mem => ?_, priorities⟩
  · unfold Endpoint.persisted mapValues
    simpa using routes
  · obtain ⟨old, mem', rfl⟩ := mem_map.mp mem
    exact validateRoute_persisted (valid old mem')

theorem CanonicalEndpoint.persisted (h : CanonicalEndpoint text key endpoint) :
    CanonicalEndpoint text key endpoint.persisted where
  id := h.id
  routes := by
    intro entry mem
    obtain ⟨old, mem', rfl⟩ := mem_map.mp mem
    obtain ⟨same, valid, settled⟩ := h.routes old mem'
    exact ⟨same, valid, settled.persisted⟩
  platform := text.toLower_empty
  label := h.label
  labelSource := h.labelSource
  connectMode := h.connectMode
  validate := validate_persisted_endpoint h.validate

theorem withDefaults_routes (text : GoText)
    (keys : ∀ entry ∈ endpoint.routes.entries, validateIdentifier text "route" entry.1 = .ok () ∧
      (keyed entry.1 entry.2).id = entry.1) :
    (endpoint.withDefaults text).routes.entries = endpoint.routes.entries.map
      fun entry => (entry.1, (keyed entry.1 entry.2).withDefaults) := by
  have ids : ∀ entry ∈ endpoint.routes.entries,
      (keyed entry.1 entry.2).withDefaults.id = entry.1 := by
    intro entry mem
    obtain ⟨valid, same⟩ := keys entry mem
    show trimSpace (keyed entry.1 entry.2).id = entry.1
    rw [same, trimSpace_identifier valid]
  refine Eq.trans ?_ (build_entries (pairwise_map.mpr endpoint.routes.sorted))
  refine congrArg (fun entries => (build entries).entries) (map_congr_left fun entry mem => ?_)
  exact Prod.ext (ids entry mem) rfl

/-- What the checks of `Normalize` make of an endpoint is canonical. -/
theorem canonical_withDefaults (known : validateIdentifier text "endpoint" key = .ok ())
    (id : endpoint.id = key)
    (keys : ∀ entry ∈ endpoint.routes.entries, validateIdentifier text "route" entry.1 = .ok () ∧
      (keyed entry.1 entry.2).id = entry.1)
    (valid : (endpoint.withDefaults text).validate text = .ok ()) :
    CanonicalEndpoint text key (endpoint.withDefaults text) := by
  have identifier := validate_identifier valid
  have nonempty : trimSpace endpoint.id ≠ "" := identifier_nonempty identifier
  have trimmed : trimSpace (trimSpace endpoint.id) = trimSpace endpoint.id :=
    trimSpace_identifier identifier
  have routes := withDefaults_routes text keys
  have platform : text.toLower (trimSpace (endpoint.withDefaults text).platform) =
      (endpoint.withDefaults text).platform := by
    have checked := validate_platform valid
    unfold validEndpointPlatform at checked
    simp only [Bool.or_eq_true, Bool.and_eq_true, decide_eq_true_eq] at checked
    rcases checked with empty | ⟨⟨same, -⟩, -⟩
    · rw [empty]
      exact text.toLower_empty
    · exact same.symm
  refine ⟨?_, ?_, platform, ?_, ?_, ?_, valid⟩
  · show trimSpace endpoint.id = key
    rw [id, trimSpace_identifier known]
  · rw [routes]
    intro entry mem
    obtain ⟨old, mem', rfl⟩ := mem_map.mp mem
    obtain ⟨valid, same⟩ := keys old mem'
    refine ⟨?_, valid, withDefaults_settled ?_⟩
    · show trimSpace (keyed old.1 old.2).id = old.1
      rw [same, trimSpace_identifier valid]
    · rw [same, trimSpace_identifier valid, trimSpace_identifier valid]
  · unfold Endpoint.withDefaults
    dsimp only
    split
    · rw [trimmed]
      exact nonempty
    · assumption
  · unfold Endpoint.withDefaults
    dsimp only
    split
    · decide
    · assumption
  · unfold Endpoint.withDefaults
    dsimp only
    split
    · split <;> decide
    · assumption

end Endpoints

/-! ### The loop of `Normalize` -/

namespace Registry

/-- The loop on a registry that was reloaded. -/
def Progress.persisted (progress : Progress) : Progress :=
  { progress with endpoints := progress.endpoints.mapValues Endpoint.persisted }

section Loop

variable {progress progress' : Progress} {key : EndpointID} {endpoint : Endpoint}

theorem addIdentity_spec (h : addIdentity text progress endpoint = .ok progress') :
    progress'.endpoints = progress.endpoints ∧
      addIdentity text progress.persisted endpoint.persisted = .ok progress'.persisted := by
  unfold addIdentity at h ⊢
  dsimp only at h ⊢
  have identity : endpoint.persisted.daemonIdentity = endpoint.daemonIdentity := rfl
  rw [identity]
  split at h
  · next empty =>
    cases h
    rw [if_pos empty]
    exact ⟨rfl, rfl⟩
  next set =>
  rw [if_neg set]
  have deviceIDs : progress.persisted.deviceIDs = progress.deviceIDs := rfl
  have fingerprints : progress.persisted.fingerprints = progress.fingerprints := rfl
  rw [deviceIDs, fingerprints]
  split at h
  · split at h <;> cases h
  split at h
  · cases h
  cases h
  exact ⟨rfl, rfl⟩

theorem addEndpoint_canonical {next : Progress} (h : CanonicalEndpoint text key endpoint)
    (new : progress.endpoints.lookup key = none)
    (identified : addIdentity text progress endpoint = .ok next) :
    addEndpoint text progress (key, endpoint) =
      .ok { next with endpoints := next.endpoints.insert key endpoint } := by
  have valid := h.identifier
  have nonempty := identifier_nonempty valid
  have trimmed := trimSpace_identifier valid
  have self : Endpoint.keyed key endpoint = endpoint := by
    unfold Endpoint.keyed
    rw [h.id, if_neg nonempty, trimmed, ← h.id]
  unfold addEndpoint
  dsimp only
  rw [trimmed, self, h.settled.withDefaults_eq, h.id]
  simp only [seq_ok, check_ok, decide_eq_true_eq]
  refine ⟨valid, ?_, trivial, ?_, h.validate, ?_, ?_⟩
  · unfold validateGiven
    rw [if_neg nonempty]
    exact valid
  · exact checkRouteKeys_ok endpoint.routes.sorted
      (fun entry mem => ⟨(h.routes entry mem).1, (h.routes entry mem).2.1⟩) fun _ _ => nofun
  · rw [new]
    rfl
  · rw [identified]
    rfl

/-- One endpoint: it becomes canonical, and a reloaded one passes as well. -/
theorem addEndpoint_spec (h : addEndpoint text progress (key, endpoint) = .ok progress') :
    ∃ canonical, CanonicalEndpoint text key canonical ∧
      progress'.endpoints = progress.endpoints.insert key canonical ∧
      addEndpoint text progress.persisted (key, canonical.persisted) = .ok progress'.persisted := by
  unfold addEndpoint at h
  simp only [seq_ok, check_ok, decide_eq_true_eq] at h
  obtain ⟨valid, rest⟩ := h
  rw [trimSpace_identifier valid] at rest
  generalize Endpoint.keyed key endpoint = named at rest
  obtain ⟨-, same, routeKeys, checked, new, added⟩ := rest
  obtain ⟨next, identified, inserted⟩ := bind_ok.mp added
  have canonical := canonical_withDefaults valid same.symm (checkRouteKeys_spec routeKeys) checked
  generalize named.withDefaults text = settled at new identified inserted canonical
  rw [canonical.id] at new inserted
  obtain ⟨endpoints, reloaded⟩ := addIdentity_spec identified
  refine ⟨settled, canonical, ?_, ?_⟩
  · cases inserted
    rw [← endpoints]
  · have fresh : progress.persisted.endpoints.lookup key = none := by
      rw [Progress.persisted, lookup_mapValues, Option.isNone_iff_eq_none.mp new]
      rfl
    rw [addEndpoint_canonical canonical.persisted fresh reloaded]
    cases inserted
    refine congrArg Except.ok ?_
    unfold Progress.persisted
    rw [mapValues_insert]

/-- The whole loop, over entries that come after those it has. -/
theorem addEndpoints_spec {entries : List (EndpointID × Endpoint)}
    (sorted : (progress.endpoints.entries ++ entries).Pairwise fun a b => a.1 < b.1)
    (h : entries.foldlM (addEndpoint text) progress = .ok progress') :
    ∃ canonical : List (EndpointID × Endpoint), canonical.length = entries.length ∧
      (∀ entry ∈ canonical, CanonicalEndpoint text entry.1 entry.2) ∧
      progress'.endpoints.entries = progress.endpoints.entries ++ canonical ∧
      (canonical.map fun entry => (entry.1, entry.2.persisted)).foldlM (addEndpoint text)
        progress.persisted = .ok progress'.persisted := by
  induction entries generalizing progress with
  | nil =>
    cases h
    exact ⟨[], rfl, nofun, (append_nil _).symm, rfl⟩
  | cons entry entries ih =>
    obtain ⟨key, endpoint⟩ := entry
    obtain ⟨next, added, rest⟩ := bind_ok.mp h
    obtain ⟨canonical, isCanonical, inserted, reloaded⟩ := addEndpoint_spec added
    have last : next.endpoints.entries = progress.endpoints.entries ++ [(key, canonical)] := by
      rw [inserted]
      exact insertEntry_last fun e mem =>
        (pairwise_append.mp sorted).2.2 e mem (key, endpoint) mem_cons_self
    have sorted' : (next.endpoints.entries ++ entries).Pairwise fun a b => a.1 < b.1 := by
      have keys := fun l : List (EndpointID × Endpoint) =>
        (pairwise_map : (l.map Prod.fst).Pairwise (· < ·) ↔ _)
      rw [last, ← keys]
      rw [← keys] at sorted
      simpa using sorted
    obtain ⟨others, length, areCanonical, all, reloadedAll⟩ := ih sorted' rest
    refine ⟨(key, canonical) :: others, by rw [length_cons, length_cons, length],
      forall_mem_cons.mpr ⟨isCanonical, areCanonical⟩, ?_, ?_⟩
    · rw [all, last, List.append_assoc]
      rfl
    · exact bind_ok.mpr ⟨next.persisted, reloaded, reloadedAll⟩

end Loop

section Normalize

variable {registry normalized : Registry}

/-- A registry as `Normalize` leaves it. -/
structure Canonical (text : GoText) (registry : Registry) : Prop where
  version : registry.version = registryVersion
  default : trimSpace registry.default = registry.default
  endpoints : ∀ entry ∈ registry.endpoints.entries, CanonicalEndpoint text entry.1 entry.2
  normalize : registry.persisted.normalize text = .ok registry.persisted

theorem checkDefault_spec (h : checkDefault text registry = .ok normalized) :
    normalized = registry ∧ (∃ endpoint, (registry.default, endpoint) ∈ registry.endpoints.entries) ∧
      checkDefault text registry.persisted = .ok registry.persisted := by
  unfold checkDefault at h ⊢
  rw [seq_ok, check_ok] at h
  obtain ⟨given, found⟩ := h
  split at found
  · cases found
  next endpoint known =>
  rw [seq_ok, check_ok] at found
  obtain ⟨enabled, same⟩ := found
  cases same
  have known' : registry.persisted.endpoints.lookup registry.persisted.default =
      some endpoint.persisted := by
    show (registry.endpoints.mapValues _).lookup registry.default = _
    rw [lookup_mapValues, known]
    rfl
  refine ⟨rfl, ⟨endpoint, lookup_eq_some.mp known⟩, ?_⟩
  rw [known', seq_ok, check_ok]
  rw [seq_ok, check_ok]
  exact ⟨given, enabled, rfl⟩

/-- `Normalize` on a registry that is not empty, as its loop and its last check. -/
theorem normalize_ok (progress : Progress) (version : registry.version = registryVersion)
    (nonempty : registry.endpoints.entries.isEmpty = false)
    (added : registry.endpoints.entries.foldlM (addEndpoint text) ⟨.empty, .empty, .empty⟩ =
      .ok progress)
    (checked : checkDefault text ⟨registryVersion, trimSpace registry.default, progress.endpoints⟩ =
      .ok normalized) :
    registry.normalize text = .ok normalized := by
  unfold normalize
  rw [if_neg fun bad => bad.2 version, nonempty]
  exact bind_ok.mpr ⟨progress, added, checked⟩

theorem normalize_canonical (h : registry.normalize text = .ok normalized) :
    Canonical text normalized := by
  unfold normalize at h
  split at h
  · cases h
  split at h
  · rw [seq_ok] at h
    obtain ⟨-, same⟩ := h
    cases same
    exact ⟨rfl, by decide, forall_mem_nil _, rfl⟩
  next nonempty =>
  obtain ⟨progress, added, checked⟩ := bind_ok.mp h
  have sorted : ((⟨.empty, .empty, .empty⟩ : Progress).endpoints.entries ++
      registry.endpoints.entries).Pairwise fun a b => a.1 < b.1 := registry.endpoints.sorted
  obtain ⟨canonical, length, areCanonical, entries, reloaded⟩ := addEndpoints_spec sorted added
  obtain ⟨same, ⟨endpoint, mem⟩, reloadedDefault⟩ := checkDefault_spec checked
  change progress.endpoints.entries = canonical at entries
  rw [entries] at mem
  have trimmed := trimSpace_identifier (areCanonical _ mem).identifier
  rw [same]
  refine ⟨rfl, trimmed, ?_, ?_⟩
  · rw [entries]
    exact areCanonical
  · have kept : (progress.endpoints.mapValues Endpoint.persisted).entries =
        canonical.map fun entry => (entry.1, entry.2.persisted) := congrArg (List.map _) entries
    refine normalize_ok progress.persisted rfl ?_ ?_ ?_
    · show (progress.endpoints.mapValues Endpoint.persisted).entries.isEmpty = false
      rw [kept, isEmpty_map, isEmpty_eq_false_iff, ← length_pos_iff, length,
        length_pos_iff]
      simpa using nonempty
    · show (progress.endpoints.mapValues Endpoint.persisted).entries.foldlM _ _ = _
      rw [kept]
      exact reloaded
    · show checkDefault text ⟨_, trimSpace (trimSpace registry.default), _⟩ = _
      rw [trimmed]
      exact reloadedDefault

end Normalize

end Registry

end Anytty.Connection
