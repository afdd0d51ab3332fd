import Anytty.LineHist.Codec

/-!
# The decoder on every input

A reader is `Stable` if it takes a prefix of its input and does the same whatever follows.  All
readers of the codec are, so that a block that decodes does not decode with more bytes behind it.
The extensions of an encoding are therefore rejected, and so are its prefixes, because the encoding
itself decodes.  The last part bounds what is reserved before a block is known to be valid.
-/

namespace Anytty.LineHist

open Anytty.Wire List

section Stable

variable {α β : Type} {payload rest : Bytes}

/-- The reader takes a prefix of its input, and what follows does not change what it reads. -/
def Stable (decode : Bytes → Except String (α × Bytes)) : Prop :=
  ∀ payload rest value, decode payload = .ok (value, rest) →
    rest <:+ payload ∧ ∀ more, decode (payload ++ more) = .ok (value, rest ++ more)

theorem Stable.pure (value : α) : Stable fun payload => .ok (value, payload) := by
  rintro _ _ _ ⟨⟩
  exact ⟨suffix_rfl, fun _ => rfl⟩

theorem Stable.bind {first : Bytes → Except String (α × Bytes)}
    {next : α × Bytes → Except String (β × Bytes)} (head : Stable first)
    (tail : ∀ value, Stable fun payload => next (value, payload)) :
    Stable fun payload => first payload >>= next := by
  intro payload rest value done
  obtain ⟨⟨taken, middle⟩, read, done⟩ := ok_of_bind done
  obtain ⟨inner, more⟩ := head _ _ _ read
  obtain ⟨outer, others⟩ := tail taken _ _ _ done
  refine ⟨outer.trans inner, fun bytes => ?_⟩
  dsimp only
  rw [more bytes]
  exact others bytes

theorem takeByte_stable (error : String) : Stable (takeByte error) := by
  intro payload rest byte taken
  cases payload with
  | nil => cases taken
  | cons first payload =>
    cases taken
    exact ⟨suffix_cons .., fun _ => rfl⟩

theorem takeTimestamp_stable : Stable takeTimestamp := by
  intro payload rest updatedAt taken
  obtain ⟨⟨value, rest⟩, read, same⟩ := Option.map_eq_some_iff.1 (takeTimestamp_eq_ok.1 taken)
  cases same
  obtain ⟨inner, more⟩ := uvarint_append read
  refine ⟨inner, fun bytes => takeTimestamp_eq_ok.2 ?_⟩
  rw [varint, more bytes]
  rfl

theorem takeCount_stable (invalid exceeds : String) : Stable (takeCount invalid exceeds) := by
  intro payload rest count taken
  obtain ⟨read, room⟩ := takeCount_eq_ok.1 taken
  obtain ⟨inner, more⟩ := uvarint_append read
  refine ⟨inner, fun bytes => takeCount_eq_ok.2 ⟨more bytes, ?_⟩⟩
  rw [length_append]
  exact Nat.le_add_right_of_le room

theorem takeCompactString_stable : Stable takeCompactString := by
  intro payload rest value taken
  have read := takeCompactString_eq_ok.1 taken
  obtain ⟨inner, more⟩ := uvarint_append read
  refine ⟨(suffix_append value rest).trans inner, fun bytes => takeCompactString_eq_ok.2 ?_⟩
  rw [more bytes, List.append_assoc]

theorem decodeMany_stable {decode : Bytes → Except String (α × Bytes)} (each : Stable decode)
    (count : Nat) : Stable (decodeMany decode count) := by
  induction count with
  | zero => exact Stable.pure []
  | succ count ih => exact each.bind fun item => ih.bind fun items => Stable.pure (item :: items)

theorem decodeRun_stable : Stable decodeRun :=
  takeCompactString_stable.bind fun _ => takeCompactString_stable.bind fun _ =>
    takeCompactString_stable.bind fun _ => (takeByte_stable _).bind fun _ =>
      takeCompactString_stable.bind fun _ => takeCompactString_stable.bind fun _ => Stable.pure _

theorem decodeLine_stable : Stable decodeLine :=
  (takeByte_stable _).bind fun _ => takeTimestamp_stable.bind fun _ =>
    (takeCount_stable _ _).bind fun count => (decodeMany_stable decodeRun_stable count).bind
      fun _ => Stable.pure _

end Stable

theorem decodeCompactLines_append {payload more : Bytes} {lines : List Line}
    (decoded : decodeCompactLines payload = .ok lines) (extended : more ≠ []) :
    decodeCompactLines (payload ++ more) = .error "compact history block has trailing bytes" := by
  unfold decodeCompactLines at decoded ⊢
  obtain ⟨⟨count, p₁⟩, counted, decoded⟩ := ok_of_bind decoded
  obtain ⟨⟨items, p₂⟩, read, decoded⟩ := ok_of_bind decoded
  rw [(takeCount_stable _ _ _ _ _ counted).2 more]
  show (decodeMany decodeLine count (p₁ ++ more) >>= _) = _
  rw [(decodeMany_stable decodeLine_stable count _ _ _ read).2 more]
  exact if_pos fun empty => extended (append_eq_nil_iff.1 empty).2

/-! ### What is reserved -/

/-- The runs that are reserved for a number of lines, up to the first error. -/
def reservedRuns : Nat → Bytes → Nat
  | 0, _ => 0
  | count + 1, payload =>
    let header : Except String (Nat × Bytes) := do
      let (_, payload) ← takeByte "truncated compact history line" payload
      let (_, payload) ← takeTimestamp payload
      takeCount "invalid compact history run count" "compact history run count exceeds block" payload
    match header with
    | .error _ => 0
    | .ok (runCount, payload) =>
      runCount +
        match decodeMany decodeRun runCount payload with
        | .error _ => 0
        | .ok (_, payload) => reservedRuns count payload

/-- The lines and the runs that `decodeCompactLines` reserves, whether it fails or not. -/
def reserved (payload : Bytes) : Nat × Nat :=
  match takeCount "invalid compact history line count" "compact history line count exceeds block"
    payload with
  | .error _ => (0, 0)
  | .ok (lineCount, payload) => (lineCount, reservedRuns lineCount payload)

theorem takeCount_le {invalid exceeds : String} {payload rest : Bytes} {count : Nat}
    (taken : takeCount invalid exceeds payload = .ok (count, rest)) :
    count ≤ rest.length ∧ rest.length ≤ payload.length :=
  ⟨(takeCount_eq_ok.1 taken).2, (takeCount_stable _ _ _ _ _ taken).1.length_le⟩

theorem decodeRuns_length {payload rest : Bytes} {runs : List Run} {count : Nat}
    (decoded : decodeMany decodeRun count payload = .ok (runs, rest)) :
    count + rest.length ≤ payload.length := by
  obtain ⟨length, size⟩ := @decodeMany_size _ _ _ _ _ (fun _ => 1) (fun {payload rest run} read => by
    have size := decodeRun_size read
    unfold compactRunEncodedSize at size
    omega) _ decoded
  rwa [map_const', sum_replicate_nat, Nat.mul_one, length] at size

theorem reservedRuns_le (count : Nat) (payload : Bytes) :
    reservedRuns count payload ≤ payload.length := by
  induction count generalizing payload with
  | zero => exact Nat.zero_le _
  | succ count ih =>
    rw [reservedRuns]
    split
    · exact Nat.zero_le _
    next runCount runs read =>
    obtain ⟨⟨_, p₁⟩, first, read⟩ := ok_of_bind read
    obtain ⟨⟨_, p₂⟩, second, read⟩ := ok_of_bind read
    have s₁ := (takeByte_stable _ payload p₁ _ first).1.length_le
    have s₂ := (takeTimestamp_stable p₁ p₂ _ second).1.length_le
    have s₃ := @takeCount_le _ _ p₂ _ _ read
    split
    · omega
    next rest decoded =>
    have taken := decodeRuns_length decoded
    have others := ih rest
    omega

theorem reserved_le (payload : Bytes) :
    (reserved payload).1 ≤ payload.length ∧ (reserved payload).2 ≤ payload.length := by
  unfold reserved
  split
  · exact ⟨Nat.zero_le _, Nat.zero_le _⟩
  next count rest counted =>
  obtain ⟨room, shorter⟩ := takeCount_le counted
  exact ⟨room.trans shorter, (reservedRuns_le count rest).trans shorter⟩

/-! ### The codec -/

/-- The decoded line has the runs, the end and the time of the line, up to the zero time. -/
structure Line.Decodes (line decoded : Line) : Prop where
  runs : decoded.runs = line.runs
  hardEnd : decoded.hardEnd = line.hardEnd
  updatedAt : unixNanoOrZero decoded.updatedAt = unixNanoOrZero line.updatedAt

/-- The bytes that are cut off are there: those of a number, and those that a string announces. -/
structure InRange (payload : Bytes) : Prop where
  number : ∀ value rest, uvarint payload = some (value, rest) → rest <:+ payload
  string : ∀ value rest, takeCompactString payload = .ok (value, rest) →
    uvarint payload = some (value.length, value ++ rest)

/-- The lines come back, the size is the length of the encoding, no strict prefix and no extension
of the encoding decodes, and on every input the decoder stays within it and reserves no more lines
or runs than it has bytes. -/
theorem compact_codec (lines : List Line) (count : lines.length < 2 ^ 64)
    (fits : ∀ line ∈ lines, line.Fits) :
    (∃ decoded, decodeCompactLines (encodeCompactLines lines) = .ok decoded ∧
      Forall₂ Line.Decodes lines decoded) ∧
    compactLinesEncodedSize lines = (encodeCompactLines lines).length ∧
    (∀ payload, payload <+: encodeCompactLines lines → payload ≠ encodeCompactLines lines →
      ∃ message, decodeCompactLines payload = .error message) ∧
    (∀ more, more ≠ [] →
      ∃ message, decodeCompactLines (encodeCompactLines lines ++ more) = .error message) ∧
    ∀ payload, InRange payload ∧ (reserved payload).1 ≤ payload.length ∧
      (reserved payload).2 ≤ payload.length := by
  have decoded := decodeCompactLines_encodeCompactLines count fits
  refine ⟨⟨_, decoded, ?_⟩, (encodeCompactLines_length lines).symm, ?_, ?_, fun payload => ?_⟩
  · refine forall₂_map_right_iff.2 (forall₂_same.2 fun line _ => ⟨rfl, rfl, ?_⟩)
    obtain ⟨low, high⟩ := unixNanoOrZero_range line.updatedAt
    exact unixNanoOrZero_decodedTime low high
  · rintro payload ⟨more, whole⟩ strict
    cases read : decodeCompactLines payload with
    | error message => exact ⟨message, rfl⟩
    | ok items =>
      have extended : more ≠ [] := by
        rintro rfl
        exact strict ((append_nil payload).symm.trans whole)
      rw [← whole, decodeCompactLines_append read extended] at decoded
      cases decoded
  · exact fun more extended => ⟨_, decodeCompactLines_append decoded extended⟩
  · refine ⟨⟨fun value rest read => (uvarint_append read).1, fun value rest taken => ?_⟩,
      reserved_le payload⟩
    exact takeCompactString_eq_ok.1 taken

/-- An empty line at the Unix epoch comes back with the zero time; a byte less does not decode. -/
theorem compact_codec_epoch :
    (∃ message, decodeCompactLines [1, 1, 0] = .error message) ∧
      ∃ decoded, decodeCompactLines [1, 1, 0, 0] = .ok decoded ∧
        Forall₂ Line.Decodes [⟨[], true, .unix 0⟩] decoded := by
  have encoding : encodeCompactLines [⟨[], true, .unix 0⟩] = [1, 1, 0, 0] := by
    have time : unixNanoOrZero (.unix 0) = 0 := by decide
    simp [encodeCompactLines, encodeLine, putVarint, time, putUvarint, zigzag, hardEndFlag]
  obtain ⟨round, -, strict, -⟩ := compact_codec [⟨[], true, .unix 0⟩] (by decide) (by
    simp [Line.Fits])
  rw [encoding] at round strict
  exact ⟨strict _ ⟨[0], rfl⟩ (by decide), round⟩

end Anytty.LineHist
