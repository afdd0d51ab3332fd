import Anytty.LineHist.Line

/-!
# The compact line codec

A block of lines is encoded as a count followed by the lines: a flag byte, the timestamp as a
signed variable length integer, the number of runs and the runs.  The decoder checks every length
against the bytes that are left.

Two facts are used by the block file.  `decodeCompactLines_encodeCompactLines` is the round trip:
decoding gives the encoded lines back, with `storedTime` for their timestamps.
`decodeCompactLines_size_le` bounds what any accepted payload can hold, whoever wrote it: the
canonical encoding of the decoded lines is never longer than the payload.
-/

namespace Anytty.LineHist

open Anytty.Wire List

variable {payload rest : Bytes} {run : Run} {line : Line} {count : Nat}

/-! ### Encoding -/

/-- The bits of the style flags, lowest first. -/
def flagBits : List Bool → Nat
  | [] => 0
  | flag :: rest => flag.toNat + 2 * flagBits rest

def compactStyleFlags (style : CellStyle) : UInt8 :=
  UInt8.ofNat (flagBits [style.bold, style.italic, style.underline, style.blink, style.reverse,
    style.strikethrough])

def applyCompactStyleFlags (style : CellStyle) (flags : UInt8) : CellStyle :=
  { style with
    bold := flags.toNat.testBit 0
    italic := flags.toNat.testBit 1
    underline := flags.toNat.testBit 2
    blink := flags.toNat.testBit 3
    reverse := flags.toNat.testBit 4
    strikethrough := flags.toNat.testBit 5 }

def appendCompactString (value : Bytes) : Bytes := putUvarint value.length ++ value

def unixNanoOrZero (value : Time) : Int := if value.isZero then 0 else value.unixNano

def encodeRun (run : Run) : Bytes :=
  appendCompactString run.text ++ (appendCompactString run.style.fg ++
    (appendCompactString run.style.bg ++ (compactStyleFlags run.style ::
      (appendCompactString run.linkURL ++ appendCompactString run.linkParams))))

def hardEndFlag (hardEnd : Bool) : UInt8 := if hardEnd then 1 else 0

def encodeLine (line : Line) : Bytes :=
  hardEndFlag line.hardEnd :: (putVarint (unixNanoOrZero line.updatedAt) ++
    (putUvarint line.runs.length ++ line.runs.flatMap encodeRun))

def encodeCompactLines (lines : List Line) : Bytes :=
  putUvarint lines.length ++ lines.flatMap encodeLine

/-! ### Sizes -/

def compactStringSize (value : Bytes) : Nat := uvarintSize value.length + value.length

def compactRunEncodedSize (run : Run) : Nat :=
  ([run.text, run.style.fg, run.style.bg, run.linkURL, run.linkParams].map compactStringSize).sum + 1

def compactLineEncodedSize (line : Line) : Nat :=
  1 + varintSize (unixNanoOrZero line.updatedAt) + uvarintSize line.runs.length +
    (line.runs.map compactRunEncodedSize).sum

def compactLinesEncodedSize (lines : List Line) : Nat :=
  uvarintSize lines.length + (lines.map compactLineEncodedSize).sum

/-! ### Decoding -/

def takeCompactString (payload : Bytes) : Except String (Bytes × Bytes) :=
  match uvarint payload with
  | none => .error "invalid compact history string length"
  | some (length, payload) =>
    if length > payload.length then .error "compact history string exceeds block"
    else .ok (payload.take length, payload.drop length)

def takeByte (error : String) (payload : Bytes) : Except String (UInt8 × Bytes) :=
  match payload with
  | [] => .error error
  | byte :: payload => .ok (byte, payload)

def decodeRun (payload : Bytes) : Except String (Run × Bytes) := do
  let (text, payload) ← takeCompactString payload
  let (fg, payload) ← takeCompactString payload
  let (bg, payload) ← takeCompactString payload
  let (flags, payload) ← takeByte "truncated compact history style" payload
  let (linkURL, payload) ← takeCompactString payload
  let (linkParams, payload) ← takeCompactString payload
  return (⟨text, applyCompactStyleFlags { fg, bg } flags, linkURL, linkParams⟩, payload)

/-- Decode a number of items one after the other. -/
def decodeMany {α : Type} (decode : Bytes → Except String (α × Bytes)) :
    Nat → Bytes → Except String (List α × Bytes)
  | 0, payload => .ok ([], payload)
  | count + 1, payload => do
    let (item, payload) ← decode payload
    let (items, payload) ← decodeMany decode count payload
    return (item :: items, payload)

/-- A count that may not exceed the bytes left. -/
def takeCount (invalid exceeds : String) (payload : Bytes) : Except String (Nat × Bytes) :=
  match uvarint payload with
  | none => .error invalid
  | some (count, payload) =>
    if count > payload.length then .error exceeds else .ok (count, payload)

def takeTimestamp (payload : Bytes) : Except String (Int × Bytes) :=
  match varint payload with
  | none => .error "invalid compact history timestamp"
  | some read => .ok read

/-- The decoded timestamp: zero stands for the zero time. -/
def decodedTime (updatedAt : Int) : Time := if updatedAt ≠ 0 then .unix updatedAt else .zero

def decodeLine (payload : Bytes) : Except String (Line × Bytes) := do
  let (flags, payload) ← takeByte "truncated compact history line" payload
  let (updatedAt, payload) ← takeTimestamp payload
  let (runCount, payload) ← takeCount "invalid compact history run count"
    "compact history run count exceeds block" payload
  let (runs, payload) ← decodeMany decodeRun runCount payload
  return (⟨runs, flags.toNat.testBit 0, decodedTime updatedAt⟩, payload)

def decodeCompactLines (payload : Bytes) : Except String (List Line) := do
  let (lineCount, payload) ← takeCount "invalid compact history line count"
    "compact history line count exceeds block" payload
  let (lines, payload) ← decodeMany decodeLine lineCount payload
  if payload ≠ [] then .error "compact history block has trailing bytes" else return lines

/-! ### Lengths of encodings -/

theorem appendCompactString_length (value : Bytes) :
    (appendCompactString value).length = compactStringSize value := by
  rw [appendCompactString, length_append, putUvarint_length, compactStringSize]

theorem encodeRun_length (run : Run) : (encodeRun run).length = compactRunEncodedSize run := by
  simp only [encodeRun, compactRunEncodedSize, length_append, length_cons,
    appendCompactString_length, map_cons, map_nil, sum_cons, sum_nil]
  omega

variable {α : Type} {value : Bytes} {lines : List Line} {updatedAt : Int} {encode : α → Bytes}

theorem flatMap_length {size : α → Nat}
    (length : ∀ item, (encode item).length = size item) (items : List α) :
    (items.flatMap encode).length = (items.map size).sum := by
  rw [length_flatMap]
  exact congrArg List.sum (map_congr_left fun item _ => length item)

theorem encodeLine_length (line : Line) :
    (encodeLine line).length = compactLineEncodedSize line := by
  simp only [encodeLine, compactLineEncodedSize, length_append, length_cons,
    putVarint_length, putUvarint_length, flatMap_length encodeRun_length]
  omega

theorem encodeCompactLines_length (lines : List Line) :
    (encodeCompactLines lines).length = compactLinesEncodedSize lines := by
  rw [encodeCompactLines, length_append, putUvarint_length, flatMap_length encodeLine_length,
    compactLinesEncodedSize]

/-! ### The round trip -/

/-- A string is the bytes that its length announces. -/
theorem takeCompactString_eq_ok :
    takeCompactString payload = .ok (value, rest) ↔
      uvarint payload = some (value.length, value ++ rest) := by
  unfold takeCompactString
  constructor
  · intro taken
    split at taken
    · cases taken
    next length payload read =>
    split at taken
    · cases taken
    next room =>
    cases taken
    rw [read, take_append_drop, length_take, Nat.min_eq_left (Nat.le_of_not_gt room)]
  · intro read
    rw [read]
    simp

theorem takeCompactString_append (rest : Bytes) (bound : value.length < 2 ^ 64) :
    takeCompactString (appendCompactString value ++ rest) = .ok (value, rest) := by
  rw [takeCompactString_eq_ok, appendCompactString, List.append_assoc, uvarint_putUvarint _ bound]

theorem applyCompactStyleFlags_compactStyleFlags (style : CellStyle) :
    applyCompactStyleFlags { fg := style.fg, bg := style.bg } (compactStyleFlags style) = style := by
  obtain ⟨fg, bg, bold, italic, underline, blink, reverse, strikethrough⟩ := style
  revert bold italic underline blink reverse strikethrough
  simp only [applyCompactStyleFlags, compactStyleFlags, CellStyle.mk.injEq, true_and]
  decide

/-- Every length the run writes fits the counter it is written with. -/
def Run.Fits (run : Run) : Prop :=
  ∀ value ∈ [run.text, run.style.fg, run.style.bg, run.linkURL, run.linkParams],
    value.length < 2 ^ 64

theorem decodeRun_encodeRun (fits : run.Fits) (rest : Bytes) :
    decodeRun (encodeRun run ++ rest) = .ok (run, rest) := by
  simp only [Run.Fits, forall_mem_cons] at fits
  obtain ⟨text, fg, bg, linkURL, linkParams, -⟩ := fits
  simp [decodeRun, encodeRun, List.append_assoc, takeCompactString_append _ text,
    takeCompactString_append _ fg, takeCompactString_append _ bg,
    takeCompactString_append _ linkURL, takeCompactString_append _ linkParams, takeByte, bind,
    Except.bind, pure, Except.pure, applyCompactStyleFlags_compactStyleFlags]

theorem decodeMany_flatMap (image : α → α)
    {decode : Bytes → Except String (α × Bytes)} (items : List α) (rest : Bytes)
    (each : ∀ item ∈ items, ∀ rest, decode (encode item ++ rest) = .ok (image item, rest)) :
    decodeMany decode items.length (items.flatMap encode ++ rest) =
      .ok (items.map image, rest) := by
  induction items with
  | nil => rfl
  | cons item items ih =>
    have first := each item mem_cons_self (items.flatMap encode ++ rest)
    have others := ih fun other mem => each other (mem_cons_of_mem _ mem)
    simp [decodeMany, List.append_assoc, first, others, bind, Except.bind, pure, Except.pure]

theorem takeCount_eq_ok {invalid exceeds : String} :
    takeCount invalid exceeds payload = .ok (count, rest) ↔
      uvarint payload = some (count, rest) ∧ count ≤ rest.length := by
  unfold takeCount
  constructor
  · intro taken
    split at taken
    · cases taken
    next read =>
    split at taken
    · cases taken
    next room =>
    cases taken
    exact ⟨read, Nat.le_of_not_gt room⟩
  · rintro ⟨read, room⟩
    rw [read]
    exact if_neg (Nat.not_lt.mpr room)

theorem takeCount_putUvarint (invalid exceeds : String) (rest : Bytes) (bound : count < 2 ^ 64)
    (room : count ≤ rest.length) :
    takeCount invalid exceeds (putUvarint count ++ rest) = .ok (count, rest) :=
  takeCount_eq_ok.2 ⟨uvarint_putUvarint _ bound, room⟩

/-- A list of items that each take at least one byte is no longer than its encoding. -/
theorem length_le_flatMap (some_byte : ∀ item, encode item ≠ [])
    (items : List α) : items.length ≤ (items.flatMap encode).length := by
  induction items with
  | nil => exact Nat.le_refl _
  | cons item items ih =>
    have pos := length_pos_iff.mpr (some_byte item)
    rw [length_cons, flatMap_cons, length_append]
    omega

theorem encodeRun_ne_nil (run : Run) : encodeRun run ≠ [] := by
  simp [encodeRun]

theorem encodeLine_ne_nil (line : Line) : encodeLine line ≠ [] := by
  simp [encodeLine]

theorem unixNanoOrZero_range (value : Time) :
    -2 ^ 63 ≤ unixNanoOrZero value ∧ unixNanoOrZero value < 2 ^ 63 := by
  unfold unixNanoOrZero
  split
  · decide
  have low := Int.le_bmod (x := value.nanos - unixEpoch) (m := 2 ^ 64) (by decide)
  have high := Int.bmod_lt (x := value.nanos - unixEpoch) (m := 2 ^ 64) (by decide)
  unfold Time.unixNano
  constructor <;> omega

/-- What a timestamp becomes once it was written and read back. -/
def storedTime (value : Time) : Time := decodedTime (unixNanoOrZero value)

def Line.stored (line : Line) : Line := { line with updatedAt := storedTime line.updatedAt }

/-- Every length the line writes fits the counter it is written with. -/
def Line.Fits (line : Line) : Prop := line.runs.length < 2 ^ 64 ∧ ∀ run ∈ line.runs, run.Fits

theorem decodeLine_encodeLine (fits : line.Fits) (rest : Bytes) :
    decodeLine (encodeLine line ++ rest) = .ok (line.stored, rest) := by
  have timestamp := unixNanoOrZero_range line.updatedAt
  have room : line.runs.length ≤ (line.runs.flatMap encodeRun ++ rest).length := by
    have := length_le_flatMap encodeRun_ne_nil line.runs
    rw [length_append]
    omega
  have runs := decodeMany_flatMap id line.runs rest
    fun run mem rest => decodeRun_encodeRun (fits.2 run mem) rest
  have flag : (hardEndFlag line.hardEnd).toNat.testBit 0 = line.hardEnd := by
    cases line.hardEnd <;> rfl
  simp only [decodeLine, encodeLine, cons_append, List.append_assoc, takeByte, takeTimestamp,
    varint_putVarint _ timestamp.1 timestamp.2, takeCount_putUvarint _ _ _ fits.1 room, runs, flag,
    map_id, bind, Except.bind, pure, Except.pure]
  rfl

theorem decodeCompactLines_encodeCompactLines
    (count : lines.length < 2 ^ 64) (fits : ∀ line ∈ lines, line.Fits) :
    decodeCompactLines (encodeCompactLines lines) = .ok (lines.map Line.stored) := by
  have room := length_le_flatMap encodeLine_ne_nil lines
  have decoded := decodeMany_flatMap Line.stored lines [] fun line mem rest =>
    decodeLine_encodeLine (fits line mem) rest
  rw [append_nil] at decoded
  simp only [decodeCompactLines, encodeCompactLines, takeCount_putUvarint _ _ _ count room,
    decoded, bind, Except.bind, pure, Except.pure]
  rfl

/-! ### What an accepted payload can hold -/

theorem ok_of_bind {β : Type} {first : Except String α} {next : α → Except String β} {result : β}
    (done : (first >>= next) = .ok result) : ∃ value, first = .ok value ∧ next value = .ok result := by
  cases first with
  | error message => cases done
  | ok value => exact ⟨value, rfl, done⟩

theorem takeCompactString_size (taken : takeCompactString payload = .ok (value, rest)) :
    compactStringSize value + rest.length ≤ payload.length := by
  have shorter := uvarint_size_le (takeCompactString_eq_ok.1 taken)
  rw [length_append] at shorter
  rw [compactStringSize]
  omega

theorem takeByte_size {error : String} {byte : UInt8}
    (taken : takeByte error payload = .ok (byte, rest)) : rest.length + 1 = payload.length := by
  cases payload with
  | nil => cases taken
  | cons first payload => cases taken; rfl

theorem takeTimestamp_eq_ok :
    takeTimestamp payload = .ok (updatedAt, rest) ↔ varint payload = some (updatedAt, rest) := by
  unfold takeTimestamp
  cases varint payload <;> simp

theorem decodeRun_size (decoded : decodeRun payload = .ok (run, rest)) :
    compactRunEncodedSize run + rest.length ≤ payload.length := by
  obtain ⟨⟨text, p₁⟩, h₁, decoded⟩ := ok_of_bind decoded
  obtain ⟨⟨fg, p₂⟩, h₂, decoded⟩ := ok_of_bind decoded
  obtain ⟨⟨bg, p₃⟩, h₃, decoded⟩ := ok_of_bind decoded
  obtain ⟨⟨flags, p₄⟩, h₄, decoded⟩ := ok_of_bind decoded
  obtain ⟨⟨linkURL, p₅⟩, h₅, decoded⟩ := ok_of_bind decoded
  obtain ⟨⟨linkParams, p₆⟩, h₆, decoded⟩ := ok_of_bind decoded
  cases decoded
  have s₁ := takeCompactString_size h₁
  have s₂ := takeCompactString_size h₂
  have s₃ := takeCompactString_size h₃
  have s₄ := takeByte_size h₄
  have s₅ := takeCompactString_size h₅
  have s₆ := takeCompactString_size h₆
  simp only [compactRunEncodedSize, applyCompactStyleFlags, map_cons, map_nil,
    sum_cons, sum_nil]
  omega

theorem decodeMany_size {α : Type} {decode : Bytes → Except String (α × Bytes)} {size : α → Nat}
    (each : ∀ {payload rest item}, decode payload = .ok (item, rest) →
      size item + rest.length ≤ payload.length) {items : List α}
    (decoded : decodeMany decode count payload = .ok (items, rest)) :
    items.length = count ∧ (items.map size).sum + rest.length ≤ payload.length := by
  induction count generalizing payload items with
  | zero =>
    cases decoded
    simp
  | succ count ih =>
    obtain ⟨⟨item, p₁⟩, h₁, decoded⟩ := ok_of_bind decoded
    obtain ⟨⟨others, p₂⟩, h₂, decoded⟩ := ok_of_bind decoded
    cases decoded
    have first := each h₁
    obtain ⟨length, size_le⟩ := ih h₂
    rw [length_cons, map_cons, sum_cons]
    omega

/-- The decoder never produces a timestamp that would be written differently. -/
theorem unixNanoOrZero_decodedTime (low : -2 ^ 63 ≤ updatedAt)
    (high : updatedAt < 2 ^ 63) : unixNanoOrZero (decodedTime updatedAt) = updatedAt := by
  unfold decodedTime
  split
  · have some_time : (Time.unix updatedAt).isZero = false := by
      refine decide_eq_false ?_
      simp only [Time.unix, unixEpoch]
      omega
    have nanos : (Time.unix updatedAt).nanos - unixEpoch = updatedAt := by
      simp [Time.unix]
    rw [unixNanoOrZero, some_time, Time.unixNano, nanos]
    exact Int.bmod_eq_of_le (by omega) (by omega)
  · next zero =>
    rw [not_not] at zero
    rw [zero]
    rfl

theorem decodeLine_size (decoded : decodeLine payload = .ok (line, rest)) :
    compactLineEncodedSize line + rest.length ≤ payload.length := by
  obtain ⟨⟨flags, p₁⟩, h₁, decoded⟩ := ok_of_bind decoded
  obtain ⟨⟨updatedAt, p₂⟩, h₂, decoded⟩ := ok_of_bind decoded
  obtain ⟨⟨runCount, p₃⟩, h₃, decoded⟩ := ok_of_bind decoded
  obtain ⟨⟨runs, p₄⟩, h₄, decoded⟩ := ok_of_bind decoded
  cases decoded
  have s₁ := takeByte_size h₁
  obtain ⟨s₂, low, high⟩ := varint_size_le (takeTimestamp_eq_ok.1 h₂)
  have s₃ := uvarint_size_le (takeCount_eq_ok.1 h₃).1
  obtain ⟨length, s₄⟩ := decodeMany_size decodeRun_size h₄
  rw [compactLineEncodedSize, unixNanoOrZero_decodedTime low high]
  simp only [length]
  omega

/-- Whatever payload the decoder accepts, the canonical encoding of its lines is no longer. -/
theorem decodeCompactLines_size_le (decoded : decodeCompactLines payload = .ok lines) :
    compactLinesEncodedSize lines ≤ payload.length := by
  obtain ⟨⟨lineCount, p₁⟩, h₁, decoded⟩ := ok_of_bind decoded
  obtain ⟨⟨items, p₂⟩, h₂, decoded⟩ := ok_of_bind decoded
  have s₁ := uvarint_size_le (takeCount_eq_ok.1 h₁).1
  obtain ⟨length, s₂⟩ := decodeMany_size decodeLine_size h₂
  have items_eq : items = lines := by
    by_cases trailing : p₂ ≠ []
    · simp [trailing] at decoded
    · simpa [trailing, pure, Except.pure] using decoded
  rw [← items_eq, compactLinesEncodedSize, length]
  omega

/-! ### Lengths of what fits a block -/

theorem length_le_compactStringSize (value : Bytes) : value.length ≤ compactStringSize value :=
  Nat.le_add_left _ _

theorem Run.fits_of_size (bound : compactRunEncodedSize run < 2 ^ 64) : run.Fits := by
  intro value mem
  have part := le_sum_of_mem (mem_map_of_mem (f := compactStringSize) mem)
  have := length_le_compactStringSize value
  unfold compactRunEncodedSize at bound
  omega

theorem Line.fits_of_size (bound : compactLineEncodedSize line < 2 ^ 64) : line.Fits := by
  unfold compactLineEncodedSize at bound
  constructor
  · have := length_le_flatMap encodeRun_ne_nil line.runs
    rw [flatMap_length encodeRun_length] at this
    omega
  · intro run mem
    have part := le_sum_of_mem (mem_map_of_mem (f := compactRunEncodedSize) mem)
    exact Run.fits_of_size (by omega)

end Anytty.LineHist
