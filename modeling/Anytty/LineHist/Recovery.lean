import Anytty.LineHist.Log
import Anytty.LineHist.Reading

/-!
# The walk over the headers of a line file

The headers a file is written with are read back by an independent parser with limits of its own.
`recoverLoop_encode` and `recoverLoop_encode_oversize` say what the walk over a log gives: it goes
through to the end and finds all lines, unless a block is longer than
`compressedBlockMaxRawBytes`, where it fails.  The last section bounds what any file that opens,
whatever its bytes are, can hold.
-/

namespace Anytty.LineHist

open Anytty.Wire List

/-! ### One header -/

theorem field_putLE (width value : Nat) (rest : Bytes) :
    field width (putLE width value ++ rest) = (value % 256 ^ width, rest) := by
  rw [field, take_left' (putLE_length width value), drop_left' (putLE_length width value),
    getLE_putLE]

theorem field_byte (byte : UInt8) (rest : Bytes) : field 1 (byte :: rest) = (byte.toNat, rest) := by
  simp [field, getLE]

theorem makeCompressedBlockHeader_length (header : BlockHeader) :
    (makeCompressedBlockHeader header).length = compressedBlockHeaderSize := by
  simp [makeCompressedBlockHeader, compressedBlockHeaderSize]

/-- A codec the parser knows. -/
def KnownCodec (codec : UInt8) : Prop :=
  codec = compressedBlockCodecRaw ∨ codec = compressedBlockCodecZstd ∨ codec = compressedBlockCodecS2

/-- The header as it is read back. -/
def BlockHeader.cut (header : BlockHeader) : BlockHeader :=
  { header with
    lineCount := header.lineCount % 2 ^ 32
    rawLen := header.rawLen % 2 ^ 32
    storedLen := header.storedLen % 2 ^ 32
    checksum := header.checksum % 2 ^ 32
    createdAt := header.createdAt.bmod (2 ^ 64) }

theorem bmod_toNat (value : Int) :
    (((value % 2 ^ 64).toNat : Int)).bmod (2 ^ 64) = value.bmod (2 ^ 64) := by
  rw [Int.toNat_of_nonneg (Int.emod_nonneg _ (by decide))]
  exact Int.emod_bmod value (2 ^ 64)

/-- The parser on a header of the writer, up to the size limit. -/
theorem parse_makeCompressedBlockHeader (header : BlockHeader) (known : KnownCodec header.codec) :
    parseCompressedBlockHeader (makeCompressedBlockHeader header) =
      if header.rawLen % 2 ^ 32 > compressedBlockMaxRawBytes ∨
          header.storedLen % 2 ^ 32 > compressedBlockMaxRawBytes then
        .error "compressed history block exceeds size limit"
      else .ok header.cut := by
  have length := makeCompressedBlockHeader_length header
  have time : (header.createdAt % 2 ^ 64).toNat % 256 ^ 8 = (header.createdAt % 2 ^ 64).toNat :=
    Nat.mod_eq_of_lt (by omega)
  have first : field 4 (makeCompressedBlockHeader header) = (compressedBlockMagic, _) :=
    field_putLE 4 compressedBlockMagic _
  have last : field 8 (putLE 8 (header.createdAt % 2 ^ 64).toNat) =
      ((header.createdAt % 2 ^ 64).toNat, []) := by
    have := field_putLE 8 (header.createdAt % 2 ^ 64).toNat []
    rwa [append_nil, time] at this
  have codec : ¬ (header.codec ≠ compressedBlockCodecRaw ∧
      header.codec ≠ compressedBlockCodecZstd ∧ header.codec ≠ compressedBlockCodecS2) := by
    rintro ⟨raw, zstd, s2⟩
    rcases known with known | known | known
    · exact raw known
    · exact zstd known
    · exact s2 known
  have version : compressedBlockVersion % 256 ^ 2 = compressedBlockVersion := by decide
  simp only [parseCompressedBlockHeader, first, field_putLE, field_byte, last, length, version,
    UInt8.ofNat_toNat, codec, ne_eq, not_true_eq_false, or_self, if_false, bmod_toNat]
  rfl

/-! ### The payload of a block -/

namespace CompressedLineFile

variable (c : Codecs) (options : CompressedLineFileOptions)

/-- What a block stores: the raw bytes or a shorter encoding of them. -/
inductive Compresses (raw : Bytes) : UInt8 × Bytes → Prop where
  | raw : Compresses raw (compressedBlockCodecRaw, raw)
  | zstd (shorter : (c.zstdEncode options.compressionLevel raw).length < raw.length) :
      Compresses raw (compressedBlockCodecZstd, c.zstdEncode options.compressionLevel raw)
  | s2 (shorter : (c.s2Encode options.compressionLevel raw).length < raw.length) :
      Compresses raw (compressedBlockCodecS2, c.s2Encode options.compressionLevel raw)

theorem compressBlock_compresses (raw : Bytes) :
    Compresses c options raw (compressBlock c options raw) := by
  unfold compressBlock
  cases options.compression with
  | none => exact .raw
  | zstd =>
    dsimp only
    split
    · exact .raw
    · next shorter => exact .zstd (Nat.not_le.mp shorter)
  | s2 =>
    dsimp only
    split
    · exact .raw
    · next shorter => exact .s2 (Nat.not_le.mp shorter)

namespace Compresses

variable {c options} {raw : Bytes} {stored : UInt8 × Bytes} (h : Compresses c options raw stored)
include h

theorem known : KnownCodec stored.1 := by
  cases h with
  | raw => exact .inl rfl
  | zstd => exact .inr (.inl rfl)
  | s2 => exact .inr (.inr rfl)

theorem length_le : stored.2.length ≤ raw.length := by
  cases h with
  | raw => exact Nat.le_refl _
  | zstd shorter | s2 shorter => exact Nat.le_of_lt shorter

theorem ne_nil (some_byte : raw ≠ []) : stored.2 ≠ [] := by
  cases h with
  | raw => exact some_byte
  | zstd =>
    intro (empty : c.zstdEncode options.compressionLevel raw = [])
    have inverts := c.zstd_inverts options.compressionLevel raw
    rw [empty, c.zstd_empty] at inverts
    exact some_byte (Option.some.inj inverts).symm
  | s2 =>
    intro (empty : c.s2Encode options.compressionLevel raw = [])
    have length := c.s2_len options.compressionLevel raw
    rw [empty, c.s2_empty] at length
    cases length

theorem decodeStored {block : CompressedBlock} (codec : block.codec = stored.1)
    (length : block.rawLen = raw.length) : decodeStored c block stored.2 = .ok raw := by
  unfold CompressedLineFile.decodeStored
  cases h with
  | raw => rw [codec, if_pos rfl]
  | zstd =>
    dsimp only at codec ⊢
    rw [codec, if_neg (by decide), if_pos rfl, c.zstd_inverts]
  | s2 =>
    dsimp only at codec ⊢
    rw [codec, if_neg (by decide), if_neg (by decide), if_pos rfl, c.s2_len, length,
      if_neg (by simp), c.s2_inverts]

end Compresses

end CompressedLineFile

theorem encodeCompactLines_ne_nil (lines : List Line) : encodeCompactLines lines ≠ [] := by
  intro empty
  have length := encodeCompactLines_length lines
  have pos := uvarintSize_pos lines.length
  rw [empty, compactLinesEncodedSize] at length
  simp only [length_nil] at length
  omega

/-! ### The walk over the headers -/

namespace CompressedLineFile

variable {c : Codecs} {options : CompressedLineFileOptions} {r r' : Recovered} {record : Record}
  {gaps : List Nat} {count : Nat}

/-- A record of lines within the size limit. -/
def Small : Record → Prop
  | .lines batch _ => compactLinesEncodedSize batch ≤ compressedBlockMaxRawBytes
  | _ => True

/-- A record the parser accepts after `r`. -/
def Recovered.Accepts (r : Recovered) : Record → Prop
  | .lines batch _ => batch ≠ [] ∧ batch.length < 2 ^ 32 ∧
      compactLinesEncodedSize batch ≤ compressedBlockMaxRawBytes
  | .boundary _ => True
  | .gap offset _ => offset % 2 ^ 32 ≤ r.persistedLines

/-- The walk after one record. -/
def Recovered.after (c : Codecs) (options : CompressedLineFileOptions) (r : Recovered)
    (record : Record) : Recovered :=
  let next := r.offset + (record.encode c options).length
  match record with
  | .lines batch _ =>
    { r with
      blocks := r.blocks ++
        [BlockHeader.block (record.header c options).cut r.offset r.persistedLines none]
      persistedLines := r.persistedLines + batch.length
      offset := next }
  | .boundary _ => { r with offset := next }
  | .gap offset _ =>
    if r.gapOffsets.getLast? = some (offset % 2 ^ 32) then { r with offset := next }
    else { r with gapOffsets := r.gapOffsets ++ [offset % 2 ^ 32], offset := next }

theorem header_known (record : Record) : KnownCodec (record.header c options).codec := by
  cases record with
  | lines batch createdAt => exact (compressBlock_compresses c options _).known
  | boundary | gap => exact .inl rfl

theorem header_storedLen (record : Record) :
    (record.header c options).storedLen = (record.payload c options).length := by
  cases record <;> rfl

variable (c options) in
theorem encode_length (record : Record) : (record.encode c options).length =
    compressedBlockHeaderSize + (record.payload c options).length := by
  rw [Record.encode, length_append, makeCompressedBlockHeader_length]

theorem take_encode (record : Record) (rest : Bytes) :
    (record.encode c options ++ rest).take compressedBlockHeaderSize =
      makeCompressedBlockHeader (record.header c options) := by
  rw [Record.encode, List.append_assoc,
    take_left' (makeCompressedBlockHeader_length _)]

variable (c options) in
theorem raw_length (batch : List Line) (createdAt : Int) :
    ((Record.lines batch createdAt).header c options).rawLen = compactLinesEncodedSize batch :=
  encodeCompactLines_length batch

variable (c options) in
theorem payload_length_le (batch : List Line) (createdAt : Int) :
    ((Record.lines batch createdAt).payload c options).length ≤ compactLinesEncodedSize batch := by
  rw [← encodeCompactLines_length]
  exact (compressBlock_compresses c options _).length_le

theorem Recovered.Accepts.small (accepts : r.Accepts record) : Small record := by
  cases record with
  | lines => exact accepts.2.2
  | boundary | gap => trivial

variable (c options) in
/-- The sizes a header of a small record gives are within the limit, so they are not cut. -/
theorem Small.sizes (small : Small record) :
    (record.header c options).rawLen ≤ compressedBlockMaxRawBytes ∧
      (record.payload c options).length ≤ compressedBlockMaxRawBytes := by
  cases record with
  | lines batch createdAt =>
    have payload := payload_length_le c options batch createdAt
    rw [raw_length]
    exact ⟨small, payload.trans small⟩
  | boundary | gap => exact ⟨Nat.zero_le _, Nat.zero_le _⟩

variable (c options) in
theorem Small.parse (small : Small record) :
    parseCompressedBlockHeader (makeCompressedBlockHeader (record.header c options)) =
        .ok (record.header c options).cut ∧
      (record.header c options).cut.storedLen = (record.payload c options).length := by
  have sizes := small.sizes c options
  have fits : compressedBlockMaxRawBytes < 2 ^ 32 := by decide
  have stored : (record.header c options).storedLen % 2 ^ 32 = (record.payload c options).length := by
    rw [header_storedLen, Nat.mod_eq_of_lt (sizes.2.trans_lt fits)]
  have raw : (record.header c options).rawLen % 2 ^ 32 = (record.header c options).rawLen :=
    Nat.mod_eq_of_lt (sizes.1.trans_lt fits)
  refine ⟨?_, stored⟩
  rw [parse_makeCompressedBlockHeader _ (header_known record), raw, stored, if_neg]
  omega

theorem Recovered.Accepts.take (accepts : r.Accepts record) :
    r.take (record.header c options).cut = .ok (r.after c options record) := by
  have whole : (record.header c options).storedLen % 2 ^ 32 = (record.payload c options).length :=
    (accepts.small.parse c options).2
  have next : r.offset + compressedBlockHeaderSize + (record.header c options).cut.storedLen =
      r.offset + (record.encode c options).length := by
    rw [encode_length, ← whole, Nat.add_assoc]
    rfl
  unfold Recovered.take
  rw [next]
  cases record with
  | lines batch createdAt =>
    obtain ⟨some_line, count, size⟩ := accepts
    have lineCount : ((Record.lines batch createdAt).header c options).cut.lineCount =
        batch.length := Nat.mod_eq_of_lt count
    have some_lines := length_pos_iff.mpr some_line
    have raw_pos : 0 < ((Record.lines batch createdAt).header c options).cut.rawLen := by
      have raw := raw_length c options batch createdAt
      have pos := uvarintSize_pos batch.length
      show 0 < ((Record.lines batch createdAt).header c options).rawLen % 2 ^ 32
      rw [raw, Nat.mod_eq_of_lt (by simp only [compressedBlockMaxRawBytes] at size; omega)]
      unfold compactLinesEncodedSize
      omega
    have stored_pos : 0 < ((Record.lines batch createdAt).header c options).cut.storedLen := by
      have pos := length_pos_iff.mpr
        ((compressBlock_compresses c options _).ne_nil (encodeCompactLines_ne_nil batch))
      show 0 < ((Record.lines batch createdAt).header c options).storedLen % 2 ^ 32
      rw [whole]
      exact pos
    have kind : ((Record.lines batch createdAt).header c options).cut.kind =
        compressedBlockKindLines := rfl
    rw [if_pos kind, if_neg (by rw [lineCount]; omega), lineCount]
    rfl
  | boundary createdAt =>
    have kind : ((Record.boundary createdAt).header c options).cut.kind =
        compressedBlockKindBoundary := rfl
    rfl
  | gap offset createdAt =>
    have kind : ((Record.gap offset createdAt).header c options).cut.kind =
        compressedBlockKindGap := rfl
    have lineCount : ((Record.gap offset createdAt).header c options).cut.lineCount =
        offset % 2 ^ 32 := rfl
    rw [kind, if_neg (by decide), if_neg (by decide), if_pos rfl, lineCount, if_neg]
    · unfold after
      dsimp only
      split <;> rfl
    · rintro (bad | bad | bad | bad)
      · exact bad rfl
      · exact bad rfl
      · exact bad rfl
      · exact absurd accepts (Nat.not_le.mpr bad)

theorem recoverLoop_accepts (accepts : r.Accepts record) (rest : Bytes) :
    recoverLoop (record.encode c options ++ rest) r =
      recoverLoop rest (r.after c options record) := by
  obtain ⟨parsed, cut⟩ := accepts.small.parse c options
  have length := encode_length c options record
  rw [recoverLoop, if_neg (by rw [length_append]; omega), take_encode, parsed]
  dsimp only
  rw [cut, if_neg (by rw [length_append]; omega), accepts.take]
  rw [drop_left' length]

theorem recoverLoop_nil (r : Recovered) : recoverLoop [] r = .ok r := by
  rw [recoverLoop, if_pos (by decide)]

/-- A small record that is cut somewhere ends the walk. -/
theorem recoverLoop_torn (small : Small record) {torn : Bytes}
    (part : torn <+: record.encode c options)
    (short : torn.length < (record.encode c options).length) (r : Recovered) :
    recoverLoop torn r = .ok r := by
  obtain ⟨parsed, cut⟩ := small.parse c options
  have length := encode_length c options record
  rw [recoverLoop]
  split
  · rfl
  next long =>
  obtain ⟨rest, whole⟩ := part
  have header : torn.take compressedBlockHeaderSize =
      makeCompressedBlockHeader (record.header c options) := by
    rw [← take_encode record [], ← whole, append_nil,
      take_append_of_le_length (Nat.not_lt.mp long)]
  rw [header, parsed]
  dsimp only
  rw [if_pos (by omega)]

variable {batch known lines : List Line} {createdAt : Int} {block : CompressedBlock} {pre : Bytes}
  {log : Log} {w : World} {g : CompressedLineFile} {handle : Handle} {start stop : Nat}

/-- A block over the limit, whose length still fits its field, stops the walk. -/
theorem recoverLoop_oversize (large : compressedBlockMaxRawBytes < compactLinesEncodedSize batch)
    (fits : compactLinesEncodedSize batch < 2 ^ 32) (rest : Bytes) :
    recoverLoop ((Record.lines batch createdAt).encode c options ++ rest) r =
      .error "compressed history block exceeds size limit" := by
  have raw := raw_length c options batch createdAt
  have length := encode_length c options (.lines batch createdAt)
  rw [recoverLoop, if_neg (by rw [length_append]; omega), take_encode,
    parse_makeCompressedBlockHeader _ (header_known _), raw, Nat.mod_eq_of_lt fits,
    if_pos (.inl large)]

/-! ### Reading a block back -/

/-- A block whose index entry describes a record of the file reads as the record's lines. -/
theorem readBlock_record (pre post : Bytes) (size : compactLinesEncodedSize batch < 2 ^ 32)
    (offset : block.offset = pre.length) (lineCount : block.lineCount = batch.length)
    (rawLen : block.rawLen = compactLinesEncodedSize batch)
    (storedLen : block.storedLen = ((Record.lines batch createdAt).payload c options).length)
    (codec : block.codec = (compressBlock c options (encodeCompactLines batch)).1)
    (checksum : block.checksum = (c.crc32 (encodeCompactLines batch)).toNat) :
    readBlock c (.opened (pre ++ ((Record.lines batch createdAt).encode c options ++ post))) block =
      .ok (batch.map Line.stored) := by
  have length := encodeCompactLines_length batch
  have stored : readAt (.opened (pre ++ ((Record.lines batch createdAt).encode c options ++ post)))
      (block.offset + compressedBlockHeaderSize) block.storedLen =
        .ok ((Record.lines batch createdAt).payload c options) := by
    rw [readAt, offset, storedLen, if_neg]
    · rw [drop_append, drop_eq_nil_of_le (by omega), nil_append,
        Nat.add_sub_cancel_left, Record.encode, List.append_assoc,
        drop_left' (makeCompressedBlockHeader_length _), take_left' rfl]
    · rw [length_append, length_append, encode_length]
      omega
  have decoded : decodeStored c block ((Record.lines batch createdAt).payload c options) =
      .ok (encodeCompactLines batch) :=
    (compressBlock_compresses c options _).decodeStored codec (by rw [rawLen, length])
  have fits : ∀ line ∈ batch, line.Fits := fun line mem => by
    have part := le_sum_of_mem (mem_map_of_mem (f := compactLineEncodedSize) mem)
    unfold compactLinesEncodedSize at size
    exact Line.fits_of_size (by omega)
  have few : batch.length < 2 ^ 64 := by
    have count := length_le_flatMap encodeLine_ne_nil batch
    rw [flatMap_length encodeLine_length] at count
    unfold compactLinesEncodedSize at size
    omega
  unfold readBlock
  rw [stored]
  simp only [bind, Except.bind, decoded]
  rw [if_neg (by rw [length, rawLen, checksum]; simp), decodeCompactLines_encodeCompactLines few fits]
  dsimp only
  rw [if_neg (by simp [lineCount])]
  rfl

/-! ### Walking over a log -/

/-- The walk found the records of the bytes `pre`: `known` lines, as they read from the file. -/
structure Walked (c : Codecs) (contents pre : Bytes) (known : List Line) (r : Recovered) : Prop where
  offset : r.offset = pre.length
  reads : Reads c (.opened contents) 0 r.blocks known
  persistedLines : r.persistedLines = known.length

theorem accepts_of_fits (fits : Log.Fits count gaps record) (small : Small record)
    (known : r.persistedLines = count) :
    r.Accepts record := by
  cases record with
  | lines batch createdAt => exact ⟨fits.1, Log.shaped_length fits.2, small⟩
  | boundary => trivial
  | gap offset createdAt =>
    show offset % 2 ^ 32 ≤ r.persistedLines
    rw [known, fits.1]
    exact Nat.mod_le _ _

/-- One record more. -/
theorem Walked.after {post : Bytes}
    (walked : Walked c (pre ++ (record.encode c options ++ post)) pre known r)
    (accepts : r.Accepts record) :
    Walked c (pre ++ (record.encode c options ++ post)) (pre ++ record.encode c options)
      (known ++ record.stored.map Line.stored) (r.after c options record) := by
  have next : (r.after c options record).offset = (pre ++ record.encode c options).length := by
    rw [length_append, ← walked.offset]
    unfold Recovered.after
    cases record with
    | lines | boundary => rfl
    | gap =>
      dsimp only
      split <;> rfl
  cases record with
  | lines batch createdAt =>
    have sizes := accepts.small.sizes c options
    obtain ⟨-, count, size⟩ := accepts
    have limit : compressedBlockMaxRawBytes < 2 ^ 32 := by decide
    have crc : (c.crc32 (encodeCompactLines batch)).toNat < 2 ^ 32 := UInt32.toNat_lt _
    generalize added : BlockHeader.block ((Record.lines batch createdAt).header c options).cut
      r.offset r.persistedLines none = block
    have read : readBlock c (.opened (pre ++ ((Record.lines batch createdAt).encode c options ++
        post))) block = .ok (batch.map Line.stored) := by
      subst added
      refine readBlock_record pre post (size.trans_lt limit) walked.offset ?_ ?_ ?_ rfl ?_
      · exact Nat.mod_eq_of_lt count
      · show (_ % 2 ^ 32) % 2 ^ 32 = _
        rw [raw_length, Nat.mod_mod, Nat.mod_eq_of_lt (size.trans_lt limit)]
      · show (_ % 2 ^ 32) % 2 ^ 32 = _
        rw [header_storedLen, Nat.mod_mod, Nat.mod_eq_of_lt (sizes.2.trans_lt limit)]
      · exact Nat.mod_eq_of_lt crc
    have blocks : (r.after c options (.lines batch createdAt)).blocks = r.blocks ++ [block] := by
      rw [← added]
      rfl
    refine ⟨next, ?_, ?_⟩
    · subst added
      refine walked.reads.concat ?_ ?_ read
      · exact walked.persistedLines.trans (Nat.zero_add _).symm
      · rw [length_map]
        exact Nat.mod_eq_of_lt count
    · simp [Recovered.after, Record.stored, walked.persistedLines]
  | boundary =>
    exact ⟨next, by simpa [Record.stored, Recovered.after] using walked.reads,
      by simpa [Record.stored, Recovered.after] using walked.persistedLines⟩
  | gap offset createdAt =>
    have same : (r.after c options (.gap offset createdAt)).blocks = r.blocks ∧
        (r.after c options (.gap offset createdAt)).persistedLines = r.persistedLines := by
      unfold Recovered.after
      dsimp only
      split <;> exact ⟨rfl, rfl⟩
    refine ⟨next, ?_, ?_⟩
    · rw [same.1]
      simpa [Record.stored] using walked.reads
    · rw [same.2]
      simpa [Record.stored] using walked.persistedLines

/-- The gaps found after one record more, if their offsets are not cut. -/
theorem gapOffsets_after (fits : Log.Fits count gaps record) (known : r.gapOffsets = gaps)
    (uncut : ∀ gap, record.gapOffset = some gap → gap < 2 ^ 32) :
    (r.after c options record).gapOffsets = gaps ++ record.gapOffset.toList := by
  unfold Recovered.after
  cases record with
  | lines | boundary => simpa [Record.gapOffset] using known
  | gap offset createdAt =>
    have whole : offset % 2 ^ 32 = offset := Nat.mod_eq_of_lt (uncut offset rfl)
    dsimp only
    rw [whole, known, fits.1, if_neg fits.2]
    rfl

/-- A log of small blocks is walked over, and all of its lines are found; the walk goes on with what
is behind the log. -/
theorem recoverLoop_encode
    (small : ∀ record ∈ log, Small record) (follows : Log.Follows known.length gaps log)
    (walked : Walked c (pre ++ Log.encode c options log) pre known r) :
    ∃ r', (∀ rest, recoverLoop (Log.encode c options log ++ rest) r = recoverLoop rest r') ∧
      Walked c (pre ++ Log.encode c options log) (pre ++ Log.encode c options log)
        (known ++ (Log.lines log).map Line.stored) r' ∧
      (r.gapOffsets = gaps → (∀ gap ∈ Log.gaps log, gap < 2 ^ 32) →
        r'.gapOffsets = gaps ++ Log.gaps log) := by
  induction log generalizing r pre known gaps with
  | nil => exact ⟨r, fun _ => rfl, by simpa using walked, fun known _ => by simpa using known⟩
  | cons record log ih =>
    rw [Log.encode_cons] at walked ⊢
    obtain ⟨fits, follows⟩ := follows
    have accepts := accepts_of_fits fits (small record mem_cons_self) walked.persistedLines
    have walked' := walked.after accepts
    rw [← List.append_assoc] at walked'
    have count : (known ++ record.stored.map Line.stored).length =
        known.length + record.stored.length := by simp
    obtain ⟨r', recovered, walked'', found⟩ := ih (fun record mem =>
      small record (mem_cons_of_mem _ mem)) (count ▸ follows) walked'
    refine ⟨r', fun rest => ?_, ?_, fun known uncut => ?_⟩
    · rw [List.append_assoc, recoverLoop_accepts accepts, recovered]
    · simpa [List.append_assoc] using walked''
    · rw [Log.gaps_cons] at uncut ⊢
      have here : ∀ gap, record.gapOffset = some gap → gap < 2 ^ 32 := fun gap is =>
        uncut gap (mem_append_left _ (by simp [is]))
      rw [found (gapOffsets_after fits known here)
        (fun gap mem => uncut gap (mem_append_right _ mem)), List.append_assoc]

/-- The first block over the limit makes the walk fail, when the sizes fit their fields. -/
theorem recoverLoop_encode_oversize (follows : Log.Follows count gaps log)
    (known : r.persistedLines = count) (fields : ∀ batch createdAt, .lines batch createdAt ∈ log →
      compactLinesEncodedSize batch < 2 ^ 32) (large : ∃ record ∈ log, ¬Small record) :
    recoverLoop (Log.encode c options log) r =
      .error "compressed history block exceeds size limit" := by
  induction log generalizing r count gaps with
  | nil =>
    obtain ⟨record, mem, -⟩ := large
    exact absurd mem not_mem_nil
  | cons record log ih =>
    rw [Log.encode_cons]
    obtain ⟨fits, follows⟩ := follows
    rcases Classical.em (Small record) with small | big
    · have accepts := accepts_of_fits fits small known
      rw [recoverLoop_accepts accepts]
      refine ih follows ?_ (fun batch createdAt mem =>
        fields batch createdAt (mem_cons_of_mem _ mem)) ?_
      · rw [← known]
        cases record with
        | lines | boundary => rfl
        | gap =>
          unfold Recovered.after
          dsimp only
          split <;> rfl
      · obtain ⟨bad, mem, big⟩ := large
        rcases mem_cons.mp mem with rfl | mem
        · exact absurd small big
        · exact ⟨bad, mem, big⟩
    · cases record with
      | lines batch createdAt =>
        exact recoverLoop_oversize (Nat.not_le.mp big) (fields batch createdAt mem_cons_self) _
      | boundary | gap => exact absurd trivial big

/-! ### What any opened file can hold -/

/-- The limits of the parser hold for everything a walk found. -/
structure Recovered.Limited (r : Recovered) : Prop where
  blocks : ∀ block ∈ r.blocks, block.rawLen ≤ compressedBlockMaxRawBytes
  gaps : ∀ gap ∈ r.gapOffsets, gap < 2 ^ 32

theorem field_lt (width : Nat) (payload : Bytes) : (field width payload).1 < 256 ^ width := by
  refine (getLE_lt _).trans_le (Nat.pow_le_pow_right (by decide) ?_)
  rw [length_take]
  exact Nat.min_le_left _ _

theorem parseCompressedBlockHeader_limits {payload : Bytes} {header : BlockHeader}
    (parsed : parseCompressedBlockHeader payload = .ok header) :
    header.rawLen ≤ compressedBlockMaxRawBytes ∧ header.lineCount < 2 ^ 32 := by
  unfold parseCompressedBlockHeader at parsed
  dsimp only at parsed
  split at parsed
  · cases parsed
  split at parsed
  · cases parsed
  split at parsed
  · cases parsed
  next within =>
  split at parsed
  · cases parsed
  cases parsed
  exact ⟨Nat.not_lt.mp fun large => within (.inl large), field_lt 4 _⟩

theorem Recovered.Limited.take {header : BlockHeader} (limited : r.Limited)
    (raw : header.rawLen ≤ compressedBlockMaxRawBytes) (count : header.lineCount < 2 ^ 32)
    (taken : r.take header = .ok r') : r'.Limited := by
  unfold Recovered.take at taken
  split at taken
  · split at taken
    · cases taken
    · cases taken
      exact ⟨forall_mem_append.mpr ⟨limited.blocks,
        forall_mem_singleton.mpr ((Nat.mod_le _ _).trans raw)⟩, limited.gaps⟩
  split at taken
  · split at taken
    · cases taken
    · cases taken
      exact ⟨limited.blocks, limited.gaps⟩
  split at taken
  · split at taken
    · cases taken
    split at taken
    · cases taken
      exact ⟨limited.blocks, limited.gaps⟩
    · cases taken
      exact ⟨limited.blocks,
        forall_mem_append.mpr ⟨limited.gaps, forall_mem_singleton.mpr count⟩⟩
  · cases taken

theorem recoverLoop_limited {rest : Bytes} (limited : r.Limited)
    (recovered : recoverLoop rest r = .ok r') : r'.Limited := by
  induction rest, r using recoverLoop.induct with
  | case1 rest r short =>
    rw [recoverLoop, if_pos short] at recovered
    cases recovered
    exact limited
  | case2 rest r long message parsed =>
    rw [recoverLoop, if_neg long, parsed] at recovered
    cases recovered
  | case3 rest r long header parsed torn =>
    rw [recoverLoop, if_neg long, parsed] at recovered
    dsimp only at recovered
    rw [if_pos torn] at recovered
    cases recovered
    exact limited
  | case4 rest r long header parsed whole message taken =>
    rw [recoverLoop, if_neg long, parsed] at recovered
    dsimp only at recovered
    rw [if_neg whole, taken] at recovered
    cases recovered
  | case5 rest r long header parsed whole next taken ih =>
    rw [recoverLoop, if_neg long, parsed] at recovered
    dsimp only at recovered
    rw [if_neg whole, taken] at recovered
    obtain ⟨raw, count⟩ := parseCompressedBlockHeader_limits parsed
    exact ih (limited.take raw count taken) recovered

/-- A file opened without retention is what the walk found. -/
theorem openCompressedLineFile_eq (disk : Handle)
    (unlimited : options.maxBytes = 0 ∧ options.maxAge = 0) :
    openCompressedLineFile w options disk =
      match recoverLoop (openedContents disk) ⟨[], 0, [], 0⟩ with
      | .error message => .error message
      | .ok r => .ok { r.file options (openedContents disk) with readings := 1 } := by
  unfold openCompressedLineFile
  cases recoverLoop (openedContents disk) ⟨[], 0, [], 0⟩ with
  | error => rfl
  | ok r =>
    have kept : (r.file options (openedContents disk)).Unlimited := unlimited
    dsimp only
    rw [enforceLimit_of_unlimited kept]
    rfl

theorem open_limited {disk : Handle} (unlimited : options.maxBytes = 0 ∧ options.maxAge = 0)
    (opened : openCompressedLineFile w options disk = .ok g) :
    (∀ block ∈ g.blocks, block.rawLen ≤ compressedBlockMaxRawBytes) ∧
      (∀ gap ∈ g.gapOffsets, gap < 2 ^ 32) ∧ g.pending = [] := by
  rw [openCompressedLineFile_eq disk unlimited] at opened
  have nothing : (⟨[], 0, [], 0⟩ : Recovered).Limited := ⟨nofun, nofun⟩
  split at opened
  · cases opened
  next recovered =>
  cases opened
  have limited := recoverLoop_limited nothing recovered
  exact ⟨limited.blocks, limited.gaps, rfl⟩

/-- A block reads as lines whose encoding is no longer than the block. -/
theorem readBlock_size
    (read : readBlock c handle block = .ok lines) : compactLinesEncodedSize lines ≤ block.rawLen := by
  obtain ⟨stored, -, read⟩ := ok_of_bind read
  obtain ⟨raw, -, read⟩ := ok_of_bind read
  split at read
  · cases read
  next same =>
  obtain ⟨decoded, h, read⟩ := ok_of_bind read
  split at read
  · cases read
  cases read
  have size := decodeCompactLines_size_le h
  have length : List.length raw = block.rawLen := not_not.mp fun differ => same (.inl differ)
  exact size.trans_eq length

theorem mem_of_mem_slice {first : Nat} {entry : Nat × Line}
    (mem : entry ∈ slice start stop first lines) : entry.2 ∈ lines := by
  obtain ⟨line, inside, rfl⟩ := mem_map.mp mem
  exact fst_mem_of_mem_zipIdx (mem_filter.mp inside).1

/-- Every line that `Lines` collects from blocks is one of a block that could be read. -/
theorem visitBlocks_collect {blocks : List CompressedBlock}
    {found : List Line} {result : List Line × Bool}
    (visited : visitBlocks c handle start stop false (fun found _ line => (found ++ [line], true))
      blocks found = .ok result) {line : Line} (mem : line ∈ result.1) :
    line ∈ found ∨
      ∃ block ∈ blocks, ∃ lines, readBlock c handle block = .ok lines ∧ line ∈ lines := by
  induction blocks generalizing found with
  | nil =>
    cases visited
    exact .inl mem
  | cons block blocks ih =>
    obtain ⟨lines, read, visited⟩ := ok_of_bind visited
    simp only [Bool.false_eq_true, if_false, visitSlice_collect] at visited
    rcases ih visited with here | ⟨block', mem', there⟩
    · rcases mem_append.mp here with before | here
      · exact .inl before
      · obtain ⟨entry, inside, rfl⟩ := mem_map.mp here
        exact .inr ⟨block, mem_cons_self, lines, read, mem_of_mem_slice inside⟩
    · exact .inr ⟨block', mem_cons_of_mem _ mem', there⟩

/-- Every line read from a file within the limits has an encoding within the limits. -/
theorem lines_small (blocks : ∀ block ∈ g.blocks, block.rawLen ≤ compressedBlockMaxRawBytes)
    (written : g.pending = []) (read : g.lines c start stop = .ok lines) :
    ∀ line ∈ lines, 1 + compactLineEncodedSize line ≤ compressedBlockMaxRawBytes := by
  intro line mem
  unfold CompressedLineFile.lines visitLines at read
  split at read
  · cases read
    cases mem
  rw [if_neg Bool.false_ne_true, written] at read
  split at read
  · obtain ⟨⟨found, going⟩, visited, read⟩ := ok_of_bind read
    have same : found = lines := by
      cases going <;> cases read <;> rfl
    subst same
    rcases visitBlocks_collect visited mem with nothing | ⟨block, selected, batch, h, inside⟩
    · cases nothing
    have known : block ∈ g.blocks :=
      (dropWhile_sublist _).subset ((takeWhile_sublist _).subset selected)
    exact Log.line_size_le inside ((readBlock_size h).trans (blocks block known))
  · cases read
    cases mem

end CompressedLineFile

end Anytty.LineHist
