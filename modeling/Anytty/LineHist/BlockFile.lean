import Anytty.LineHist.Codec
import Anytty.LineHist.SearchIndex

/-!
# The compressed line file

Lines are collected in `pending` and written as blocks: a header of 32 bytes and the encoded,
possibly compressed lines.  Boundaries and output gaps are headers without payload.  The headers
are the only index: opening a file walks over them.  Retention rewrites the file without its
oldest blocks, through a temporary file that is renamed over it.

The file operations outside a rewrite succeed and behave as a byte list.  The steps of a rewrite
may fail one by one; what such a failure leaves behind is `RewriteFault`.  Clock readings, these
failures and the sizes of the search index sidecar are read from a `World`, indexed by the number
of readings so far, so that a statement about every world is a statement about every behaviour.
The contents of the sidecar are not modelled: a file that is opened has no search filters yet.
-/

namespace Anytty.LineHist

open Anytty.Wire

/-! ### Options, codecs and the world -/

inductive Compression where
  | none | zstd | s2
  deriving DecidableEq, Repr

inductive CompressionLevel where
  | fast | balanced | best
  deriving DecidableEq, Repr

structure CompressedLineFileOptions where
  maxBytes : Nat
  /-- A duration in nanoseconds. -/
  maxAge : Nat
  compression : Compression
  compressionLevel : CompressionLevel
  deriving DecidableEq, Repr

/-- The compressors and the checksum.  Decoding inverts encoding; an empty input is an empty zstd
stream and no s2 block. -/
structure Codecs where
  zstdEncode : CompressionLevel → Bytes → Bytes
  zstdDecode : Bytes → Option Bytes
  s2Encode : CompressionLevel → Bytes → Bytes
  s2Decode : Bytes → Option Bytes
  s2DecodedLen : Bytes → Option Nat
  crc32 : Bytes → UInt32
  zstd_inverts : ∀ level raw, zstdDecode (zstdEncode level raw) = some raw
  s2_inverts : ∀ level raw, s2Decode (s2Encode level raw) = some raw
  s2_len : ∀ level raw, s2DecodedLen (s2Encode level raw) = some raw.length
  zstd_empty : zstdDecode [] = some []
  s2_empty : s2DecodedLen [] = none

/-- The step of a rewrite that fails.  `prepare` is any step before the old file is closed. -/
inductive RewriteFault where
  | prepare
  | closeFile
  | rename (reopened : Bool)
  | reopen
  | seek
  | syncDirectory
  deriving DecidableEq, Repr

/-- An entry of the index.  The search filter is missing until it is first built. -/
structure CompressedBlock where
  offset : Nat
  firstLine : Nat
  lineCount : Nat
  rawLen : Nat
  storedLen : Nat
  codec : UInt8
  checksum : Nat
  createdAt : Int
  searchBloom : Option Nat
  deriving DecidableEq, Repr

/-- The readings of the surroundings; the clock gives Unix nanoseconds. -/
structure World where
  clock : Nat → Int
  fault : Nat → Option RewriteFault
  searchIndexSize : Nat → Nat
  searchIndexStoredBytes : Nat → CompressedBlock → Nat

/-! ### Headers -/

def compressedBlockMagic : Nat := 0x424C5854
def compressedBlockVersion : Nat := 3
def compressedBlockHeaderSize : Nat := 32
def compressedBlockTargetBytes : Nat := 256 * 1024
def compressedBlockMaxRawBytes : Nat := 2 * 1024 * 1024

def compressedBlockKindLines : UInt8 := 1
def compressedBlockKindBoundary : UInt8 := 2
def compressedBlockKindGap : UInt8 := 3
def compressedBlockCodecRaw : UInt8 := 0
def compressedBlockCodecZstd : UInt8 := 1
def compressedBlockCodecS2 : UInt8 := 2

structure BlockHeader where
  kind : UInt8
  codec : UInt8
  lineCount : Nat
  rawLen : Nat
  storedLen : Nat
  checksum : Nat
  createdAt : Int
  deriving DecidableEq, Repr

/-- The bytes of a header; counts and lengths are cut to 32 bits. -/
def makeCompressedBlockHeader (header : BlockHeader) : Bytes :=
  putLE 4 compressedBlockMagic ++ (putLE 2 compressedBlockVersion ++ (header.kind ::
    header.codec :: (putLE 4 header.lineCount ++ (putLE 4 header.rawLen ++
      (putLE 4 header.storedLen ++ (putLE 4 header.checksum ++
        putLE 8 (header.createdAt % 2 ^ 64).toNat))))))

/-- Read a little endian field. -/
def field (width : Nat) (payload : Bytes) : Nat × Bytes :=
  (getLE (payload.take width), payload.drop width)

def parseCompressedBlockHeader (header : Bytes) : Except String BlockHeader :=
  let (magic, payload) := field 4 header
  let (version, payload) := field 2 payload
  let (kind, payload) := field 1 payload
  let (codec, payload) := field 1 payload
  let (lineCount, payload) := field 4 payload
  let (rawLen, payload) := field 4 payload
  let (storedLen, payload) := field 4 payload
  let (checksum, payload) := field 4 payload
  let (createdAt, _) := field 8 payload
  if header.length ≠ compressedBlockHeaderSize ∨ magic ≠ compressedBlockMagic then
    .error "invalid compressed history block magic"
  else if version ≠ compressedBlockVersion then
    .error "unsupported compressed history block version"
  else if rawLen > compressedBlockMaxRawBytes ∨ storedLen > compressedBlockMaxRawBytes then
    .error "compressed history block exceeds size limit"
  else if UInt8.ofNat codec ≠ compressedBlockCodecRaw ∧ UInt8.ofNat codec ≠ compressedBlockCodecZstd ∧
      UInt8.ofNat codec ≠ compressedBlockCodecS2 then
    .error "unsupported compressed history codec"
  else
    .ok ⟨UInt8.ofNat kind, UInt8.ofNat codec, lineCount, rawLen, storedLen, checksum,
      (createdAt : Int).bmod (2 ^ 64)⟩

/-! ### The file -/

/-- `f.file`: nil, a handle that was closed, or an open handle at the end of its contents. -/
inductive Handle where
  | nil
  | closed
  | opened (contents : Bytes)
  deriving DecidableEq, Repr

structure CompressedLineFile where
  options : CompressedLineFileOptions
  file : Handle
  blocks : List CompressedBlock
  persistedLines : Nat
  pending : List Line
  pendingBytes : Nat
  writeOffset : Nat
  retentionEpoch : Nat
  gapOffsets : List Nat
  /-- The number of readings of the world so far. -/
  readings : Nat
  deriving DecidableEq, Repr

/-- The errors of the calls.  A failed rewrite says which step failed and how many lines it was
about to drop. -/
inductive FileError where
  | invalid
  | write
  | closed
  | rewrite (fault : RewriteFault) (droppedLines : Nat)
  deriving DecidableEq, Repr

/-- A call leaves the file in some state, with an error or without one. -/
abbrev Outcome := CompressedLineFile × Option FileError

/-- Go on if there was no error. -/
def Outcome.andThen (outcome : Outcome) (next : CompressedLineFile → Outcome) : Outcome :=
  match outcome.2 with
  | none => next outcome.1
  | some _ => outcome

namespace CompressedLineFile

section

variable (f : CompressedLineFile)

def lineCount : Nat := f.persistedLines + f.pending.length

/-- The bytes of a record with its payload. -/
def blockSize (block : CompressedBlock) : Nat := compressedBlockHeaderSize + block.storedLen

/-- The header of an output gap. -/
def gapHeader (offset : Nat) (createdAt : Int) : BlockHeader :=
  ⟨compressedBlockKindGap, compressedBlockCodecRaw, offset, 0, 0, 0, createdAt⟩

/-- The blocks of a rewritten file, from a byte offset and a line index on. -/
def relocate : Nat → Nat → List CompressedBlock → List CompressedBlock
  | _, _, [] => []
  | offset, firstLine, block :: blocks =>
    { block with offset := offset, firstLine := firstLine } ::
      relocate (offset + blockSize block) (firstLine + block.lineCount) blocks

/-- The first line that is kept when the blocks before `start` are dropped. -/
def droppedLines (start : Nat) : Nat :=
  match f.blocks[start]? with
  | some block => block.firstLine
  | none => f.persistedLines

/-- The gaps after the dropped lines, in the numbering of the rewritten file. -/
def keptGaps (dropped : Nat) : List Nat :=
  (f.gapOffsets.filter fun gap => dropped < gap).map fun gap => gap - dropped

/-- The contents of the rewritten file. -/
def rewritten (contents : Bytes) (start : Nat) (now : Int) : Bytes :=
  (f.blocks.drop start).flatMap (fun block =>
      (contents.drop block.offset).take (blockSize block)) ++
    (f.keptGaps (f.droppedLines start)).flatMap fun gap =>
      makeCompressedBlockHeader (gapHeader gap now)

/-- The file once the rewritten file took its place, before the directory is synced. -/
def adopt (contents : Bytes) (start : Nat) : CompressedLineFile :=
  { f with
    file := .opened contents
    blocks := relocate 0 0 (f.blocks.drop start)
    persistedLines := ((f.blocks.drop start).map (·.lineCount)).sum
    writeOffset := contents.length
    gapOffsets := f.keptGaps (f.droppedLines start) }

def rewriteBlocks (w : World) (f : CompressedLineFile) (start : Nat) : Outcome :=
  let dropped := f.droppedLines start
  match f.file with
  | .nil | .closed => (f, some (.rewrite .prepare dropped))
  | .opened contents =>
    let published := f.adopt (f.rewritten contents start (w.clock f.readings / 10 ^ 9)) start
    -- A block that ends after the file cannot be copied.
    if ∃ block ∈ f.blocks.drop start, contents.length < block.offset + blockSize block then
      (f, some (.rewrite .prepare dropped))
    else
      match w.fault f.readings with
      | some .prepare => (f, some (.rewrite .prepare dropped))
      | some .closeFile => ({ f with file := .closed }, some (.rewrite .closeFile dropped))
      | some (.rename reopened) =>
        ({ f with file := if reopened then .opened contents else .nil },
          some (.rewrite (.rename reopened) dropped))
      | some .reopen => ({ f with file := .nil }, some (.rewrite .reopen dropped))
      | some .seek => ({ f with file := .nil }, some (.rewrite .seek dropped))
      | some .syncDirectory => (published, some (.rewrite .syncDirectory dropped))
      | none =>
        if dropped > 0 then ({ published with retentionEpoch := f.retentionEpoch + 1 }, none)
        else (published, none)

/-- `nowTime().Unix()`. -/
def nowUnix (w : World) (f : CompressedLineFile) : Int := w.clock f.readings / 10 ^ 9

/-- The first block young enough to be kept. -/
def ageStart (w : World) (f : CompressedLineFile) : Nat :=
  if f.options.maxAge > 0 then
    (f.blocks.takeWhile fun block =>
      block.createdAt < (w.clock f.readings - f.options.maxAge) / 10 ^ 9).length
  else 0

/-- The bytes a block takes, with its sidecar record and the gaps inside or after it.  The gaps
are taken from the end, so each block counts those after its first line that are still left. -/
def sizeStartLoop (w : World) (f : CompressedLineFile) (target : Nat) :
    List CompressedBlock → List Nat → Nat → Nat → Nat
  | [], _, _, start => start
  | block :: older, gaps, used, start =>
    let here := gaps.takeWhile fun gap => block.firstLine < gap
    let size := blockSize block + w.searchIndexStoredBytes f.readings block +
      here.length * compressedBlockHeaderSize
    if used + size > target then start
    else sizeStartLoop w f target older (gaps.drop here.length) (used + size) (start - 1)

def overSize (w : World) (f : CompressedLineFile) : Bool :=
  f.options.maxBytes > 0 && f.writeOffset + w.searchIndexSize f.readings > f.options.maxBytes

/-- The first block that is kept for the size limit. -/
def sizeStart (w : World) (f : CompressedLineFile) : Nat :=
  if overSize w f then
    sizeStartLoop w f (f.options.maxBytes * 3 / 4) f.blocks.reverse f.gapOffsets.reverse 0
      f.blocks.length
  else 0

def enforceLimit (w : World) (f : CompressedLineFile) : Outcome :=
  let next := { f with readings := f.readings + 1 }
  if f.file = .nil then (next, none)
  else if ageStart w f > 0 ∨ overSize w f then
    next.rewriteBlocks w (max (ageStart w f) (sizeStart w f))
  else (next, none)

/-! ### Appending -/

/-- Write at the end of the file; nil and closed handles refuse. -/
def write (payload : Bytes) : Option CompressedLineFile :=
  match f.file with
  | .nil | .closed => none
  | .opened contents =>
    some { f with
      file := .opened (contents ++ payload), writeOffset := f.writeOffset + payload.length }

end

section

variable (c : Codecs) (options : CompressedLineFileOptions)

/-- The codec and the stored bytes of a block; a block that does not shrink is stored raw. -/
def compressBlock (raw : Bytes) : UInt8 × Bytes :=
  match options.compression with
  | .none => (compressedBlockCodecRaw, raw)
  | .zstd =>
    let compressed := c.zstdEncode options.compressionLevel raw
    if compressed.length ≥ raw.length then (compressedBlockCodecRaw, raw)
    else (compressedBlockCodecZstd, compressed)
  | .s2 =>
    let compressed := c.s2Encode options.compressionLevel raw
    if compressed.length ≥ raw.length then (compressedBlockCodecRaw, raw)
    else (compressedBlockCodecS2, compressed)

/-- The header of a block of lines. -/
def linesHeader (lines : List Line) (createdAt : Int) : BlockHeader :=
  let raw := encodeCompactLines lines
  let (codec, stored) := compressBlock c options raw
  ⟨compressedBlockKindLines, codec, lines.length, raw.length, stored.length,
    (c.crc32 raw).toNat, createdAt⟩

/-- The bytes of a block of lines. -/
def linesRecord (lines : List Line) (createdAt : Int) : Bytes :=
  makeCompressedBlockHeader (linesHeader c options lines createdAt) ++
    (compressBlock c options (encodeCompactLines lines)).2

end

/-- The entry of a block in the index kept in memory. -/
def BlockHeader.block (header : BlockHeader) (offset firstLine : Nat) (searchBloom : Option Nat) :
    CompressedBlock :=
  ⟨offset, firstLine, header.lineCount, header.rawLen % 2 ^ 32, header.storedLen % 2 ^ 32,
    header.codec, header.checksum, header.createdAt, searchBloom⟩

def flushPending (c : Codecs) (w : World) (f : CompressedLineFile) : Outcome :=
  if f.pending = [] then (f, none)
  else
    let createdAt := nowUnix w f
    match f.write (linesRecord c f.options f.pending createdAt) with
    | none => (f, some .write)
    | some written =>
      enforceLimit w { written with
        blocks := f.blocks ++
          [BlockHeader.block (linesHeader c f.options f.pending createdAt) f.writeOffset
            f.persistedLines (some (buildBlockSearchBloom f.pending))]
        persistedLines := f.persistedLines + f.pending.length
        pending := []
        pendingBytes := 0
        readings := f.readings + 1 }

/-- Take a line into `pending`. -/
def pend (f : CompressedLineFile) (line : Line) : CompressedLineFile :=
  { f with
    pending := f.pending ++ [line], pendingBytes := f.pendingBytes + compactLineEncodedSize line }

/-- One round of the loop of `AppendLines`. -/
def appendLine (c : Codecs) (w : World) (f : CompressedLineFile) (line : Line) : Outcome :=
  let flushed :=
    if f.pending ≠ [] ∧ f.pendingBytes + compactLineEncodedSize line > compressedBlockTargetBytes then
      flushPending c w f
    else (f, none)
  Outcome.andThen flushed fun f =>
    if (f.pend line).pendingBytes ≥ compressedBlockTargetBytes then flushPending c w (f.pend line)
    else (f.pend line, none)

def appendLoop (c : Codecs) (w : World) : List Line → CompressedLineFile → Outcome
  | [], f => (f, none)
  | line :: lines, f => Outcome.andThen (appendLine c w f line) (appendLoop c w lines)

def appendLines (c : Codecs) (w : World) (f : CompressedLineFile) (lines : List Line) : Outcome :=
  if lines = [] then (f, none)
  else if f.file = .nil then (f, some .invalid)
  else appendLoop c w lines f

/-- Write a header without payload. -/
def appendMark (w : World) (f : CompressedLineFile) (header : BlockHeader) (gaps : List Nat) : Outcome :=
  match f.write (makeCompressedBlockHeader header) with
  | none => (f, some .write)
  | some written =>
    enforceLimit w { written with gapOffsets := gaps, readings := f.readings + 1 }

def boundaryHeader (createdAt : Int) : BlockHeader :=
  ⟨compressedBlockKindBoundary, compressedBlockCodecRaw, 0, 0, 0, 0, createdAt⟩

section

variable (c : Codecs) (w : World) (f : CompressedLineFile)

def appendBoundary : Outcome :=
  Outcome.andThen (flushPending c w f) fun f =>
    appendMark w f (boundaryHeader (nowUnix w f)) f.gapOffsets

def appendGap : Outcome :=
  Outcome.andThen (flushPending c w f) fun f =>
    if f.gapOffsets.getLast? = some f.lineCount then (f, none)
    else appendMark w f (gapHeader f.lineCount (nowUnix w f)) (f.gapOffsets ++ [f.lineCount])

/-- `Sync`; the sync of a handle that was closed fails. -/
def sync : Outcome :=
  if f.file = .nil then (f, none)
  else
    Outcome.andThen (flushPending c w f) fun f =>
      if f.file = .closed then (f, some .closed) else (f, none)

def pruneRetention : Outcome :=
  if f.file = .nil then (f, none)
  else Outcome.andThen (flushPending c w f) (enforceLimit w)

/-- `Close`, with what is left on the disk. -/
def close : Outcome × Handle :=
  if f.file = .nil then ((f, none), .nil)
  else
    let flushed := flushPending c w f
    (({ flushed.1 with file := .nil }, flushed.2), flushed.1.file)

end

/-! ### Opening -/

/-- What a walk over the headers found so far. -/
structure Recovered where
  blocks : List CompressedBlock
  persistedLines : Nat
  gapOffsets : List Nat
  offset : Nat
  deriving DecidableEq, Repr

/-- Take the record of one header. -/
def Recovered.take (r : Recovered) (header : BlockHeader) : Except String Recovered :=
  let next := r.offset + compressedBlockHeaderSize + header.storedLen
  if header.kind = compressedBlockKindLines then
    if header.lineCount = 0 ∨ header.rawLen = 0 ∨ header.storedLen = 0 then
      .error "invalid empty compressed history block"
    else
      .ok { r with
        blocks := r.blocks ++ [BlockHeader.block header r.offset r.persistedLines none]
        persistedLines := r.persistedLines + header.lineCount
        offset := next }
  else if header.kind = compressedBlockKindBoundary then
    if header.lineCount ≠ 0 ∨ header.rawLen ≠ 0 ∨ header.storedLen ≠ 0 ∨
        header.codec ≠ compressedBlockCodecRaw then
      .error "invalid history boundary block"
    else .ok { r with offset := next }
  else if header.kind = compressedBlockKindGap then
    if header.rawLen ≠ 0 ∨ header.storedLen ≠ 0 ∨ header.codec ≠ compressedBlockCodecRaw ∨
        header.lineCount > r.persistedLines then
      .error "invalid history output gap block"
    else if r.gapOffsets.getLast? = some header.lineCount then .ok { r with offset := next }
    else .ok { r with gapOffsets := r.gapOffsets ++ [header.lineCount], offset := next }
  else .error "unsupported compressed history block kind"

/-- The walk over the bytes after `r.offset`; it ends before the first incomplete record. -/
def recoverLoop (rest : Bytes) (r : Recovered) : Except String Recovered :=
  if rest.length < compressedBlockHeaderSize then .ok r
  else
    match parseCompressedBlockHeader (rest.take compressedBlockHeaderSize) with
    | .error message => .error message
    | .ok header =>
      if rest.length < compressedBlockHeaderSize + header.storedLen then .ok r
      else
        match r.take header with
        | .error message => .error message
        | .ok r => recoverLoop (rest.drop (compressedBlockHeaderSize + header.storedLen)) r
termination_by rest.length
decreasing_by
  rw [List.length_drop]
  simp only [compressedBlockHeaderSize] at *
  omega

/-- Whether a file starts like a file of this version. -/
def currentFormat (contents : Bytes) : Bool :=
  6 ≤ contents.length && (field 4 contents).1 = compressedBlockMagic &&
    (field 2 (field 4 contents).2).1 = compressedBlockVersion

/-- The contents that are opened: a file of another format is removed first. -/
def openedContents : Handle → Bytes
  | .opened contents => if currentFormat contents then contents else []
  | _ => []

/-- The file for what a walk over these contents found. -/
def Recovered.file (r : Recovered) (options : CompressedLineFileOptions) (contents : Bytes) :
    CompressedLineFile :=
  { options, file := .opened (contents.take r.offset), blocks := r.blocks,
    persistedLines := r.persistedLines, pending := [], pendingBytes := 0, writeOffset := r.offset,
    retentionEpoch := 0, gapOffsets := r.gapOffsets, readings := 0 }

/-- `OpenCompressedLineFile`, for what is on the disk under the path. -/
def openCompressedLineFile (w : World) (options : CompressedLineFileOptions) (disk : Handle) :
    Except String CompressedLineFile :=
  match recoverLoop (openedContents disk) ⟨[], 0, [], 0⟩ with
  | .error message => .error message
  | .ok r =>
    match enforceLimit w (r.file options (openedContents disk)) with
    | (f, none) => .ok f
    | (_, some _) => .error "retention"

/-! ### Reading -/

def decodeStored (c : Codecs) (block : CompressedBlock) (stored : Bytes) : Except String Bytes :=
  if block.codec = compressedBlockCodecRaw then .ok stored
  else if block.codec = compressedBlockCodecZstd then
    match c.zstdDecode stored with
    | none => .error "zstd"
    | some raw => .ok raw
  else if block.codec = compressedBlockCodecS2 then
    if c.s2DecodedLen stored ≠ some block.rawLen then .error "invalid s2 history block size"
    else
      match c.s2Decode stored with
      | none => .error "s2"
      | some raw => .ok raw
  else .error "unsupported compressed history codec"

/-- `ReadAt` for a whole slice. -/
def readAt (handle : Handle) (offset length : Nat) : Except String Bytes :=
  match handle with
  | .nil | .closed => .error "read: invalid file"
  | .opened contents =>
    if contents.length < offset + length then .error "unexpected end of file"
    else .ok ((contents.drop offset).take length)

def readBlock (c : Codecs) (handle : Handle) (block : CompressedBlock) : Except String (List Line) := do
  let stored ← readAt handle (block.offset + compressedBlockHeaderSize) block.storedLen
  let raw ← decodeStored c block stored
  if raw.length ≠ block.rawLen ∨ (c.crc32 raw).toNat ≠ block.checksum then
    .error "compressed history block checksum mismatch"
  else
    let lines ← decodeCompactLines raw
    if lines.length ≠ block.lineCount then
      .error "compressed history block line count mismatch"
    else return lines

/-- The lines of a block between two line indices, with their indices. -/
def slice {α : Type} (start stop firstLine : Nat) (lines : List α) : List (Nat × α) :=
  ((lines.zipIdx firstLine).filter fun line => start ≤ line.2 ∧ line.2 < stop).map fun line =>
    (line.2, line.1)

/-- Visit lines until the visitor stops; whether it did not. -/
def visitSlice {σ α : Type} (visit : σ → Nat → α → σ × Bool) : List (Nat × α) → σ → σ × Bool
  | [], s => (s, true)
  | (index, line) :: rest, s =>
    match visit s index line with
    | (s, true) => visitSlice visit rest s
    | (s, false) => (s, false)

/-- Visit the lines of blocks that lie in a range of line indices, block by block. -/
def visitBlocks {σ : Type} (c : Codecs) (handle : Handle) (start stop : Nat) (reverse : Bool)
    (visit : σ → Nat → Line → σ × Bool) : List CompressedBlock → σ → Except String (σ × Bool)
  | [], s => .ok (s, true)
  | block :: blocks, s => do
    let lines ← readBlock c handle block
    let here := slice start stop block.firstLine lines
    match visitSlice visit (if reverse then here.reverse else here) s with
    | (s, true) => visitBlocks c handle start stop reverse visit blocks s
    | (s, false) => .ok (s, false)

/-- The blocks that hold lines of a range, in the order they are visited: the ones `sort.Search`
and the loop after it select in the ordered index. -/
def blocksIn (f : CompressedLineFile) (start stop : Nat) (reverse : Bool) : List CompressedBlock :=
  let here := (f.blocks.dropWhile fun block => block.firstLine + block.lineCount ≤ start).takeWhile
    fun block => block.firstLine < stop
  if reverse then here.reverse else here

/-- `VisitLines`, with the visitor's state; it gives no line for a file that is nil. -/
def visitLines {σ : Type} (c : Codecs) (f : CompressedLineFile) (start stop : Nat) (reverse : Bool)
    (visit : σ → Nat → Line → σ × Bool) (s : σ) : Except String σ :=
  if f.file = .nil then .ok s
  else
    let start := min start f.lineCount
    let stop := max start (min stop f.lineCount)
    let pending := slice start stop f.persistedLines f.pending
    let persistedEnd := min stop f.persistedLines
    if reverse then
      match visitSlice visit pending.reverse s with
      | (s, true) => do
        if start < persistedEnd then
          let visited ← visitBlocks c f.file start persistedEnd true visit
            (f.blocksIn start persistedEnd true) s
          return visited.1
        else return s
      | (s, false) => .ok s
    else do
      let visited ←
        if start < persistedEnd then
          visitBlocks c f.file start persistedEnd false visit (f.blocksIn start persistedEnd false) s
        else .ok (s, true)
      if visited.2 then return (visitSlice visit pending visited.1).1 else return visited.1

/-- `Lines`: the visitor collects every line. -/
def lines (c : Codecs) (f : CompressedLineFile) (start stop : Nat) : Except String (List Line) :=
  f.visitLines c start stop false (fun found _ line => (found ++ [line], true)) []

end CompressedLineFile

end Anytty.LineHist
