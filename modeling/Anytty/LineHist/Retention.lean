import Anytty.LineHist.Crash

/-!
# A line file with retention

What a file is to its callers while retention drops its oldest blocks: one list of lines, the
appended ones without those that were dropped, with their indices counted anew after each rewrite.
`Keeps` is the invariant of an open file, whatever its limits are.  A rewrite copies the bytes of the
blocks it keeps, so that they read as before from their new places.  `run_listed` holds for every
sequence of calls without an error.
-/

namespace Anytty.LineHist

open Anytty.Wire List

namespace CompressedLineFile

variable {c : Codecs} {w : World} {f : CompressedLineFile} {contents : Bytes}
  {first : Nat} {block : CompressedBlock} {blocks : List CompressedBlock} {lines : List Line}

/-! ### Blocks that are copied -/

/-- The bytes of a record that a rewrite copies. -/
def copied (contents : Bytes) (block : CompressedBlock) : Bytes :=
  (contents.drop block.offset).take (blockSize block)

section

variable (read : readBlock c (.opened contents) block = .ok lines)
include read

theorem readBlock_inside : block.offset + blockSize block ≤ contents.length := by
  obtain ⟨stored, here, -⟩ := ok_of_bind read
  unfold readAt at here
  dsimp only at here
  split at here
  · cases here
  · unfold blockSize
    omega

theorem copied_length : (copied contents block).length = blockSize block := by
  have inside := readBlock_inside read
  rw [copied, length_take, length_drop]
  omega

/-- A block reads as before from the place its record was copied to. -/
theorem readBlock_copied (pre post : Bytes) (first : Nat) :
    readBlock c (.opened (pre ++ (copied contents block ++ post)))
      { block with offset := pre.length, firstLine := first } = .ok lines := by
  have inside := readBlock_inside read
  have length := copied_length read
  have payload : (copied contents block).drop compressedBlockHeaderSize =
      (contents.drop (block.offset + compressedBlockHeaderSize)).take block.storedLen := by
    rw [copied, drop_take, drop_drop, blockSize, Nat.add_sub_cancel_left]
  have stored : readAt (.opened (pre ++ (copied contents block ++ post)))
      (pre.length + compressedBlockHeaderSize) block.storedLen =
        readAt (.opened contents) (block.offset + compressedBlockHeaderSize) block.storedLen := by
    unfold blockSize at inside length
    unfold readAt
    dsimp only
    rw [if_neg (by simp only [length_append]; omega), if_neg (by omega), drop_append,
      drop_eq_nil_of_le (by omega), nil_append, Nat.add_sub_cancel_left,
      drop_append_of_le_length (by omega), take_append_of_le_length, payload,
      take_take, Nat.min_self]
    rw [length_drop]
    omega
  rw [← read]
  unfold readBlock
  rw [stored]
  rfl

theorem readBlock_append (more : Bytes) :
    readBlock c (.opened (contents ++ more)) block = .ok lines := by
  have moved := readBlock_copied read (contents.take block.offset)
    (contents.drop (block.offset + blockSize block) ++ more) block.firstLine
  have start : (contents.take block.offset).length = block.offset := by
    have inside := readBlock_inside read
    rw [length_take]
    omega
  rw [start, copied, ← drop_drop, ← List.append_assoc (List.take (blockSize block) _),
    take_append_drop, ← List.append_assoc, take_append_drop] at moved
  exact moved

end

theorem Reads.append (reads : Reads c (.opened contents) first blocks lines) (more : Bytes) :
    Reads c (.opened (contents ++ more)) first blocks lines := by
  induction reads with
  | nil => exact .nil
  | cons firstLine lineCount read _ ih =>
    exact .cons firstLine lineCount (readBlock_append read more) ih

theorem Reads.inside (reads : Reads c (.opened contents) first blocks lines) :
    ∀ block ∈ blocks, block.offset + blockSize block ≤ contents.length := by
  induction reads with
  | nil => exact nofun
  | cons _ _ read _ ih =>
    exact forall_mem_cons.mpr ⟨readBlock_inside read, ih⟩

variable {handle : Handle}

section

variable (reads : Reads c handle first blocks lines)
include reads

/-- The blocks tile the indices of the lines. -/
theorem Reads.tiles :
    blocks.flatMap (fun block => List.range' block.firstLine block.lineCount) =
      List.range' first lines.length := by
  induction reads with
  | nil => rfl
  | cons firstLine lineCount _ _ ih =>
    rw [flatMap_cons, ih, firstLine, lineCount, length_append, range'_append_1]

theorem Reads.count : (blocks.map (·.lineCount)).sum = lines.length := by
  induction reads with
  | nil => rfl
  | cons _ lineCount _ _ ih =>
    rw [map_cons, sum_cons, ih, lineCount, length_append]

/-- Dropping blocks drops lines, those before the first block that is kept. -/
theorem Reads.drop (start : Nat) :
    ∃ dropped, Reads c handle (first + dropped) (blocks.drop start) (lines.drop dropped) ∧
      (blocks[start]?.map (·.firstLine)).getD (first + lines.length) = first + dropped := by
  induction reads generalizing start with
  | nil => exact ⟨0, by rw [drop_nil]; exact .nil, rfl⟩
  | @cons first block blocks batch rest firstLine lineCount read more ih =>
    cases start with
    | zero => exact ⟨0, .cons firstLine lineCount read more, firstLine⟩
    | succ start =>
      obtain ⟨dropped, reads, starts⟩ := ih start
      refine ⟨batch.length + dropped, ?_, ?_⟩
      · rwa [drop_succ_cons, drop_length_add_append, ← Nat.add_assoc]
      · rwa [List.getElem?_cons_succ, length_append, ← Nat.add_assoc, ← Nat.add_assoc]

end

theorem Reads.relocated (reads : Reads c (.opened contents) first blocks lines)
    (pre post : Bytes) (first' : Nat) :
    Reads c (.opened (pre ++ (blocks.flatMap (copied contents) ++ post))) first'
      (relocate pre.length first' blocks) lines := by
  induction reads generalizing pre first' with
  | nil => exact .nil
  | @cons first block blocks batch rest _ lineCount read _ ih =>
    have here := readBlock_copied read pre (blocks.flatMap (copied contents) ++ post) first'
    have more := ih (pre ++ copied contents block) (first' + batch.length)
    rw [length_append, copied_length read, List.append_assoc] at more
    rw [flatMap_cons, List.append_assoc]
    exact .cons rfl lineCount here (lineCount ▸ more)

theorem relocate_apart (offset first : Nat) (blocks : List CompressedBlock) :
    ((relocate offset first blocks).Pairwise fun block next =>
      block.offset + blockSize block ≤ next.offset) ∧
      ∀ block ∈ relocate offset first blocks, offset ≤ block.offset := by
  induction blocks generalizing offset first with
  | nil => exact ⟨.nil, nofun⟩
  | cons block blocks ih =>
    obtain ⟨apart, after⟩ := ih (offset + blockSize block) (first + block.lineCount)
    refine ⟨pairwise_cons.mpr ⟨after, apart⟩, fun other mem => ?_⟩
    rcases mem_cons.mp mem with rfl | mem
    · exact Nat.le_refl _
    · exact (Nat.le_add_right _ _).trans (after other mem)

/-! ### Gaps -/

/-- Positions in a list of `count` lines, each after the one before. -/
def Positions (count : Nat) (gaps : List Nat) : Prop :=
  gaps.Pairwise (· < ·) ∧ ∀ gap ∈ gaps, gap ≤ count

theorem Positions.kept {count : Nat} (positions : Positions count f.gapOffsets) (dropped : Nat) :
    Positions (count - dropped) (f.keptGaps dropped) := by
  constructor
  · refine pairwise_map.mpr ((positions.1.filter _).imp_of_mem fun _ mem lt => ?_)
    have kept := of_decide_eq_true (mem_filter.mp mem).2
    omega
  · intro gap mem
    obtain ⟨old, kept, rfl⟩ := mem_map.mp mem
    exact Nat.sub_le_sub_right (positions.2 old (mem_filter.mp kept).1) dropped

theorem Positions.concat {count : Nat} {gaps : List Nat} (positions : Positions count gaps)
    (new : gaps.getLast? ≠ some count) : Positions count (gaps ++ [count]) := by
  obtain ⟨rising, within⟩ := positions
  refine ⟨pairwise_append.mpr ⟨rising, pairwise_singleton .., ?_⟩, ?_⟩
  · intro gap mem end_ is
    rw [mem_singleton.mp is]
    refine Nat.lt_of_le_of_ne (within gap mem) fun same => new ?_
    -- Nothing that rises beyond the largest position can follow it.
    obtain ⟨before, after, rfl⟩ := append_of_mem mem
    cases after with
    | nil => rw [same, List.getLast?_concat]
    | cons next after =>
      have later := within next (by simp)
      rw [pairwise_append, pairwise_cons] at rising
      have := rising.2.1.1 next mem_cons_self
      omega
  · exact forall_mem_append.mpr ⟨within, forall_mem_singleton.mpr le_rfl⟩

/-! ### The invariant -/

/-- The length of the line and of its block fit the header. -/
def Fits (line : Line) : Prop := 1 + compactLineEncodedSize line ≤ 2 ^ 32 - 1

/-- An open file whose blocks hold the lines `written`. -/
structure Keeps (c : Codecs) (f : CompressedLineFile) (contents : Bytes) (written : List Line) :
    Prop where
  file : f.file = .opened contents
  writeOffset : f.writeOffset = contents.length
  reads : Reads c (.opened contents) 0 f.blocks (written.map Line.stored)
  apart : f.blocks.Pairwise fun block next => block.offset + blockSize block ≤ next.offset
  persistedLines : f.persistedLines = written.length
  rising : f.gapOffsets.Pairwise (· < ·)
  within : ∀ gap ∈ f.gapOffsets, gap ≤ written.length
  pendingBytes : f.pendingBytes = Log.lineBytes f.pending
  shaped : f.pending.length ≤ 1 ∨ f.pendingBytes ≤ compressedBlockTargetBytes
  fits : ∀ line ∈ f.pending, Fits line

/-- The file keeps a suffix of the lines given to it. -/
def Retains (c : Codecs) (f : CompressedLineFile) (known : List Line) : Prop :=
  ∃ contents written, Keeps c f contents written ∧ written ++ f.pending <:+ known

variable {written known : List Line}

theorem droppedLines_eq {start : Nat} : f.droppedLines start =
    (f.blocks[start]?.map (·.firstLine)).getD f.persistedLines := by
  unfold droppedLines
  cases f.blocks[start]? <;> rfl

section

variable (keeps : Keeps c f contents written)
include keeps

/-- The file that takes the place of the old one. -/
theorem Keeps.adopt (start : Nat) (now : Int) :
    ∃ dropped, Keeps c (f.adopt (f.rewritten contents start now) start)
      (f.rewritten contents start now) (written.drop dropped) := by
  obtain ⟨dropped, reads, starts⟩ := keeps.reads.drop start
  have first : f.droppedLines start = dropped := by
    rw [Nat.zero_add, Nat.zero_add, length_map, ← keeps.persistedLines] at starts
    exact droppedLines_eq.trans starts
  rw [← map_drop] at reads
  have gaps := Positions.kept ⟨keeps.rising, keeps.within⟩ (f.droppedLines start)
  subst first
  rw [← length_drop] at gaps
  exact ⟨_, rfl, rfl, reads.relocated [] _ 0, (relocate_apart 0 0 _).1,
    reads.count.trans (length_map _), gaps.1, gaps.2, keeps.pendingBytes, keeps.shaped,
    keeps.fits⟩

omit keeps in
theorem rewriteBlocks_adopts {start : Nat} (file : f.file = .opened contents) :
    (f.rewriteBlocks w start).2 = none → ∃ now epoch, (f.rewriteBlocks w start).1 =
      { f.adopt (f.rewritten contents start now) start with retentionEpoch := epoch } := by
  unfold rewriteBlocks
  rw [file]
  dsimp only
  split
  · exact nofun
  split
  · exact nofun
  · exact nofun
  · exact nofun
  · exact nofun
  · exact nofun
  · exact nofun
  split
  · exact fun _ => ⟨_, _, rfl⟩
  · exact fun _ => ⟨_, f.retentionEpoch, rfl⟩

omit keeps in
/-- The limits hold, or the file is rewritten. -/
theorem enforceLimit_cases (file : f.file = .opened contents) (ok : (enforceLimit w f).2 = none) :
    (¬(ageStart w f > 0 ∨ overSize w f) ∧
      (enforceLimit w f).1 = { f with readings := f.readings + 1 }) ∨
    (ageStart w f > 0 ∨ overSize w f) ∧ ∃ now epoch, (enforceLimit w f).1 =
      { f.adopt (f.rewritten contents (max (ageStart w f) (sizeStart w f)) now)
          (max (ageStart w f) (sizeStart w f)) with
        readings := f.readings + 1, retentionEpoch := epoch } := by
  unfold enforceLimit at ok ⊢
  rw [if_neg (by rw [file]; exact nofun)] at ok ⊢
  rcases em (ageStart w f > 0 ∨ overSize w f) with limited | unlimited
  · rw [if_pos limited] at ok ⊢
    exact .inr ⟨limited, rewriteBlocks_adopts (by exact file) ok⟩
  · rw [if_neg unlimited]
    exact .inl ⟨unlimited, rfl⟩

/-- Retention drops lines from the front only. -/
theorem Keeps.enforceLimit (empty : f.pending = [])
    (suffix : written <:+ known) (ok : (enforceLimit w f).2 = none) :
    Retains c (enforceLimit w f).1 known := by
  rcases enforceLimit_cases keeps.file ok with ⟨-, same⟩ | ⟨-, now, epoch, same⟩
  · rw [same]
    exact ⟨contents, written, { keeps with }, by rwa [empty, append_nil]⟩
  obtain ⟨dropped, adopted⟩ := keeps.adopt (max (ageStart w f) (sizeStart w f)) now
  rw [same]
  refine ⟨_, _, { adopted with }, ?_⟩
  show _ ++ f.pending <:+ known
  rw [empty, append_nil]
  exact (drop_suffix dropped written).trans suffix

theorem Keeps.flush (suffix : written ++ f.pending <:+ known)
    (ok : (flushPending c w f).2 = none) : Retains c (flushPending c w f).1 known := by
  rcases em (f.pending = []) with empty | some_line
  · rw [flushPending, if_pos empty]
    exact ⟨contents, written, keeps, suffix⟩
  have size : compactLinesEncodedSize f.pending < 2 ^ 32 := Nat.lt_succ_of_le
    (Log.shaped_size (shaped_pending some_line keeps.pendingBytes keeps.shaped) _ (by decide)
      keeps.fits)
  have raw := raw_length c f.options f.pending (nowUnix w f)
  have payload := payload_length_le c f.options f.pending (nowUnix w f)
  rw [flushPending, if_neg some_line] at ok ⊢
  unfold write at ok ⊢
  rw [keeps.file] at ok ⊢
  refine enforceLimit { keeps with
    file := rfl, writeOffset := ?_, reads := ?_, apart := ?_, persistedLines := ?_, within := ?_
    pendingBytes := rfl, shaped := .inl (Nat.zero_le 1), fits := forall_mem_nil _ } rfl suffix ok
  · rw [length_append, ← keeps.writeOffset]
  · rw [map_append]
    refine (keeps.reads.append _).concat ?_ (length_map _).symm ?_
    · rw [Nat.zero_add, length_map]
      exact keeps.persistedLines
    · have record : linesRecord c f.options f.pending (nowUnix w f) =
          (Record.lines f.pending (nowUnix w f)).encode c f.options ++ [] :=
        (append_nil _).symm
      rw [record]
      refine readBlock_record contents [] size keeps.writeOffset rfl ?_ ?_ rfl rfl
      · exact (Nat.mod_eq_of_lt (raw ▸ size)).trans raw
      · exact Nat.mod_eq_of_lt (payload.trans_lt size)
  · refine pairwise_append.mpr ⟨keeps.apart, pairwise_singleton .., ?_⟩
    intro block mem next last
    rw [mem_singleton.mp last]
    exact keeps.writeOffset ▸ keeps.reads.inside block mem
  · rw [length_append, ← keeps.persistedLines]
  · intro gap mem
    rw [length_append]
    exact (keeps.within gap mem).trans (Nat.le_add_right _ _)

end

/-- A call on a file with retention. -/
inductive Call where
  | of (op : Op)
  | pruneRetention
  deriving DecidableEq, Repr

def Call.apply (c : Codecs) (w : World) (f : CompressedLineFile) : Call → Outcome
  | .of op => op.apply c w f
  | .pruneRetention => f.pruneRetention c w

def Call.appended : Call → List Line
  | .of op => op.appended
  | .pruneRetention => []

/-- The calls one after the other, up to the first error. -/
def runCalls (c : Codecs) (w : World) : List Call → CompressedLineFile → Outcome
  | [], f => (f, none)
  | call :: calls, f => Outcome.andThen (call.apply c w f) (runCalls c w calls)

section Calls

variable {good : Line → Prop} {P : CompressedLineFile → List Line → Prop}
  (kept : Kept c w good (fun f known _ => P f known) False)
  (prune : ∀ {f known}, P f known → f.pending = [] → (enforceLimit w f).2 = none →
    P (enforceLimit w f).1 known)
include kept prune

theorem Kept.call (holds : P f known) (call : Call) (fine : ∀ line ∈ call.appended, good line) :
    Leads (fun f known _ => P f known) False (call.apply c w f) (known ++ call.appended) [] := by
  cases call with
  | of op => exact (kept.apply op fine holds : Leads _ _ _ _ ([] ++ _))
  | pruneRetention =>
    rw [Call.appended, append_nil]
    show Leads _ _ (f.pruneRetention c w) known []
    unfold pruneRetention
    have opened : f.file ≠ .nil := @Kept.not_nil _ _ _ _ _ _ _ [] kept holds
    rw [if_neg opened]
    have flush : Leads _ _ _ known [] := kept.flush holds
    exact flush.andThen fun flushed holds' =>
      ⟨False.elim, prune holds' (flushPending_pending flushed)⟩

/-- What the parts of the calls keep holds after every sequence of calls without an error. -/
theorem Kept.calls (known : List Line) (holds : P f known) (calls : List Call)
    (fine : ∀ line ∈ calls.flatMap Call.appended, good line)
    (ok : (runCalls c w calls f).2 = none) :
    P (runCalls c w calls f).1 (known ++ calls.flatMap Call.appended) := by
  suffices Leads (fun f known _ => P f known) False (runCalls c w calls f)
    (known ++ calls.flatMap Call.appended) [] from this.2 ok
  clear ok
  induction calls generalizing f known with
  | nil => exact .done (by rwa [flatMap_nil, append_nil])
  | cons call calls ih =>
    rw [flatMap_cons] at fine ⊢
    refine (kept.call prune holds call fun line mem =>
      fine line (mem_append_left _ mem)).andThen fun _ holds' => ?_
    rw [← List.append_assoc]
    exact ih _ holds' fun line mem => fine line (mem_append_right _ mem)

end Calls

/-- The file as a list of lines: the lines that were appended, without those that were dropped from
the front.  A line that was written has the timestamp its encoding keeps. -/
structure Listed (c : Codecs) (f : CompressedLineFile) (appended : List Line) : Prop where
  tiles : f.blocks.flatMap (fun block => List.range' block.firstLine block.lineCount) =
    List.range f.persistedLines
  apart : f.blocks.Pairwise fun block next => block.offset + blockSize block ≤ next.offset
  below : ∀ block ∈ f.blocks, block.offset + blockSize block ≤ f.writeOffset
  rising : f.gapOffsets.Pairwise (· < ·)
  within : ∀ gap ∈ f.gapOffsets, gap ≤ f.lineCount
  visits : ∃ written, written ++ f.pending <:+ appended ∧
    f.lineCount = (written ++ f.pending).length ∧
    ∀ (start stop : Nat) (reverse : Bool) (σ : Type) (visit : σ → Nat → Line → σ × Bool) (s : σ),
      f.visitLines c start stop reverse visit s = .ok (visitSlice visit
        (if reverse then (slice start stop 0 (written.map Line.stored ++ f.pending)).reverse
          else slice start stop 0 (written.map Line.stored ++ f.pending)) s).1

theorem Retains.listed (retains : Retains c f known) : Listed c f known := by
  obtain ⟨contents, written, keeps, suffix⟩ := retains
  have count : f.persistedLines = (written.map Line.stored).length := by
    rw [length_map, keeps.persistedLines]
  have reads : Reads c f.file 0 f.blocks (written.map Line.stored) := keeps.file ▸ keeps.reads
  refine ⟨?_, keeps.apart, ?_, keeps.rising, fun gap mem => ?_, written, suffix, ?_, ?_⟩
  · rw [reads.tiles, count, range_eq_range']
  · exact keeps.writeOffset ▸ keeps.reads.inside
  · rw [lineCount, keeps.persistedLines]
    exact (keeps.within gap mem).trans (Nat.le_add_right _ _)
  · rw [lineCount, keeps.persistedLines, length_append]
  · intro start stop reverse σ visit s
    exact reads.visitLines (by rw [keeps.file]; rintro ⟨⟩) count start stop reverse visit s

end CompressedLineFile

end Anytty.LineHist
