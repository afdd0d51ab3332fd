import Anytty.Output.Buffer

/-!
# Terminals sharing one resident budget

Any number of output buffers, each with its writer, its two consumer loops and
whoever closes it, draw on one `terminalOutputResidentBudget`. A step is one
region under one lock, so every interleaving the locks allow is a run.

* `Write` calls on one buffer are serialized by `writeMu`, so a buffer has one
  writer, which stands at one of the points of `Writer`.
* A wait on a condition variable is the region that finds nothing to do and is
  tried again.
* The map of registered buffers is iterated in any order.

Next to the program's state a terminal records the bytes its writer got accepted
and what each consumer was handed.
-/

namespace Anytty.Output

open Function

/-! ## The budget -/

/-- `terminalOutputResidentBudget`. Buffers are named by their index. -/
structure ResidentBudget where
  maxBytes : Int
  resident : Int := 0
  closed : Bool := false
  buffers : List Nat := []

/-- `newTerminalOutputResidentBudget`. -/
def newResidentBudget (maxBytes : Int) : ResidentBudget :=
  let minBytes : Int := 64 * 1024
  let limit : Int := 2 * 1024 * 1024 * 1024
  { maxBytes :=
      if maxBytes < minBytes ∨ maxBytes > limit then 512 * 1024 * 1024 else maxBytes }

namespace ResidentBudget

variable (budget : ResidentBudget)

/-- `register`. -/
def register (i : Nat) : ResidentBudget :=
  if budget.closed then budget else { budget with buffers := i :: budget.buffers }

/-- `unregister`. -/
def unregister (i : Nat) : ResidentBudget :=
  { budget with buffers := budget.buffers.filter (· != i) }

/-- `budget.resident+bytes <= budget.maxBytes`. -/
def fits (bytes : Int) : Bool := budget.resident + bytes ≤ budget.maxBytes

/-- `budget.resident += bytes`. -/
def add (bytes : Int) : ResidentBudget := { budget with resident := budget.resident + bytes }

/-- `release`, with its clamp at zero. -/
def release (bytes : Int) : ResidentBudget :=
  if bytes ≤ 0 then budget
  else
    let resident := budget.resident - bytes
    { budget with resident := if resident < 0 then 0 else resident }

/-- `close`. -/
def close : ResidentBudget := { budget with closed := true }

end ResidentBudget

/-! ## The goroutines of one terminal -/

/-- What `Write` is working on: the chunk and what follows it. -/
structure WriteJob where
  chunk : List UInt8
  rest : List UInt8

/-- Where a writer stands. The comments name the lock it takes next. -/
inductive Writer
  /-- no `Write` call is running -/
  | idle
  /-- `writeChunk`: `buffer.mu`, for the local capacity check -/
  | gate (w : WriteJob)
  /-- `budget.mu`, to release what a local drop freed, then back to the check -/
  | gateRelease (freed : Int) (w : WriteJob)
  /-- `reserve`: `buffer.mu`, for `acceptingOutput` -/
  | reserve (w : WriteJob)
  /-- `reserve`: `budget.mu` -/
  | lockBudget (w : WriteJob)
  /-- `reserve`: the next candidate's `buffer.mu`, for `dropForAggregate` -/
  | evict (remaining : Int) (candidates : List Nat) (w : WriteJob)
  /-- `dropForAggregate`: `budget.mu`, to release what the candidate freed -/
  | evictRelease (freed remaining : Int) (candidates : List Nat) (w : WriteJob)
  /-- `reserve`: `budget.mu`, for the second and last try -/
  | retry (w : WriteJob)
  /-- `writeChunk` after a refused reservation: `buffer.mu` -/
  | refused (w : WriteJob)
  /-- `writeChunk` with its bytes reserved: `buffer.mu` -/
  | reserved (w : WriteJob)
  /-- `budget.mu`, for the last release; `writeChunk` then returns `ok` -/
  | finish (freed : Int) (ok : Bool) (rest : List UInt8)

/-- Where a consumer's `run` stands. -/
inductive Reader
  /-- `run` has not been called -/
  | ready
  /-- before `next` -/
  | idle
  /-- in the ingest callback -/
  | batch (batch : OutputBatch)
  /-- in the gap callback -/
  | gap (gap : OutputGap)
  /-- `budget.mu`, to release what a completion freed; `err` and `handler` say
  whether the callback failed and whether there is a failure callback -/
  | release (freed : Int) (err handler : Bool)
  /-- in the failure callback -/
  | failing
  /-- `run` has returned -/
  | finished

/-- Where the first `Close` stands. Later calls return at once. -/
inductive Closer
  | idle
  | release (freed : Int)
  | unregister
  | done

/-- What a consumer's callbacks were given. -/
inductive Handed
  | batch (payload : List UInt8)
  | gap (droppedBytes : Nat)
  deriving DecidableEq, Repr

/-- One terminal: its buffer, the goroutines that use it, and the record of what
was accepted from the writer and handed to each consumer. -/
structure Terminal where
  buffer : OutputBuffer
  writer : Writer := .idle
  readers : Consumer → Reader := fun _ => .ready
  closer : Closer := .idle
  enabled : Consumer → Bool
  accepted : List UInt8 := []
  handed : Consumer → List Handed := fun _ => []

/-- A terminal with a new buffer. -/
def newTerminal (config : BufferConfig) (historyEnabled : Bool) : Terminal :=
  { buffer := newOutputBuffer config historyEnabled
    enabled := fun
      | .live => true
      | .history => historyEnabled }

namespace Terminal

variable (t : Terminal)

/-- The head of `Write`'s loop: the next chunk, or the end. -/
def nextChunk (payload : List UInt8) : Writer :=
  if payload = [] then .idle
  else
    let size := min payload.length chunkBytes
    let size := if (size : Int) > t.buffer.config.capacityBytes
      then t.buffer.config.capacityBytes.toNat else size
    .gate ⟨payload.take size, payload.drop size⟩

/-- `Write` takes `writeMu`. -/
def write (payload : List UInt8) : Terminal := { t with writer := t.nextChunk payload }

/-- The chunk becomes a gap, and `writeChunk` will return true. -/
def dropIncoming (b : OutputBuffer) (w : WriteJob) : Terminal :=
  let r := b.dropIncoming w.chunk.length
  { t with
    buffer := r.1
    writer := .finish r.2 true w.rest
    accepted := t.accepted ++ w.chunk }

/-- `writeChunk`: one pass through the local capacity check. -/
def gate (w : WriteJob) : Terminal :=
  let b := t.buffer
  if !b.closed && !b.sealed && b.hasActiveConsumer &&
      decide (b.resident + w.chunk.length > b.config.capacityBytes) then
    if b.config.overflow = .drop then
      let r := b.dropOldest w.chunk.length
      if r.2 = 0 then t.dropIncoming r.1 w
      else { t with buffer := r.1, writer := .gateRelease r.2 w }
    else t
  else if b.closed || b.sealed then { t with writer := .idle }
  else if !b.hasActiveConsumer then
    { t with writer := t.nextChunk w.rest, accepted := t.accepted ++ w.chunk }
  else { t with writer := .reserve w }

/-- `reserve` up to the budget: nothing to reserve, refused, or on. -/
def tryReserve (w : WriteJob) : Terminal :=
  if w.chunk = [] then { t with writer := .reserved w }
  else if !t.buffer.closed && !t.buffer.sealed && t.buffer.hasActiveConsumer then
    { t with writer := .lockBudget w }
  else { t with writer := .refused w }

/-- `writeChunk` after a refused reservation. -/
def refuse (w : WriteJob) : Terminal :=
  if t.buffer.closed || t.buffer.sealed || t.buffer.config.overflow = .block then
    { t with writer := .idle }
  else t.dropIncoming t.buffer w

/-- `writeChunk` with its bytes reserved. -/
def append (w : WriteJob) : Terminal :=
  if t.buffer.closed || t.buffer.sealed then
    { t with writer := .finish w.chunk.length false w.rest }
  else
    let r := t.buffer.append w.chunk
    { t with
      buffer := r.1
      writer := .finish r.2 true w.rest
      accepted := t.accepted ++ w.chunk }

/-- Move one consumer's loop. -/
def setReader (c : Consumer) (reader : Reader) : Terminal :=
  { t with readers := update t.readers c reader }

/-- The start of `run`. -/
def start (c : Consumer) : Terminal :=
  let r := t.buffer.start c
  if r.2 then { t with buffer := r.1 }.setReader c .idle else t

/-- The consumer is handed an event and goes into the callback. -/
def hand (c : Consumer) (b : OutputBuffer) (event : Handed) (reader : Reader) : Terminal :=
  { t with
    buffer := b
    readers := update t.readers c reader
    handed := update t.handed c (t.handed c ++ [event]) }

/-- `run` calls `next`. -/
def next (c : Consumer) : Terminal :=
  match t.buffer.next c with
  | (_, .wait) => t
  | (_, .stop) => t.setReader c .finished
  | (b, .gap g) => t.hand c b (.gap g.droppedBytes) (.gap g)
  | (b, .batch batch) => t.hand c b (.batch batch.payload) (.batch batch)

/-- The callback returned and the region of a completion has run. -/
def completed (c : Consumer) (r : OutputBuffer × Int) (err : Option String) (handler : Bool) :
    Terminal :=
  { t with buffer := r.1 }.setReader c (.release r.2 err.isSome handler)

/-- `Close`, the first time. -/
def close : Terminal :=
  { t with buffer := t.buffer.close.1, closer := .release t.buffer.close.2 }

/-- A step of one terminal's goroutines that does not touch the budget. -/
inductive Step : Terminal → Terminal → Prop
  | write {t : Terminal} (payload : List UInt8) : t.writer = .idle → Step t (t.write payload)
  | gate {t : Terminal} {w : WriteJob} : t.writer = .gate w → Step t (t.gate w)
  | tryReserve {t : Terminal} {w : WriteJob} : t.writer = .reserve w → Step t (t.tryReserve w)
  | noCandidate {t : Terminal} {remaining : Int} {w : WriteJob} :
      t.writer = .evict remaining [] w → Step t { t with writer := .retry w }
  | refuse {t : Terminal} {w : WriteJob} : t.writer = .refused w → Step t (t.refuse w)
  | append {t : Terminal} {w : WriteJob} : t.writer = .reserved w → Step t (t.append w)
  | start {t : Terminal} (c : Consumer) : t.readers c = .ready → Step t (t.start c)
  | next {t : Terminal} {c : Consumer} : t.readers c = .idle → Step t (t.next c)
  | completeBatch {t : Terminal} {c : Consumer} {batch : OutputBatch} (err : Option String)
      (handler : Bool) : t.readers c = .batch batch →
      Step t (t.completed c (t.buffer.completeBatch c batch err handler) err handler)
  | completeGap {t : Terminal} {c : Consumer} {gap : OutputGap} (err : Option String)
      (handler : Bool) : t.readers c = .gap gap →
      Step t (t.completed c (t.buffer.completeGap c gap err handler) err handler)
  | handled {t : Terminal} {c : Consumer} : t.readers c = .failing →
      Step t ({ t with buffer := t.buffer.completeFailureHandling c }.setReader c .finished)
  | sealBuffer {t : Terminal} : Step t { t with buffer := t.buffer.sealBuffer }
  | close {t : Terminal} : t.buffer.closed = false → Step t t.close

/-- A step that releases bytes to the budget and nothing else. -/
inductive ReleaseStep : Terminal → Int → Terminal → Prop
  | gate {t : Terminal} {freed : Int} {w : WriteJob} : t.writer = .gateRelease freed w →
      ReleaseStep t freed { t with writer := .gate w }
  | evicted {t : Terminal} {freed remaining : Int} {candidates : List Nat} {w : WriteJob} :
      t.writer = .evictRelease freed remaining candidates w →
      ReleaseStep t freed { t with
        writer := if remaining ≤ 0 then .retry w else .evict remaining candidates w }
  | finish {t : Terminal} {freed : Int} {ok : Bool} {rest : List UInt8} :
      t.writer = .finish freed ok rest →
      ReleaseStep t freed { t with writer := if ok then t.nextChunk rest else .idle }
  | reader {t : Terminal} {c : Consumer} {freed : Int} {err handler : Bool} :
      t.readers c = .release freed err handler →
      ReleaseStep t freed
        (t.setReader c (if !err then .idle else if handler then .failing else .finished))
  | closer {t : Terminal} {freed : Int} : t.closer = .release freed →
      ReleaseStep t freed { t with closer := .unregister }

end Terminal

/-! ## The system -/

/-- The budget and the terminals created so far, `count` of them. -/
structure System where
  budget : ResidentBudget
  count : Nat := 0
  terminals : Nat → Terminal

namespace System

variable (s : System)

/-- Replace one terminal. -/
def setTerminal (i : Nat) (t : Terminal) : System :=
  { s with terminals := update s.terminals i t }

/-- Move one terminal's writer. -/
def setWriter (i : Nat) (writer : Writer) : System :=
  s.setTerminal i { s.terminals i with writer := writer }

/-- A candidate's buffer after `dropForAggregate`, with the bytes freed. -/
def dropForAggregate (b : OutputBuffer) (required : Int) : OutputBuffer × Int :=
  if required ≤ 0 ∨ b.config.overflow ≠ .drop then (b, 0) else b.dropOldest required

/-- The candidates for eviction, in the order the map yields its keys. -/
def Candidates (s : System) (candidates : List Nat) : Prop :=
  candidates.Perm
    (s.budget.buffers.filter fun i => (s.terminals i).buffer.config.overflow == .drop)

/-- One region of the system. -/
inductive Step : System → System → Prop
  | newBuffer {s : System} (config : BufferConfig) (historyEnabled : Bool) :
      Step s
        { budget := s.budget.register s.count
          count := s.count + 1
          terminals := update s.terminals s.count (newTerminal config historyEnabled) }
  | closeBudget {s : System} : Step s { s with budget := s.budget.close }
  | terminal {s : System} {i : Nat} {t : Terminal} : i < s.count →
      Terminal.Step (s.terminals i) t → Step s (s.setTerminal i t)
  | release {s : System} {i : Nat} {n : Int} {t : Terminal} : i < s.count →
      Terminal.ReleaseStep (s.terminals i) n t →
      Step s { s.setTerminal i t with budget := s.budget.release n }
  | budgetClosed {s : System} {i : Nat} {w : WriteJob} : i < s.count →
      (s.terminals i).writer = .lockBudget w → s.budget.closed = true →
      Step s (s.setWriter i (.refused w))
  | reserve {s : System} {i : Nat} {w : WriteJob} : i < s.count →
      (s.terminals i).writer = .lockBudget w ∨ (s.terminals i).writer = .retry w →
      s.budget.closed = false → s.budget.fits w.chunk.length = true →
      Step s { s.setWriter i (.reserved w) with budget := s.budget.add w.chunk.length }
  | waitBudget {s : System} {i : Nat} {w : WriteJob} : i < s.count →
      (s.terminals i).writer = .lockBudget w → s.budget.closed = false →
      s.budget.fits w.chunk.length = false → (s.terminals i).buffer.config.overflow = .block →
      Step s (s.setWriter i (.reserve w))
  | evictFrom {s : System} {i : Nat} {w : WriteJob} {candidates : List Nat} : i < s.count →
      (s.terminals i).writer = .lockBudget w → s.budget.closed = false →
      s.budget.fits w.chunk.length = false → (s.terminals i).buffer.config.overflow ≠ .block →
      s.Candidates candidates →
      Step s (s.setWriter i
        (.evict (s.budget.resident + w.chunk.length - s.budget.maxBytes) candidates w))
  | evict {s s' : System} {i j : Nat} {remaining : Int} {candidates : List Nat} {w : WriteJob}
      {r : OutputBuffer × Int} : i < s.count →
      (s.terminals i).writer = .evict remaining (j :: candidates) w →
      r = dropForAggregate (s.terminals j).buffer remaining →
      s' = s.setTerminal j { s.terminals j with buffer := r.1 } →
      Step s (s'.setWriter i (.evictRelease r.2 (remaining - r.2) candidates w))
  | refuse {s : System} {i : Nat} {w : WriteJob} : i < s.count →
      (s.terminals i).writer = .retry w →
      s.budget.closed = true ∨ s.budget.fits w.chunk.length = false →
      Step s (s.setWriter i (.refused w))
  | unregister {s : System} {i : Nat} : i < s.count → (s.terminals i).closer = .unregister →
      Step s { s.setTerminal i { s.terminals i with closer := .done } with
        budget := s.budget.unregister i }

/-- No buffer yet. The terminals past `count` are never looked at. -/
def initial (maxBytes : Int) : System :=
  { budget := newResidentBudget maxBytes
    terminals := fun _ => newTerminal BufferConfig.default true }

/-- The states of all runs. -/
def Reachable (s : System) : Prop :=
  ∃ maxBytes, Relation.ReflTransGen Step (initial maxBytes) s

end System

end Anytty.Output
