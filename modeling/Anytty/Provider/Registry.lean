import Mathlib

/-!
# The attachment registry of the terminal provider

One `attachmentRegistry` arbitrates, for every terminal, which attachment owns
its size. Ownership is kept in three maps (`owners`, `epochs`, `sizeLocks`) and
in the attachments themselves, which the source handles through pointers:
`register` stores a copy of the caller's attachment, `update` stores the
caller's own object, and promotion writes through whatever pointer is stored.
The model keeps these pointers: attachments live in `objects`, and `byKey` maps
a key to an address.

* The key `"session:channel"` is the pair of its two numbers.
* `owners[t] == ""` and a missing entry read the same in the source; both are
  `none` here. A missing epoch reads as 0.
* Every operation runs under `registry.mu`, so each is one function on states.
-/

namespace Anytty.Provider

open Function

abbrev TerminalID := String

/-- Address of an attachment object. -/
abbrev Ptr := Nat

inductive AttachmentMode
  | collaborator
  | observer
deriving DecidableEq, Repr, Inhabited

inductive ResizePolicy
  | owner
  | follower
  | observer
deriving DecidableEq, Repr, Inhabited

structure AttachmentKey where
  sessionID : Nat
  channel : Nat
deriving DecidableEq, Repr

structure ProviderAttachment where
  sessionID : Nat
  terminalID : TerminalID
  channel : Nat
  mode : AttachmentMode
  resizePolicy : ResizePolicy
  surfaceID : String
  viewID : String
  epoch : Nat
  token : List UInt8
deriving DecidableEq, Repr, Inhabited

def attachmentKey (attachment : ProviderAttachment) : AttachmentKey :=
  ⟨attachment.sessionID, attachment.channel⟩

namespace ProviderAttachment

/-- `attachment.resizePolicy = resizePolicyOwner; attachment.epoch = epoch`. -/
def owning (a : ProviderAttachment) (epoch : Nat) : ProviderAttachment :=
  { a with resizePolicy := .owner, epoch := epoch }

/-- The fields `update` copies from the caller's attachment to the stored one. -/
def adopt (a caller : ProviderAttachment) : ProviderAttachment :=
  { a with
    resizePolicy := caller.resizePolicy, surfaceID := caller.surfaceID, viewID := caller.viewID }

def withEpoch (a : ProviderAttachment) (epoch : Nat) : ProviderAttachment :=
  { a with epoch := epoch }

def withPolicy (a : ProviderAttachment) (policy : ResizePolicy) : ProviderAttachment :=
  { a with resizePolicy := policy }

end ProviderAttachment

structure Size where
  cols : Nat
  rows : Nat
deriving DecidableEq, Repr

inductive ResizeReason
  | owner
  | follower
  | observer
  | sizeLocked
deriving DecidableEq, Repr

structure ResizeOwnership where
  ownerAttachmentId : AttachmentKey
  ownerSurfaceId : String
  ownerViewId : String
  size : Size
  sizeLocked : Bool
  epoch : Nat
deriving DecidableEq, Repr

structure ResizeControl where
  canResize : Bool
  reason : ResizeReason
  sizeLocked : Bool
  surfaceId : String
  ownerSurfaceId : String
  ownerViewId : String
  resizeOwnership : Option ResizeOwnership
deriving DecidableEq, Repr

/-- `attachmentRegistry` with the attachment objects it and its callers point
to. Addresses from `nextPtr` on are unused. -/
structure AttachmentRegistry where
  objects : Ptr → ProviderAttachment
  nextPtr : Ptr
  byKey : AList fun _ : AttachmentKey => Ptr
  owners : TerminalID → Option AttachmentKey
  epochs : TerminalID → Nat
  sizeLocks : TerminalID → Option Bool
  nextEpoch : Nat

def newAttachmentRegistry : AttachmentRegistry :=
  { objects := fun _ => default, nextPtr := 0, byKey := ∅, owners := fun _ => none,
    epochs := fun _ => 0, sizeLocks := fun _ => none, nextEpoch := 0 }

/-- The promotion order: session, channel, surface, view. -/
def attachmentPromotionLess (left right : ProviderAttachment) : Bool :=
  if left.sessionID ≠ right.sessionID then left.sessionID < right.sessionID
  else if left.channel ≠ right.channel then left.channel < right.channel
  else if left.surfaceID ≠ right.surfaceID then left.surfaceID < right.surfaceID
  else left.viewID < right.viewID

namespace AttachmentRegistry

variable (r : AttachmentRegistry)

/-- `&attachment`: a new object. -/
@[simps -fullyApplied]
def alloc (attachment : ProviderAttachment) : AttachmentRegistry :=
  { r with objects := update r.objects r.nextPtr attachment, nextPtr := r.nextPtr + 1 }

/-- `*p = attachment`. -/
@[simps -fullyApplied]
def store (p : Ptr) (attachment : ProviderAttachment) : AttachmentRegistry :=
  { r with objects := update r.objects p attachment }

@[simps -fullyApplied]
def setByKey (key : AttachmentKey) (p : Ptr) : AttachmentRegistry :=
  { r with byKey := r.byKey.insert key p }

@[simps -fullyApplied]
def setOwner (t : TerminalID) (key : Option AttachmentKey) : AttachmentRegistry :=
  { r with owners := update r.owners t key }

@[simps -fullyApplied]
def setLock (t : TerminalID) (locked : Bool) : AttachmentRegistry :=
  { r with sizeLocks := update r.sizeLocks t (some locked) }

/-- `registry.sizeLocks[t]`, a missing entry reading as `false`. -/
def sizeLocked (t : TerminalID) : Bool := (r.sizeLocks t).getD false

/-- `registry.byKey[registry.owners[t]]`. -/
def ownerPtr (t : TerminalID) : Option Ptr :=
  (r.owners t).bind r.byKey.lookup

/-- Takes the next epoch for `t`; the value returned by the source is the new
`nextEpoch`. -/
@[simps -fullyApplied]
def advanceEpochLocked (t : TerminalID) : AttachmentRegistry :=
  { r with nextEpoch := r.nextEpoch + 1,
           epochs := update r.epochs t (r.nextEpoch + 1) }

/-- The three assignments with which `register` and `update` make the attachment
at `p` the owner of its terminal. -/
def takeOwnership (p : Ptr) : AttachmentRegistry :=
  let a := r.objects p
  let r := r.advanceEpochLocked a.terminalID
  let r := r.store p (a.owning r.nextEpoch)
  r.setOwner a.terminalID (some (attachmentKey a))

/-- One round of the loop of `promoteOwnerLocked`. -/
def selectStep (t : TerminalID) (excluded : AttachmentKey)
    (selected : Option (Σ _ : AttachmentKey, Ptr)) (entry : Σ _ : AttachmentKey, Ptr) :
    Option (Σ _ : AttachmentKey, Ptr) :=
  let a := r.objects entry.2
  if entry.1 = excluded ∨ a.terminalID ≠ t ∨ a.resizePolicy = .observer then selected
  else match selected with
    | none => some entry
    | some best => if attachmentPromotionLess a (r.objects best.2) then some entry else selected

def selectOwner (t : TerminalID) (excluded : AttachmentKey) : Option (Σ _ : AttachmentKey, Ptr) :=
  r.byKey.entries.foldl (r.selectStep t excluded) none

/-- Writes through the stored pointer: when that is the copy made by `register`,
the caller's own object keeps its old policy. -/
def promoteOwnerLocked (t : TerminalID) (excluded : AttachmentKey) : Bool × AttachmentRegistry :=
  match r.selectOwner t excluded with
  | none => (false, r)
  | some selected =>
    let r := r.advanceEpochLocked t
    let r := r.store selected.2 ((r.objects selected.2).owning r.nextEpoch)
    (true, r.setOwner t (some selected.1))

/-- The owner `key` of `t` gives up: the next attachment is promoted, or the
ownerless terminal takes a new epoch. -/
def releaseOwnership (t : TerminalID) (key : AttachmentKey) : AttachmentRegistry :=
  match (r.setOwner t none).promoteOwnerLocked t key with
  | (true, r) => r
  | (false, r) => r.advanceEpochLocked t

def controlLocked (a : ProviderAttachment) (size : Size) : ResizeControl :=
  let key := attachmentKey a
  let sizeLocked := r.sizeLocked a.terminalID
  let ownerless : ResizeControl :=
    { canResize := false
      reason := if a.resizePolicy = .observer then .observer else .follower
      sizeLocked := sizeLocked, surfaceId := a.surfaceID
      ownerSurfaceId := "", ownerViewId := "", resizeOwnership := none }
  match r.ownerPtr a.terminalID with
  | none => ownerless
  | some p =>
    let owner := r.objects p
    if owner.terminalID ≠ a.terminalID then ownerless
    else
      let isOwner := decide (r.owners a.terminalID = some key ∧ a.resizePolicy = .owner)
      { canResize := isOwner && !sizeLocked
        reason :=
          if sizeLocked && isOwner then .sizeLocked
          else if a.resizePolicy = .observer then .observer
          else if isOwner && !sizeLocked then .owner
          else .follower
        sizeLocked := sizeLocked, surfaceId := a.surfaceID
        ownerSurfaceId := owner.surfaceID, ownerViewId := owner.viewID
        resizeOwnership := some
          { ownerAttachmentId := attachmentKey owner, ownerSurfaceId := owner.surfaceID
            ownerViewId := owner.viewID, size := size, sizeLocked := sizeLocked
            epoch := owner.epoch } }

/-- `register` makes the attachment owner when it asks for it, or when the
terminal has no owner and it is no observer. -/
def registerTakesOwner (a : ProviderAttachment) : Bool :=
  decide (a.resizePolicy = .owner ∨ (r.owners a.terminalID = none ∧ a.resizePolicy ≠ .observer))

/-- The size lock of a terminal is set from its tags as long as no lock is stored. -/
def initialLock (t : TerminalID) (initialSizeLocked : Bool) : AttachmentRegistry :=
  if r.sizeLocks t = none ∧ initialSizeLocked = true then r.setLock t true else r

def register (p : Ptr) (size : Size) (initialSizeLocked : Bool) :
    AttachmentRegistry × ResizeControl :=
  let a := r.objects p
  let r := r.initialLock a.terminalID initialSizeLocked
  let r := if r.registerTakesOwner a then r.takeOwnership p else r
  -- `stored := *attachment`, after the assignments above
  let stored := r.nextPtr
  let r := (r.alloc (r.objects p)).setByKey (attachmentKey a) stored
  (r, r.controlLocked (r.objects stored) size)

/-- First block of `update`: the caller's policy, surface and view go to the
stored object and the stored epoch goes to the caller's. An unknown key is
stored with the caller's object. -/
def syncStored (p : Ptr) : AttachmentRegistry :=
  let a := r.objects p
  match r.byKey.lookup (attachmentKey a) with
  | some current =>
    let r := r.store current ((r.objects current).adopt a)
    r.store p ((r.objects p).withEpoch (r.objects current).epoch)
  | none => r.setByKey (attachmentKey a) p

/-- The epoch a take-over is checked against. -/
def ownerEpoch (t : TerminalID) : Nat :=
  if r.epochs t = 0 then
    match r.ownerPtr t with
    | some owner => (r.objects owner).epoch
    | none => 0
  else r.epochs t

def canTakeOwner (t : TerminalID) (takeOwner : Bool) (expectedOwnerEpoch : Nat) : Bool :=
  takeOwner && (expectedOwnerEpoch == 0 || expectedOwnerEpoch == r.ownerEpoch t)

/-- The `switch` of `update`, on the state after `syncStored`. -/
def settleOwner (p : Ptr) (takeOwner : Bool) (expectedOwnerEpoch : Nat) : AttachmentRegistry :=
  let a := r.objects p
  let key := attachmentKey a
  let t := a.terminalID
  if r.canTakeOwner t takeOwner expectedOwnerEpoch ∧ r.owners t ≠ some key then
    r.takeOwnership p
  else if r.owners t = some key ∧ a.resizePolicy ≠ .owner then
    r.releaseOwnership t key
  else if r.owners t = some key then
    r.store p (a.owning (r.ownerEpoch t))
  else r

/-- Afterwards the registry holds the caller's own object. -/
def update (p : Ptr) (size : Size) (takeOwner : Bool)
    (expectedOwnerEpoch : Nat) : AttachmentRegistry × ResizeControl :=
  let key := attachmentKey (r.objects p)
  let r := (r.syncStored p).settleOwner p takeOwner expectedOwnerEpoch
  let r := r.setByKey key p
  (r, r.controlLocked (r.objects p) size)

def unregister (p : Ptr) : AttachmentRegistry :=
  let a := r.objects p
  let key := attachmentKey a
  let r := { r with byKey := r.byKey.erase key }
  if r.owners a.terminalID = some key then r.releaseOwnership a.terminalID key else r

/-- The lock change of `setSizeLock`: the epoch moves with the lock, and the
owner's stored epoch follows. -/
def changeLock (t : TerminalID) (locked : Bool) : AttachmentRegistry :=
  if r.sizeLocked t ≠ locked then
    let r := r.advanceEpochLocked t
    let epoch := r.nextEpoch
    let r := r.setLock t locked
    match r.ownerPtr t with
    | some owner => r.store owner ((r.objects owner).withEpoch epoch)
    | none => r
  else r

def setSizeLock (p : Ptr) (size : Size) (locked : Bool) :
    AttachmentRegistry × Except String ResizeControl :=
  let a := r.objects p
  let key := attachmentKey a
  match r.byKey.lookup key with
  | none => (r, .error "provider: attachment is no longer active")
  | some current =>
    if r.owners a.terminalID ≠ some key ∨ (r.objects current).resizePolicy ≠ .owner then
      (r, .ok (r.controlLocked (r.objects current) size))
    else
      let r := r.changeLock a.terminalID locked
      -- `*attachment = *current`
      let r := match r.byKey.lookup key with
        | some current => r.store p (r.objects current)
        | none => r
      (r, .ok (r.controlLocked (r.objects p) size))

/-- The operation `control` only reads. -/
def control (p : Ptr) (size : Size) : ResizeControl :=
  r.controlLocked (r.objects p) size

end AttachmentRegistry

end Anytty.Provider
