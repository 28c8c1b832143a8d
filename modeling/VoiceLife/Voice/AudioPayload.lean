import VoiceLife.Lib.Bitmap
import VoiceLife.Lib.Transducer

/-! # `audio_payload.cc`: payloads and the slots they lease

A pool hands out slots as bits of a bitmap, and a payload owns a slot until it is reset. The slots that
the pool marks available and those that live payloads own are the slots of the pool, each once
(`Ledger`), whatever is done with the payloads (`slots_accounted`).
-/

namespace VoiceLife.Voice

/-! ## The pool -/

/-- `AudioPayloadPool::kSlotsPerBitmapWord`. -/
def kSlotsPerBitmapWord : ℕ := 32

/-- `AudioPayloadPool::kBitmapWordCount`. -/
def kBitmapWordCount : ℕ := 4

/-- `AudioPayloadPool::kMaximumSlots`. -/
def kMaximumSlots : ℕ := kSlotsPerBitmapWord * kBitmapWordCount

/-- `AudioPayloadPool`. -/
structure AudioPayloadPool where
  slotCount : ℕ
  slotBytes : ℕ
  availableSlots : Fin kBitmapWordCount → BitVec kSlotsPerBitmapWord
  inUse : ℕ := 0
  highWatermark : ℕ := 0
  acquisitionFailures : ℕ := 0

/-- `AvailableMask`. -/
def availableMask (slotCount : ℕ) : BitVec kSlotsPerBitmapWord :=
  if slotCount = kSlotsPerBitmapWord then BitVec.allOnes kSlotsPerBitmapWord
  else (1#(kSlotsPerBitmapWord) <<< slotCount) - 1#(kSlotsPerBitmapWord)

namespace AudioPayloadPool

/-- `AudioPayloadPool::Initialize`. -/
def initialized (slotCount slotBytes : ℕ) : AudioPayloadPool where
  slotCount
  slotBytes
  availableSlots := fun word =>
    let wordStart := word * kSlotsPerBitmapWord
    let slotsInWord :=
      if wordStart < slotCount then min kSlotsPerBitmapWord (slotCount - wordStart) else 0
    if slotsInWord = 0 then 0#(kSlotsPerBitmapWord) else availableMask slotsInWord

/-- `AudioPayloadPool::Create`: `sizeMax` is the largest `std::size_t`, and `allocated` says whether there
is memory. -/
def create (sizeMax : ℕ) (allocated : Bool) (slotCount slotBytes : ℕ) : Option AudioPayloadPool :=
  if slotCount = 0 ∨ slotCount > kMaximumSlots ∨ slotBytes = 0 ∨ slotCount > sizeMax / slotBytes then none
  else if allocated then some (initialized slotCount slotBytes)
  else none

/-- The loop of `TryAcquire` over the words, with the slot that it finds. -/
def acquireFrom (pool : AudioPayloadPool) : List (Fin kBitmapWordCount) → Option ℕ × AudioPayloadPool
  | [] => (none, { pool with acquisitionFailures := pool.acquisitionFailures + 1 })
  | word :: words =>
    let available := pool.availableSlots word
    if available ≠ 0#(kSlotsPerBitmapWord) then
      let selected := Bitmap.lowestBit available
      let next := available &&& ~~~selected
      let inUse := pool.inUse + 1
      (some (word * kSlotsPerBitmapWord + selected.ctz.toNat),
        { pool with
          availableSlots := Function.update pool.availableSlots word next
          inUse
          highWatermark := max pool.highWatermark inUse })
    else pool.acquireFrom words

/-- `AudioPayloadPool::TryAcquire`. -/
def tryAcquire (pool : AudioPayloadPool) : Option ℕ × AudioPayloadPool :=
  pool.acquireFrom (List.finRange kBitmapWordCount)

/-- `AudioPayloadPool::Release`. -/
def release (pool : AudioPayloadPool) (slot : ℕ) : AudioPayloadPool :=
  if slot ≥ pool.slotCount then pool
  else if h : slot / kSlotsPerBitmapWord < kBitmapWordCount then
    let word : Fin kBitmapWordCount := ⟨slot / kSlotsPerBitmapWord, h⟩
    let slotBit := 1#(kSlotsPerBitmapWord) <<< (slot % kSlotsPerBitmapWord)
    let previous := pool.availableSlots word
    { pool with
      availableSlots := Function.update pool.availableSlots word (previous ||| slotBit)
      inUse := if previous &&& slotBit = 0#(kSlotsPerBitmapWord) then pool.inUse - 1 else pool.inUse }
  else pool

/-- The pool marks the slot available. -/
def available (pool : AudioPayloadPool) (slot : ℕ) : Bool :=
  Bitmap.mem pool.availableSlots slot

end AudioPayloadPool

/-! ## Payloads -/

/-- `AudioPayload`. A pooled payload points into the bytes of its pool: `pooledData` is the offset. -/
structure AudioPayload (ι : Type) where
  pool : Option ι := none
  slot : ℕ := 0
  pooledData : Option ℕ := none
  pooledCapacity : ℕ := 0
  pooledSize : ℕ := 0
  heapBytes : List UInt8 := []

namespace AudioPayload

variable {ι : Type}

/-- The payload that `TryAcquire` returns. -/
def lease (pool : ι) (slot slotBytes : ℕ) : AudioPayload ι where
  pool := some pool
  slot
  pooledData := some (slot * slotBytes)
  pooledCapacity := slotBytes
  pooledSize := slotBytes

/-- `AudioPayload::size`. -/
def size (payload : AudioPayload ι) : ℕ :=
  if payload.pool.isSome then payload.pooledSize else payload.heapBytes.length

/-- `AudioPayload::resize`. -/
def resize (payload : AudioPayload ι) (size : ℕ) : AudioPayload ι :=
  if payload.pool.isSome then { payload with pooledSize := min size payload.pooledCapacity }
  else
    { payload with
      heapBytes := payload.heapBytes.take size ++ List.replicate (size - payload.heapBytes.length) 0 }

/-- What a moved-from payload is left with. Its vector has been moved from and is empty. -/
def movedFrom (other : AudioPayload ι) : AudioPayload ι :=
  { other with pool := none, slot := 0, pooledData := none, pooledCapacity := 0, pooledSize := 0, heapBytes := [] }

end AudioPayload

/-- What happens to the leases of the pools. -/
inductive LeaseEvent (ι : Type) where
  | acquired (pool : ι) (slot : ℕ)
  | released (pool : ι) (slot : ℕ)
  | exhausted (pool : ι)
deriving DecidableEq

/-- The pools, and the payload objects that have been constructed, without the destroyed ones. -/
structure Payloads (ι : Type) where
  pools : ι → AudioPayloadPool
  objects : List (Option (AudioPayload ι)) := []

/-- What can be done with payloads. The objects are numbered as they are constructed. `assignBytes` is
the assignment of a vector or an initializer list and the `assign` of a range. -/
inductive PayloadOperation (ι : Type) where
  | construct
  | tryAcquire (pool : ι)
  | moveConstruct (other : ℕ)
  | moveAssign (target other : ℕ)
  | assignBytes (target : ℕ) (bytes : List UInt8)
  | assign (target count : ℕ) (value : UInt8)
  | resize (target size : ℕ)
  | destroy (target : ℕ)

namespace Payloads

variable {ι : Type} [DecidableEq ι]

/-- The object with a number, while it lives. -/
def object (payloads : Payloads ι) (number : ℕ) : Option (AudioPayload ι) :=
  (payloads.objects[number]?).join

/-- Replaces an object. -/
def put (payloads : Payloads ι) (number : ℕ) (payload : Option (AudioPayload ι)) : Payloads ι :=
  { payloads with objects := payloads.objects.set number payload }

/-- A new object. -/
def construct (payloads : Payloads ι) (payload : AudioPayload ι) : Payloads ι :=
  { payloads with objects := payloads.objects ++ [some payload] }

/-- `AudioPayload::Reset`. -/
def reset (payloads : Payloads ι) (number : ℕ) : List (LeaseEvent ι) × Payloads ι :=
  match payloads.object number with
  | none => ([], payloads)
  | some payload =>
    match payload.pool with
    | none => ([], payloads.put number (some {}))
    | some pool =>
      ([.released pool payload.slot],
        { payloads with
          pools := Function.update payloads.pools pool ((payloads.pools pool).release payload.slot) }.put
            number (some {}))

/-- The move assignment of another object. -/
def moveAssign (payloads : Payloads ι) (target other : ℕ) : List (LeaseEvent ι) × Payloads ι :=
  if target = other then ([], payloads)
  else
    match payloads.object target, payloads.object other with
    | some _, some _ =>
      let (events, payloads) := payloads.reset target
      match payloads.object other with
      | some source => (events, (payloads.put target (some source)).put other (some source.movedFrom))
      | none => (events, payloads)
    | _, _ => ([], payloads)

/-- One operation. On an object that does not live nothing is done. -/
def step (payloads : Payloads ι) : PayloadOperation ι → List (LeaseEvent ι) × Payloads ι
  | .construct => ([], payloads.construct {})
  | .tryAcquire pool =>
    match (payloads.pools pool).tryAcquire with
    | (some slot, next) =>
      ([.acquired pool slot],
        { payloads with pools := Function.update payloads.pools pool next }.construct
          (.lease pool slot next.slotBytes))
    | (none, next) =>
      ([.exhausted pool],
        { payloads with pools := Function.update payloads.pools pool next }.construct {})
  | .moveConstruct other =>
    match payloads.object other with
    | some _ => (payloads.construct {}).moveAssign payloads.objects.length other
    | none => ([], payloads)
  | .moveAssign target other => payloads.moveAssign target other
  | .assignBytes target bytes =>
    match payloads.object target with
    | some _ =>
      let (events, payloads) := payloads.reset target
      (events, payloads.put target (some { heapBytes := bytes }))
    | none => ([], payloads)
  | .assign target count value =>
    match payloads.object target with
    | some _ =>
      let (events, payloads) := payloads.reset target
      (events, payloads.put target (some { heapBytes := List.replicate count value }))
    | none => ([], payloads)
  | .resize target size =>
    match payloads.object target with
    | some payload => ([], payloads.put target (some (payload.resize size)))
    | none => ([], payloads)
  | .destroy target =>
    match payloads.object target with
    | some _ =>
      let (events, payloads) := payloads.reset target
      (events, payloads.put target none)
    | none => ([], payloads)

end Payloads

/-! ## The ledger of one pool -/

/-- The slots that a pool marks available and the owned ones are the slots of the pool, each once. -/
structure Ledger (pool : AudioPayloadPool) (owned : List ℕ) : Prop where
  bound : pool.slotCount ≤ kMaximumSlots
  nodup : owned.Nodup
  slot_lt : ∀ slot ∈ owned, slot < pool.slotCount
  available_iff : ∀ slot, pool.available slot = true ↔ slot < pool.slotCount ∧ slot ∉ owned
  inUse : pool.inUse = owned.length

theorem Ledger.perm {pool : AudioPayloadPool} {owned owned' : List ℕ} (h : Ledger pool owned)
    (hperm : owned.Perm owned') : Ledger pool owned' where
  bound := h.bound
  nodup := hperm.nodup_iff.1 h.nodup
  slot_lt slot hslot := h.slot_lt slot (hperm.mem_iff.2 hslot)
  available_iff slot := by rw [h.available_iff, hperm.mem_iff]
  inUse := h.inUse.trans hperm.length_eq

/-- The number of slots that are marked available. -/
def AudioPayloadPool.availableCount (pool : AudioPayloadPool) : ℕ :=
  ((List.range kMaximumSlots).filter (fun slot => pool.available slot)).length

theorem Ledger.count {pool : AudioPayloadPool} {owned : List ℕ} (h : Ledger pool owned) :
    pool.availableCount + owned.length = pool.slotCount := by
  have hperm : ((List.range kMaximumSlots).filter (fun slot => pool.available slot) ++ owned).Perm
      (List.range pool.slotCount) := by
    refine (List.perm_ext_iff_of_nodup ?_ List.nodup_range).2 fun slot => ?_
    · refine List.Nodup.append (List.nodup_range.filter _) h.nodup ?_
      intro slot hleft hright
      exact ((h.available_iff slot).1 (List.mem_filter.1 hleft).2).2 hright
    · have hbound := h.bound
      have hlt := h.slot_lt slot
      simp only [List.mem_append, List.mem_filter, List.mem_range, h.available_iff]
      by_cases howned : slot ∈ owned
      · simp [howned, hlt howned]
      · simp only [howned, not_false_eq_true, and_true, or_false]
        omega
  rw [AudioPayloadPool.availableCount, ← List.length_append, hperm.length_eq, List.length_range]

theorem getLsbD_availableMask {slotCount : ℕ} (hcount : slotCount ≤ kSlotsPerBitmapWord) (bit : ℕ) :
    (availableMask slotCount).getLsbD bit = decide (bit < slotCount) := by
  unfold availableMask
  split
  · next hfull => rw [hfull, BitVec.getLsbD_allOnes]
  · next hne => exact Bitmap.getLsbD_mask (lt_of_le_of_ne hcount hne) bit

theorem available_initialized (slotCount slotBytes slot : ℕ) (hcount : slotCount ≤ kMaximumSlots) :
    (AudioPayloadPool.initialized slotCount slotBytes).available slot = decide (slot < slotCount) := by
  unfold AudioPayloadPool.available AudioPayloadPool.initialized
  by_cases hslot : slot < kMaximumSlots
  · obtain ⟨word, bit, hbit, rfl⟩ := Bitmap.exists_index (hslot.trans_eq (Nat.mul_comm _ _))
    rw [Bitmap.mem_index _ _ hbit]
    dsimp only
    by_cases hstart : word * kSlotsPerBitmapWord < slotCount
    · rw [if_pos hstart, if_neg (by simp only [kSlotsPerBitmapWord] at *; omega),
        getLsbD_availableMask (min_le_left _ _)]
      rw [decide_eq_decide]
      omega
    · rw [if_neg hstart, if_pos rfl, decide_eq_false (by omega)]
      simp
  · rw [Bitmap.mem_of_ge ((Nat.mul_comm _ _).trans_le (not_lt.1 hslot)), decide_eq_false (by omega)]

theorem initialized_ledger {slotCount slotBytes : ℕ} (hcount : slotCount ≤ kMaximumSlots) :
    Ledger (.initialized slotCount slotBytes) [] where
  bound := hcount
  nodup := List.nodup_nil
  slot_lt := by simp
  available_iff slot := by
    rw [available_initialized slotCount slotBytes slot hcount, decide_eq_true_iff]
    exact (and_iff_left List.not_mem_nil).symm
  inUse := rfl

/-- One slot of a pool changes hands: it is marked `mark`, and `inUse` slots are leased. -/
structure Marked (pool : AudioPayloadPool) (slot : ℕ) (mark : Bool) (inUse : ℕ) (next : AudioPayloadPool) :
    Prop where
  slotCount : next.slotCount = pool.slotCount
  slotBytes : next.slotBytes = pool.slotBytes
  available : ∀ other, next.available other = if other = slot then mark else pool.available other
  inUse : next.inUse = inUse

/-- The loop of `TryAcquire` takes a slot that is available, or none of the words has one. -/
theorem acquireFrom_cases (pool : AudioPayloadPool) (words : List (Fin kBitmapWordCount)) :
    ((∀ word ∈ words, pool.availableSlots word = 0#(kSlotsPerBitmapWord)) ∧
        pool.acquireFrom words = (none, { pool with acquisitionFailures := pool.acquisitionFailures + 1 })) ∨
      ∃ slot next, pool.acquireFrom words = (some slot, next) ∧ pool.available slot = true ∧
        Marked pool slot false (pool.inUse + 1) next := by
  induction words with
  | nil => exact .inl ⟨by simp, rfl⟩
  | cons word words ih =>
      rw [AudioPayloadPool.acquireFrom]
      dsimp only
      split
      · next hne =>
          have hset := BitVec.getLsbD_true_ctz_of_ne_zero hne
          have hbit := BitVec.lt_of_getLsbD hset
          refine .inr ⟨_, _, rfl, ?_, rfl, rfl, ?_, rfl⟩
          · rw [Bitmap.ctz_lowestBit hne]
            exact (Bitmap.mem_index _ _ hbit).trans hset
          · intro other
            rw [Bitmap.ctz_lowestBit hne]
            refine Bitmap.mem_update hbit (fun j hj => ?_) other
            rw [BitVec.getLsbD_and, BitVec.getLsbD_not, Bitmap.getLsbD_lowestBit hne]
            by_cases hlow : j = (pool.availableSlots word).ctz.toNat
            · simp [hlow]
            · simp [hlow, hj]
      · next hzero =>
          rcases ih with ⟨hwords, heq⟩ | hfound
          · refine .inl ⟨?_, heq⟩
            intro other hmem
            rcases List.mem_cons.1 hmem with rfl | hmem
            · exact not_not.1 hzero
            · exact hwords other hmem
          · exact .inr hfound

/-- `TryAcquire` takes a slot that no payload owns, or every slot is owned. -/
theorem tryAcquire_ledger {pool : AudioPayloadPool} {owned : List ℕ} (h : Ledger pool owned) :
    (pool.tryAcquire.1 = none ∧ (∀ slot < pool.slotCount, slot ∈ owned) ∧ Ledger pool.tryAcquire.2 owned ∧
        pool.tryAcquire.2.slotCount = pool.slotCount ∧ pool.tryAcquire.2.slotBytes = pool.slotBytes) ∨
      ∃ slot, pool.tryAcquire.1 = some slot ∧ Ledger pool.tryAcquire.2 (slot :: owned) ∧
        pool.tryAcquire.2.slotCount = pool.slotCount ∧ pool.tryAcquire.2.slotBytes = pool.slotBytes := by
  rw [AudioPayloadPool.tryAcquire]
  rcases acquireFrom_cases pool (List.finRange kBitmapWordCount) with ⟨hempty, heq⟩ | ⟨slot, next, heq, hslot, hmark⟩
  · rw [heq]
    refine .inl ⟨rfl, ?_, ⟨h.bound, h.nodup, h.slot_lt, h.available_iff, h.inUse⟩, rfl, rfl⟩
    intro slot hslot
    by_contra hfree
    have havailable := (h.available_iff slot).2 ⟨hslot, hfree⟩
    obtain ⟨word, bit, hbit, rfl⟩ :=
      Bitmap.exists_index ((hslot.trans_le h.bound).trans_eq (Nat.mul_comm _ _))
    rw [AudioPayloadPool.available, Bitmap.mem_index _ _ hbit, hempty word (List.mem_finRange word)] at havailable
    simp at havailable
  · rw [heq]
    obtain ⟨hlt, hfree⟩ := (h.available_iff slot).1 hslot
    refine .inr ⟨slot, rfl, ⟨?_, ?_, ?_, ?_, ?_⟩, hmark.slotCount, hmark.slotBytes⟩
    · exact hmark.slotCount.trans_le h.bound
    · exact List.nodup_cons.2 ⟨hfree, h.nodup⟩
    · intro other hother
      rw [hmark.slotCount]
      rcases List.mem_cons.1 hother with rfl | hother
      · exact hlt
      · exact h.slot_lt other hother
    · intro other
      rw [hmark.available, hmark.slotCount, List.mem_cons, not_or]
      split
      · next heq => simp [heq]
      · next hne => simp [hne, h.available_iff]
    · rw [hmark.inUse, h.inUse, List.length_cons]

/-- `Release` of a slot that is not available. -/
theorem release_marked {pool : AudioPayloadPool} {slot : ℕ} (hbound : pool.slotCount ≤ kMaximumSlots)
    (hslot : slot < pool.slotCount) (hleased : pool.available slot = false) :
    Marked pool slot true (pool.inUse - 1) (pool.release slot) := by
  have hword : slot / kSlotsPerBitmapWord < kBitmapWordCount := by
    simp only [kMaximumSlots, kSlotsPerBitmapWord, kBitmapWordCount] at *
    omega
  have hbit : slot % kSlotsPerBitmapWord < kSlotsPerBitmapWord := Nat.mod_lt _ (by decide)
  have hsplit : slot / kSlotsPerBitmapWord * kSlotsPerBitmapWord + slot % kSlotsPerBitmapWord = slot :=
    Nat.div_add_mod' _ _
  have hprevious : (pool.availableSlots ⟨_, hword⟩).getLsbD (slot % kSlotsPerBitmapWord) = false := by
    rw [← Bitmap.mem_index _ _ hbit, hsplit]
    exact hleased
  have hclear : pool.availableSlots ⟨_, hword⟩ &&&
      1#(kSlotsPerBitmapWord) <<< (slot % kSlotsPerBitmapWord) = 0#(kSlotsPerBitmapWord) := by
    apply BitVec.eq_of_getLsbD_eq
    intro i hi
    rw [BitVec.getLsbD_and, Bitmap.getLsbD_one_shiftLeft hbit]
    by_cases hsame : slot % kSlotsPerBitmapWord = i
    · rw [← hsame, hprevious]
      simp
    · simp [hsame]
  unfold AudioPayloadPool.release
  rw [if_neg (not_le.2 hslot), dif_pos hword]
  refine ⟨rfl, rfl, fun other => ?_, if_pos hclear⟩
  conv_rhs => rw [← hsplit]
  refine Bitmap.mem_update hbit (fun j hj => ?_) other
  rw [BitVec.getLsbD_or, Bitmap.getLsbD_one_shiftLeft hbit]
  by_cases hsame : j = slot % kSlotsPerBitmapWord
  · simp [hsame]
  · simp [hsame, Ne.symm hsame]

theorem release_ledger {pool : AudioPayloadPool} {slot : ℕ} {owned : List ℕ}
    (h : Ledger pool (slot :: owned)) :
    Ledger (pool.release slot) owned ∧ (pool.release slot).slotCount = pool.slotCount ∧
      (pool.release slot).slotBytes = pool.slotBytes := by
  have hslot : slot < pool.slotCount := h.slot_lt slot List.mem_cons_self
  have hleased : pool.available slot = false := by
    rw [Bool.eq_false_iff]
    exact fun htrue => ((h.available_iff slot).1 htrue).2 List.mem_cons_self
  have hmark := release_marked h.bound hslot hleased
  obtain ⟨hfree, hnodup⟩ := List.nodup_cons.1 h.nodup
  refine ⟨⟨hmark.slotCount.trans_le h.bound, hnodup, ?_, ?_, ?_⟩, hmark.slotCount, hmark.slotBytes⟩
  · intro other hother
    rw [hmark.slotCount]
    exact h.slot_lt other (List.mem_cons_of_mem _ hother)
  · intro other
    rw [hmark.available, hmark.slotCount]
    split
    · next heq => simp [heq, hslot, hfree]
    · next hne => simp [h.available_iff, hne]
  · rw [hmark.inUse, h.inUse, List.length_cons, Nat.add_sub_cancel]

/-! ## The accounts of all payloads -/

section Accounts

variable {ι : Type} {payloads : Payloads ι}

variable {payload : AudioPayload ι}

theorem object_eq_some {number : ℕ} :
    payloads.object number = some payload ↔ payloads.objects[number]? = some (some payload) := by
  rw [Payloads.object, Option.join_eq_some_iff]

theorem object_lt {number : ℕ} (h : payloads.object number = some payload) :
    number < payloads.objects.length :=
  (List.getElem?_eq_some_iff.1 (object_eq_some.1 h)).1

theorem object_put_self {number : ℕ} (object : Option (AudioPayload ι))
    (h : payloads.object number = some payload) : (payloads.put number object).object number = object := by
  rw [Payloads.object, Payloads.put, List.getElem?_set_self (object_lt h), Option.join_some]

theorem object_put_of_ne {number other : ℕ} (object : Option (AudioPayload ι)) (h : other ≠ number) :
    (payloads.put number object).object other = payloads.object other := by
  rw [Payloads.object, Payloads.put, List.getElem?_set_ne h.symm, Payloads.object]

variable [DecidableEq ι]

/-- The slot of a pool that an object owns. -/
def leasedFrom (pool : ι) (object : Option (AudioPayload ι)) : Option ℕ :=
  object.bind fun payload => if payload.pool = some pool then some payload.slot else none

/-- The slots of a pool that live payloads own. -/
def Payloads.owned (payloads : Payloads ι) (pool : ι) : List ℕ :=
  payloads.objects.filterMap (leasedFrom pool)

/-- A payload that owns a slot of a pool points to the bytes of that slot. -/
def PointsToSlot (slotBytes : ι → ℕ) (payload : AudioPayload ι) : Prop :=
  ∀ pool, payload.pool = some pool → payload.pooledData = some (payload.slot * slotBytes pool) ∧
    payload.pooledCapacity = slotBytes pool ∧ payload.pooledSize ≤ slotBytes pool

/-- The payloads after the events of `history`. -/
structure Accounts (slotCount slotBytes : ι → ℕ) (history : List (LeaseEvent ι)) (payloads : Payloads ι) :
    Prop where
  ledger : ∀ pool, Ledger (payloads.pools pool) (payloads.owned pool)
  counts : ∀ pool, (payloads.pools pool).slotCount = slotCount pool
  sizes : ∀ pool, (payloads.pools pool).slotBytes = slotBytes pool
  events : ∀ pool slot, history.count (.acquired pool slot)
    = history.count (.released pool slot) + (payloads.owned pool).count slot
  points : ∀ number payload, payloads.object number = some payload → PointsToSlot slotBytes payload

variable {slotCount slotBytes : ι → ℕ} {history : List (LeaseEvent ι)}

/-- Replacing an object replaces what it owns. -/
theorem owned_put {number : ℕ} (object : Option (AudioPayload ι)) (pool : ι)
    (h : payloads.object number = some payload) :
    ((leasedFrom pool (some payload)).toList ++ (payloads.put number object).owned pool).Perm
      ((leasedFrom pool object).toList ++ payloads.owned pool) := by
  obtain ⟨hlt, hget⟩ := List.getElem?_eq_some_iff.1 (object_eq_some.1 h)
  have hsplit : ∃ before after, payloads.objects = before ++ payloads.objects[number] :: after ∧
      before.length = number ∧ payloads.objects.set number object = before ++ object :: after :=
    List.exists_of_set hlt
  obtain ⟨before, after, hobjects, -, hset⟩ := hsplit
  have hfilterMap : ∀ value : Option (AudioPayload ι), (before ++ value :: after).filterMap (leasedFrom pool)
      = before.filterMap (leasedFrom pool) ++
          ((leasedFrom pool value).toList ++ after.filterMap (leasedFrom pool)) := by
    intro value
    rw [List.filterMap_append, List.filterMap_cons]
    cases leasedFrom pool value <;> rfl
  rw [hget] at hobjects
  rw [Payloads.owned, Payloads.owned, Payloads.put, hset, hfilterMap object]
  conv_rhs => rw [hobjects, hfilterMap (some payload)]
  -- both sides hold the same three parts besides the replaced and the new lease
  simp only [← List.append_assoc]
  refine List.Perm.append_right _ ?_
  have hswap : ∀ xs ys : List ℕ, (xs ++ ys).Perm (ys ++ xs) := fun _ _ => List.perm_append_comm
  rw [List.append_assoc]
  exact (hswap _ (before.filterMap (leasedFrom pool) ++ (leasedFrom pool object).toList)).trans
    ((hswap _ _).append_right _)

theorem leasedFrom_of_pool_none {object : Option (AudioPayload ι)}
    (h : ∀ payload, object = some payload → payload.pool = none) (pool : ι) : leasedFrom pool object = none := by
  cases object with
  | none => rfl
  | some payload => simp [leasedFrom, h payload rfl]

/-- Replacing an object by one that owns the same. -/
theorem Accounts.put (h : Accounts slotCount slotBytes history payloads) {number : ℕ}
    {object : Option (AudioPayload ι)} (hnumber : payloads.object number = some payload)
    (hsame : ∀ pool, leasedFrom pool object = leasedFrom pool (some payload))
    (hpoints : ∀ payload, object = some payload → PointsToSlot slotBytes payload) :
    Accounts slotCount slotBytes history (payloads.put number object) := by
  have howned : ∀ pool, ((payloads.put number object).owned pool).Perm (payloads.owned pool) := by
    intro pool
    have hput := owned_put object pool hnumber
    rw [hsame pool] at hput
    exact (List.perm_append_left_iff _).1 hput
  refine ⟨fun pool => (h.ledger pool).perm (howned pool).symm, h.counts, h.sizes, ?_, ?_⟩
  · intro pool slot
    rw [h.events pool slot, (howned pool).count_eq]
  · intro other payload' hother
    by_cases heq : other = number
    · subst heq
      rw [object_put_self object hnumber] at hother
      exact hpoints payload' hother
    · rw [object_put_of_ne object heq] at hother
      exact h.points other payload' hother

theorem leasedFrom_some {leased : ι} (h : payload.pool = some leased) (pool : ι) :
    leasedFrom pool (some payload) = if pool = leased then some payload.slot else none := by
  simp [leasedFrom, h, eq_comm]

/-- One pool and the objects change, and what the other pools have leased stays. -/
theorem Accounts.update (h : Accounts slotCount slotBytes history payloads) {leased : ι}
    {next : AudioPayloadPool} (objects : List (Option (AudioPayload ι))) (events : List (LeaseEvent ι))
    (hledger : Ledger next (Payloads.owned { payloads with objects } leased))
    (hcount : next.slotCount = (payloads.pools leased).slotCount)
    (hsize : next.slotBytes = (payloads.pools leased).slotBytes)
    (hothers : ∀ pool, pool ≠ leased →
      (Payloads.owned { payloads with objects } pool).Perm (payloads.owned pool))
    (hevents : ∀ pool slot, events.count (.acquired pool slot) + (payloads.owned pool).count slot
      = events.count (.released pool slot) + (Payloads.owned { payloads with objects } pool).count slot)
    (hpoints : ∀ number payload, Payloads.object { payloads with objects } number = some payload →
      PointsToSlot slotBytes payload) :
    Accounts slotCount slotBytes (history ++ events)
      { pools := Function.update payloads.pools leased next, objects } := by
  refine ⟨fun pool => ?_, fun pool => ?_, fun pool => ?_, fun pool slot => ?_, hpoints⟩
  · by_cases hpool : pool = leased
    · subst hpool
      dsimp only
      rw [Function.update_self]
      exact hledger
    · dsimp only
      rw [Function.update_of_ne hpool]
      exact (h.ledger pool).perm (hothers pool hpool).symm
  · by_cases hpool : pool = leased
    · subst hpool
      dsimp only
      rw [Function.update_self, hcount, h.counts]
    · dsimp only
      rw [Function.update_of_ne hpool, h.counts]
  · by_cases hpool : pool = leased
    · subst hpool
      dsimp only
      rw [Function.update_self, hsize, h.sizes]
    · dsimp only
      rw [Function.update_of_ne hpool, h.sizes]
  · have hbefore := h.events pool slot
    have hstep := hevents pool slot
    simp only [Payloads.owned] at hbefore hstep ⊢
    rw [List.count_append, List.count_append]
    omega

/-- `Reset` returns the slot that the payload owns. -/
theorem Accounts.reset (h : Accounts slotCount slotBytes history payloads) {number : ℕ}
    (hnumber : payloads.object number = some payload) :
    Accounts slotCount slotBytes (history ++ (payloads.reset number).1) (payloads.reset number).2 := by
  have hempty : ∀ payload : AudioPayload ι, some {} = some payload → payload.pool = none :=
    fun payload heq => by rw [← Option.some.inj heq]
  have hpoints : ∀ payload : AudioPayload ι, some {} = some payload → PointsToSlot slotBytes payload :=
    fun payload heq pool hpool => absurd ((hempty payload heq).symm.trans hpool) (by simp)
  unfold Payloads.reset
  rw [hnumber]
  dsimp only
  cases hpool : payload.pool with
  | none =>
      rw [List.append_nil]
      refine h.put hnumber (fun pool => ?_) hpoints
      rw [leasedFrom_of_pool_none hempty,
        leasedFrom_of_pool_none (fun payload' heq => by rw [← Option.some.inj heq]; exact hpool)]
  | some leased =>
      have howned : ∀ pool, ((if pool = leased then some payload.slot else none).toList ++
          (payloads.put number (some {})).owned pool).Perm (payloads.owned pool) := by
        intro pool
        have hput := owned_put (some {}) pool hnumber
        rw [leasedFrom_of_pool_none hempty, leasedFrom_some hpool] at hput
        exact hput
      have hleased := howned leased
      rw [if_pos rfl] at hleased
      obtain ⟨hledger, hcount, hsize⟩ := release_ledger ((h.ledger leased).perm hleased.symm)
      refine h.update _ _ hledger hcount hsize (fun pool hne => ?_) (fun pool slot => ?_) ?_
      · have hpool' := howned pool
        rw [if_neg hne] at hpool'
        exact hpool'
      · have hcounts := (howned pool).count_eq slot
        rw [List.count_append] at hcounts
        rw [← hcounts]
        by_cases hsame : pool = leased
        · subst hsame
          by_cases hslot : payload.slot = slot
          · simp [hslot, Payloads.put]
          · simp [hslot, Payloads.put]
        · simp [hsame, Ne.symm hsame, Payloads.put]
      · intro other payload' hother
        by_cases heq : other = number
        · subst heq
          have hself := object_put_self (some {}) hnumber
          exact hpoints payload' (hself.symm.trans hother)
        · have hsame : (payloads.put number (some {})).object other = payloads.object other :=
            object_put_of_ne (some {}) heq
          exact h.points other payload' (hsame.symm.trans hother)

theorem reset_object {number : ℕ} (hnumber : payloads.object number = some payload) :
    (payloads.reset number).2.object number = some {} := by
  unfold Payloads.reset
  rw [hnumber]
  dsimp only
  split
  · exact object_put_self _ hnumber
  · have hself : (payloads.put number (some {})).object number = some {} := object_put_self _ hnumber
    exact hself

theorem reset_object_of_ne {number other : ℕ} (hother : other ≠ number) :
    (payloads.reset number).2.object other = payloads.object other := by
  unfold Payloads.reset
  split
  · rfl
  · split
    · exact object_put_of_ne _ hother
    · have hsame : (payloads.put number (some {})).object other = payloads.object other :=
        object_put_of_ne _ hother
      exact hsame

/-- `Reset`, and then the object is replaced by one that owns nothing. -/
theorem Accounts.reset_put (h : Accounts slotCount slotBytes history payloads) {number : ℕ}
    (hnumber : payloads.object number = some payload)
    {object : Option (AudioPayload ι)} (hobject : ∀ payload, object = some payload → payload.pool = none) :
    Accounts slotCount slotBytes (history ++ (payloads.reset number).1)
      ((payloads.reset number).2.put number object) := by
  refine (h.reset hnumber).put (reset_object hnumber) (fun pool => ?_) ?_
  · rw [leasedFrom_of_pool_none hobject,
      leasedFrom_of_pool_none (fun payload heq => by rw [← Option.some.inj heq])]
  · intro payload heq pool hpool
    exact absurd ((hobject payload heq).symm.trans hpool) (by simp)

theorem owned_construct (payload : AudioPayload ι) (pool : ι) :
    (payloads.construct payload).owned pool
      = payloads.owned pool ++ (leasedFrom pool (some payload)).toList := by
  rw [Payloads.owned, Payloads.construct, List.filterMap_append, Payloads.owned, List.filterMap_cons]
  cases leasedFrom pool (some payload) <;> rfl

omit [DecidableEq ι] in
theorem object_construct {payload payload' : AudioPayload ι} {number : ℕ}
    (h : (payloads.construct payload).object number = some payload') :
    payloads.object number = some payload' ∨ payload' = payload := by
  rw [object_eq_some, Payloads.construct, List.getElem?_append] at h
  split at h
  · exact .inl (object_eq_some.2 h)
  · have hmem := List.mem_of_getElem? h
    exact .inr (Option.some.inj (List.mem_singleton.1 hmem))

/-- A new object that owns nothing. -/
theorem Accounts.construct (h : Accounts slotCount slotBytes history payloads) :
    Accounts slotCount slotBytes history (payloads.construct {}) := by
  have howned : ∀ pool, (payloads.construct {}).owned pool = payloads.owned pool :=
    fun pool => (owned_construct {} pool).trans (List.append_nil _)
  refine ⟨fun pool => ?_, h.counts, h.sizes, fun pool slot => ?_, fun number payload hnumber => ?_⟩
  · rw [howned pool]
    exact h.ledger pool
  · rw [howned pool]
    exact h.events pool slot
  · rcases object_construct hnumber with hold | rfl
    · exact h.points number payload hold
    · exact fun pool hpool => absurd hpool (by simp)

/-- A move assignment takes over the slot of the other payload. -/
theorem Accounts.moveAssign (h : Accounts slotCount slotBytes history payloads) (target other : ℕ) :
    Accounts slotCount slotBytes (history ++ (payloads.moveAssign target other).1)
      (payloads.moveAssign target other).2 := by
  unfold Payloads.moveAssign
  by_cases hself : target = other
  · rw [if_pos hself, List.append_nil]
    exact h
  rw [if_neg hself]
  cases htarget : payloads.object target with
  | none => simpa using h
  | some payload =>
    cases hother : payloads.object other with
    | none => simpa using h
    | some source =>
      have hreset := h.reset htarget
      have hempty := reset_object htarget
      have hsource : (payloads.reset target).2.object other = some source :=
        (reset_object_of_ne (Ne.symm hself)).trans hother
      dsimp only
      rw [hsource]
      dsimp only
      -- the target owns nothing now; the lease moves from one object to the other
      generalize (payloads.reset target).2 = reset at hreset hempty hsource ⊢
      have hmiddle : (reset.put target (some source)).object other = some source :=
        (object_put_of_ne _ (Ne.symm hself)).trans hsource
      have hmoved : ∀ payload, some source.movedFrom = some payload → payload.pool = none :=
        fun payload heq => by rw [← Option.some.inj heq, AudioPayload.movedFrom]
      have howned : ∀ pool, (((reset.put target (some source)).put other (some source.movedFrom)).owned
          pool).Perm (reset.owned pool) := by
        intro pool
        have hfirst := owned_put (some source) pool hempty
        have hsecond := owned_put (some source.movedFrom) pool hmiddle
        rw [leasedFrom_of_pool_none (fun payload heq => by rw [← Option.some.inj heq])] at hfirst
        rw [leasedFrom_of_pool_none hmoved] at hsecond
        exact (List.perm_append_left_iff _).1 (hsecond.trans hfirst)
      refine ⟨fun pool => (hreset.ledger pool).perm (howned pool).symm, hreset.counts, hreset.sizes,
        fun pool slot => ?_, fun number payload' hnumber => ?_⟩
      · rw [hreset.events pool slot, (howned pool).count_eq]
      · by_cases hlast : number = other
        · subst hlast
          rw [object_put_self _ hmiddle] at hnumber
          intro pool hpool
          exact absurd ((hmoved payload' hnumber).symm.trans hpool) (by simp)
        · rw [object_put_of_ne _ hlast] at hnumber
          by_cases hfirst : number = target
          · subst hfirst
            rw [object_put_self _ hempty] at hnumber
            rw [← Option.some.inj hnumber]
            exact hreset.points other source hsource
          · rw [object_put_of_ne _ hfirst] at hnumber
            exact hreset.points number payload' hnumber

theorem Accounts.tryAcquire (h : Accounts slotCount slotBytes history payloads) (pool : ι) :
    Accounts slotCount slotBytes (history ++ (payloads.step (.tryAcquire pool)).1)
      (payloads.step (.tryAcquire pool)).2 := by
  rw [Payloads.step]
  rcases tryAcquire_ledger (h.ledger pool) with
    ⟨hnone, -, hledger, hcount, hsize⟩ | ⟨slot, hslot, hledger, hcount, hsize⟩
  · generalize (payloads.pools pool).tryAcquire = outcome at hnone hledger hcount hsize ⊢
    obtain ⟨found, next⟩ := outcome
    obtain rfl := hnone
    have hupdate := h.update payloads.objects [.exhausted pool] hledger hcount hsize
      (fun other hne => List.Perm.refl _) (fun other slot => by simp) h.points
    exact hupdate.construct
  · generalize (payloads.pools pool).tryAcquire = outcome at hslot hledger hcount hsize ⊢
    obtain ⟨found, next⟩ := outcome
    obtain rfl := hslot
    have hleased : ∀ other, (payloads.construct (.lease pool slot next.slotBytes)).owned other
        = payloads.owned other ++ (if other = pool then some slot else none).toList := by
      intro other
      rw [owned_construct, leasedFrom_some (show (AudioPayload.lease pool slot next.slotBytes).pool = some pool from rfl)]
      rfl
    have hself := hleased pool
    rw [if_pos rfl] at hself
    refine h.update _ _ (hledger.perm ?_) hcount hsize (fun other hne => ?_) (fun other slot' => ?_) ?_
    · exact (List.perm_append_comm.trans (List.Perm.of_eq hself.symm))
    · have hother := hleased other
      rw [if_neg hne] at hother
      exact List.Perm.of_eq (hother.trans (List.append_nil _))
    · have hcounts := congrArg (List.count slot') (hleased other)
      rw [List.count_append] at hcounts
      refine Eq.trans ?_ (congrArg (_ + ·) hcounts.symm)
      by_cases hsame : other = pool
      · subst hsame
        by_cases hslot : slot = slot'
        · simp [hslot]
          omega
        · simp [hslot]
      · simp [hsame, Ne.symm hsame]
    · intro number payload hnumber
      rcases object_construct hnumber with hold | rfl
      · exact h.points number payload hold
      · intro other hother
        obtain rfl := Option.some.inj hother
        have hbytes : next.slotBytes = slotBytes pool := hsize.trans (h.sizes pool)
        exact ⟨by rw [← hbytes]; rfl, hbytes, hbytes.le⟩

theorem Accounts.resize (h : Accounts slotCount slotBytes history payloads) {number : ℕ}
    (hnumber : payloads.object number = some payload) (size : ℕ) :
    Accounts slotCount slotBytes history (payloads.put number (some (payload.resize size))) := by
  refine h.put hnumber (fun pool => ?_) ?_
  · unfold AudioPayload.resize
    split <;> rfl
  · intro resized heq pool hpool
    obtain rfl := Option.some.inj heq
    unfold AudioPayload.resize at hpool ⊢
    split at hpool
    · next hpooled =>
        obtain ⟨hdata, hcapacity, hsize⟩ := h.points number payload hnumber pool hpool
        rw [if_pos hpooled]
        exact ⟨hdata, hcapacity, (min_le_right _ _).trans_eq hcapacity⟩
    · next hheap =>
        rw [if_neg hheap]
        exact h.points number payload hnumber pool hpool

/-- Every operation keeps the accounts. -/
theorem Accounts.step (h : Accounts slotCount slotBytes history payloads) (operation : PayloadOperation ι) :
    Accounts slotCount slotBytes (history ++ (payloads.step operation).1) (payloads.step operation).2 := by
  have hnothing : Accounts slotCount slotBytes (history ++ []) payloads := by
    rw [List.append_nil]
    exact h
  cases operation with
  | construct =>
      rw [Payloads.step, List.append_nil]
      exact h.construct
  | tryAcquire pool => exact h.tryAcquire pool
  | moveConstruct other =>
      rw [Payloads.step]
      split
      · exact h.construct.moveAssign _ _
      · exact hnothing
  | moveAssign target other => exact h.moveAssign target other
  | assignBytes target bytes =>
      rw [Payloads.step]
      split
      · next payload htarget => exact h.reset_put htarget fun payload heq => by rw [← Option.some.inj heq]
      · exact hnothing
  | assign target count value =>
      rw [Payloads.step]
      split
      · next payload htarget => exact h.reset_put htarget fun payload heq => by rw [← Option.some.inj heq]
      · exact hnothing
  | resize target size =>
      rw [Payloads.step]
      split
      · next payload htarget =>
          rw [List.append_nil]
          exact h.resize htarget size
      · exact hnothing
  | destroy target =>
      rw [Payloads.step]
      split
      · next payload htarget => exact h.reset_put htarget fun payload heq => by cases heq
      · exact hnothing

/-- The payloads after a list of operations. -/
def afterOperations (pools : ι → AudioPayloadPool) (operations : List (PayloadOperation ι)) : Payloads ι :=
  Transducer.final Payloads.step { pools } operations

/-- The leases and returns of a list of operations. -/
def leaseEvents (pools : ι → AudioPayloadPool) (operations : List (PayloadOperation ι)) : List (LeaseEvent ι) :=
  (Transducer.outputs Payloads.step { pools } operations).flatten

theorem accounts_after {pools : ι → AudioPayloadPool} (hpools : ∀ pool, Ledger (pools pool) [])
    (operations : List (PayloadOperation ι)) :
    Accounts (fun pool => (pools pool).slotCount) (fun pool => (pools pool).slotBytes)
      (leaseEvents pools operations) (afterOperations pools operations) := by
  induction operations using List.reverseRecOn with
  | nil => exact ⟨hpools, fun _ => rfl, fun _ => rfl, fun pool slot => rfl, fun number payload h => by cases h⟩
  | append_singleton operations operation ih =>
      have hstep := ih.step operation
      rw [leaseEvents, Transducer.outputs_append, List.flatten_append, afterOperations, Transducer.final_append]
      simpa [leaseEvents, afterOperations] using hstep

/-! ## What the accounts say -/

omit [DecidableEq ι] in
theorem create_eq_some {sizeMax : ℕ} {allocated : Bool} {count bytes : ℕ} {pool : AudioPayloadPool}
    (h : AudioPayloadPool.create sizeMax allocated count bytes = some pool) :
    pool = .initialized count bytes ∧ Ledger pool [] := by
  unfold AudioPayloadPool.create at h
  split_ifs at h with hbounds hmemory
  obtain rfl := Option.some.inj h
  exact ⟨rfl, initialized_ledger (by omega)⟩

theorem mem_owned_iff {pool : ι} {slot : ℕ} :
    slot ∈ payloads.owned pool ↔
      ∃ number payload, payloads.object number = some payload ∧ payload.pool = some pool ∧
        payload.slot = slot := by
  rw [Payloads.owned, List.mem_filterMap]
  constructor
  · rintro ⟨object, hmem, hleased⟩
    obtain ⟨number, hnumber⟩ := List.mem_iff_getElem?.1 hmem
    cases object with
    | none => cases hleased
    | some payload =>
        rw [leasedFrom, Option.bind_some] at hleased
        split at hleased
        · next hpool => exact ⟨number, payload, object_eq_some.2 hnumber, hpool, Option.some.inj hleased⟩
        · cases hleased
  · rintro ⟨number, payload, hnumber, hpool, rfl⟩
    refine ⟨some payload, List.mem_of_getElem? (object_eq_some.1 hnumber), ?_⟩
    rw [leasedFrom_some hpool, if_pos rfl]

/-- Two live payloads do not own the same slot of a pool. -/
theorem slot_ne {pool : ι} (hnodup : (payloads.owned pool).Nodup) {number other : ℕ}
    {payload payload' : AudioPayload ι} (hne : number ≠ other) (hnumber : payloads.object number = some payload)
    (hother : payloads.object other = some payload') (hpool : payload.pool = some pool)
    (hpool' : payload'.pool = some pool) : payload.slot ≠ payload'.slot := by
  rw [Payloads.owned, List.Nodup, List.pairwise_filterMap, List.pairwise_iff_getElem] at hnodup
  obtain ⟨hlt, hget⟩ := List.getElem?_eq_some_iff.1 (object_eq_some.1 hnumber)
  obtain ⟨hlt', hget'⟩ := List.getElem?_eq_some_iff.1 (object_eq_some.1 hother)
  have hleased : leasedFrom pool (some payload) = some payload.slot := by
    rw [leasedFrom_some hpool, if_pos rfl]
  have hleased' : leasedFrom pool (some payload') = some payload'.slot := by
    rw [leasedFrom_some hpool', if_pos rfl]
  rcases lt_or_gt_of_ne hne with hbefore | hafter
  · exact hnodup number other hlt hlt' hbefore _ (by rw [hget]; exact hleased) _ (by rw [hget']; exact hleased')
  · exact (hnodup other number hlt' hlt hafter _ (by rw [hget']; exact hleased') _
      (by rw [hget]; exact hleased)).symm

omit [DecidableEq ι] in
/-- The bytes of two slots of a pool do not overlap. -/
theorem slot_ranges {slot slot' bytes : ℕ} (h : slot ≠ slot') :
    slot * bytes + bytes ≤ slot' * bytes ∨ slot' * bytes + bytes ≤ slot * bytes := by
  rcases lt_or_gt_of_ne h with hlt | hlt
  · exact .inl ((Nat.succ_mul slot bytes).symm.trans_le (Nat.mul_le_mul_right bytes hlt))
  · exact .inr ((Nat.succ_mul slot' bytes).symm.trans_le (Nat.mul_le_mul_right bytes hlt))

end Accounts

/-- Whatever is done with payloads of any pools, no slot is shared or lost. -/
theorem slots_accounted {ι : Type} [DecidableEq ι] {sizeMax : ℕ} {slotCount slotBytes : ι → ℕ}
    {pools : ι → AudioPayloadPool}
    (hpools : ∀ pool, AudioPayloadPool.create sizeMax true (slotCount pool) (slotBytes pool) = some (pools pool))
    (operations : List (PayloadOperation ι)) (pool : ι) :
    let payloads := afterOperations pools operations
    let history := leaseEvents pools operations
    (∀ number other payload payload', number ≠ other → payloads.object number = some payload →
      payloads.object other = some payload' → payload.pool = some pool → payload'.pool = some pool →
        payload.slot ≠ payload'.slot ∧ ∃ offset ∈ payload.pooledData, ∃ offset' ∈ payload'.pooledData,
          offset + payload.pooledCapacity ≤ offset' ∨ offset' + payload'.pooledCapacity ≤ offset) ∧
      (∀ number payload, payloads.object number = some payload → payload.pool = some pool →
        (∃ offset ∈ payload.pooledData, offset + payload.pooledCapacity ≤ slotCount pool * slotBytes pool) ∧
          payload.pooledCapacity = slotBytes pool ∧ payload.size ≤ slotBytes pool) ∧
      (payloads.pools pool).availableCount + (payloads.owned pool).length = slotCount pool ∧
      (payloads.pools pool).inUse = (payloads.owned pool).length ∧
      (∀ slot, history.count (.acquired pool slot)
        = history.count (.released pool slot) + if slot ∈ payloads.owned pool then 1 else 0) ∧
      ((payloads.pools pool).tryAcquire.1 = none → ∀ slot < slotCount pool,
        ∃ number payload, payloads.object number = some payload ∧ payload.pool = some pool ∧
          payload.slot = slot) := by
  have hledgers : ∀ pool, Ledger (pools pool) [] := fun pool => (create_eq_some (hpools pool)).2
  have haccounts := accounts_after hledgers operations
  have hcount : ∀ pool, (pools pool).slotCount = slotCount pool :=
    fun pool => congrArg AudioPayloadPool.slotCount (create_eq_some (hpools pool)).1
  have hbytes : ∀ pool, (pools pool).slotBytes = slotBytes pool :=
    fun pool => congrArg AudioPayloadPool.slotBytes (create_eq_some (hpools pool)).1
  have hledger := haccounts.ledger pool
  have hslots := (haccounts.counts pool).trans (hcount pool)
  have hpoints : ∀ number payload, (afterOperations pools operations).object number = some payload →
      payload.pool = some pool → payload.pooledData = some (payload.slot * slotBytes pool) ∧
        payload.pooledCapacity = slotBytes pool ∧ payload.pooledSize ≤ slotBytes pool := by
    intro number payload hnumber hpool
    have h := haccounts.points number payload hnumber pool hpool
    simp only [hbytes] at h
    exact h
  refine ⟨?_, ?_, ?_, hledger.inUse, ?_, ?_⟩
  · intro number other payload payload' hne hnumber hother hpool hpool'
    have hslot := slot_ne hledger.nodup hne hnumber hother hpool hpool'
    obtain ⟨hdata, hcapacity, -⟩ := hpoints number payload hnumber hpool
    obtain ⟨hdata', hcapacity', -⟩ := hpoints other payload' hother hpool'
    refine ⟨hslot, _, hdata, _, hdata', ?_⟩
    rw [hcapacity, hcapacity']
    exact slot_ranges hslot
  · intro number payload hnumber hpool
    obtain ⟨hdata, hcapacity, hsize⟩ := hpoints number payload hnumber hpool
    have hlt : payload.slot < slotCount pool := by
      rw [← hslots]
      exact hledger.slot_lt _ (mem_owned_iff.2 ⟨number, payload, hnumber, hpool, rfl⟩)
    refine ⟨⟨_, hdata, ?_⟩, hcapacity, ?_⟩
    · rw [hcapacity]
      exact (Nat.succ_mul _ _).symm.trans_le (Nat.mul_le_mul_right _ hlt)
    · rw [AudioPayload.size, if_pos (by rw [hpool]; rfl)]
      exact hsize
  · rw [← hslots]
    exact hledger.count
  · intro slot
    rw [haccounts.events pool slot]
    congr 1
    split
    · next howned => exact List.count_eq_one_of_mem hledger.nodup howned
    · next hfree => exact List.count_eq_zero_of_not_mem hfree
  · intro hnone slot hslot
    rcases tryAcquire_ledger hledger with ⟨-, hall, -⟩ | ⟨taken, htaken, -⟩
    · exact mem_owned_iff.1 (hall slot (hslot.trans_eq hslots.symm))
    · rw [hnone] at htaken
      cases htaken

/-- Two slots, one of them moved and returned, and a third request refused. -/
def twoSlots : List (PayloadOperation Unit) :=
  [.tryAcquire (), .moveConstruct 0, .tryAcquire (), .tryAcquire (), .resize 1 100, .destroy 1]

theorem twoSlots_accounted :
    let pools : Unit → AudioPayloadPool := fun _ => .initialized 2 640
    leaseEvents pools twoSlots = [.acquired () 0, .acquired () 1, .exhausted (), .released () 0] ∧
      ((afterOperations pools twoSlots).pools ()).availableCount
        + ((afterOperations pools twoSlots).owned ()).length = 2 := by
  refine ⟨by decide +kernel, ?_⟩
  have hcreate : ∀ _ : Unit, AudioPayloadPool.create (2 ^ 32 - 1) true 2 640 = some (.initialized 2 640) :=
    fun _ => rfl
  exact (slots_accounted hcreate twoSlots ()).2.2.1

end VoiceLife.Voice
