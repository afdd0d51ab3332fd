import Mathlib

/-!
# Byte encodings of integers

The variable length encoding of unsigned and signed integers (seven bits a byte, least significant
group first, signed values zigzag mapped) and fixed width little endian fields.  The decoder is
the usual permissive one: it accepts encodings that are longer than necessary and rejects those
that do not fit 64 bits.  For each encoding there is a round trip and, for what a decoder accepts,
a lower bound on the bytes it took: `uvarint_size_le` and `varint_size_le` say that no accepted
input is shorter than the canonical encoding of its value.
-/

namespace Anytty.Wire

abbrev Bytes := List UInt8

/-! ### Unsigned integers -/

/-- The variable length encoding of a number. -/
def putUvarint (value : Nat) : Bytes :=
  if value < 0x80 then [UInt8.ofNat value]
  else UInt8.ofNat (value % 0x80 + 0x80) :: putUvarint (value / 0x80)

/-- The length of the encoding. -/
def uvarintSize (value : Nat) : Nat :=
  if value < 0x80 then 1 else uvarintSize (value / 0x80) + 1

/-- The byte `byte` at position `index` may end a number that fits 64 bits. -/
def endsUvarint (index : Nat) (byte : UInt8) : Bool :=
  index < 9 || index = 9 && byte.toNat ≤ 1

/-- Decode a number whose first `index` bytes have been read; the value and the bytes after it. -/
def uvarintFrom (index : Nat) : Bytes → Option (Nat × Bytes)
  | [] => none
  | byte :: rest =>
    if byte.toNat < 0x80 then
      if endsUvarint index byte then some (byte.toNat, rest) else none
    else if index < 9 then
      (uvarintFrom (index + 1) rest).map fun read =>
        (byte.toNat - 0x80 + 0x80 * read.1, read.2)
    else none

def uvarint (payload : Bytes) : Option (Nat × Bytes) := uvarintFrom 0 payload

theorem putUvarint_length (value : Nat) : (putUvarint value).length = uvarintSize value := by
  induction value using putUvarint.induct with
  | case1 value small => rw [putUvarint, uvarintSize, if_pos small, if_pos small]; rfl
  | case2 value large ih =>
    rw [putUvarint, uvarintSize, if_neg large, if_neg large, List.length_cons, ih]

theorem uvarintSize_pos (value : Nat) : 0 < uvarintSize value := by
  rw [uvarintSize]
  split <;> omega

/-- A number below `2 ^ (7 * n)` takes at most `n` bytes. -/
theorem uvarintSize_le_of_lt {n value : Nat} (pos : 0 < n) (bound : value < 2 ^ (7 * n)) :
    uvarintSize value ≤ n := by
  induction n generalizing value with
  | zero => omega
  | succ n ih =>
    rw [uvarintSize]
    split
    · omega
    next large =>
    have smaller : value / 0x80 < 2 ^ (7 * n) := by
      rw [Nat.div_lt_iff_lt_mul (by decide)]
      calc value < 2 ^ (7 * (n + 1)) := bound
        _ = 2 ^ (7 * n) * 0x80 := by rw [Nat.mul_add, Nat.pow_add]
    have positive : 0 < n := by
      rcases Nat.eq_zero_or_pos n with rfl | positive
      · simp at smaller
        omega
      · exact positive
    have := ih positive smaller
    omega

theorem uvarintFrom_putUvarint {index value : Nat} (rest : Bytes) (early : index ≤ 9)
    (bound : value < 2 ^ (64 - 7 * index)) :
    uvarintFrom index (putUvarint value ++ rest) = some (value, rest) := by
  induction value using putUvarint.induct generalizing index with
  | case1 value small =>
    have byte : (UInt8.ofNat value).toNat = value :=
      UInt8.toNat_ofNat_of_lt' (by show value < 256; omega)
    have ends : endsUvarint index (UInt8.ofNat value) = true := by
      rw [endsUvarint]
      rcases Nat.lt_or_ge index 9 with before | last
      · simp [before]
      obtain rfl : index = 9 := by omega
      simp at bound ⊢
      omega
    rw [putUvarint, if_pos small, List.singleton_append, uvarintFrom, byte, if_pos small,
      if_pos ends]
  | case2 value large ih =>
    have before : index < 9 := by
      by_contra last
      obtain rfl : index = 9 := by omega
      simp at bound
      omega
    have byte : (UInt8.ofNat (value % 0x80 + 0x80)).toNat = value % 0x80 + 0x80 :=
      UInt8.toNat_ofNat_of_lt' (by show _ < 256; omega)
    have next : value / 0x80 < 2 ^ (64 - 7 * (index + 1)) := by
      rw [Nat.div_lt_iff_lt_mul (by decide)]
      calc value < 2 ^ (64 - 7 * index) := bound
        _ = 2 ^ (64 - 7 * (index + 1) + 7) := by congr 1; omega
        _ = 2 ^ (64 - 7 * (index + 1)) * 0x80 := by rw [Nat.pow_add]
    rw [putUvarint, if_neg large, List.cons_append, uvarintFrom, byte, if_neg (by omega),
      if_pos before, ih (by omega) next, Option.map_some]
    have split_value : value % 0x80 + 0x80 - 0x80 + 0x80 * (value / 0x80) = value := by omega
    rw [split_value]

theorem uvarint_putUvarint {value : Nat} (rest : Bytes) (bound : value < 2 ^ 64) :
    uvarint (putUvarint value ++ rest) = some (value, rest) :=
  uvarintFrom_putUvarint rest (by omega) bound

section Read

variable {index value : Nat} {payload rest : Bytes}

section

variable (read : uvarintFrom index payload = some (value, rest))
include read

/-- A number is read off the front, whatever follows. -/
theorem uvarintFrom_append :
    rest <:+ payload ∧ ∀ more, uvarintFrom index (payload ++ more) = some (value, rest ++ more) := by
  fun_induction uvarintFrom index payload generalizing value with
  | case1 | case3 | case5 => cases read
  | case2 index byte payload small ends =>
    cases read
    exact ⟨List.suffix_cons .., fun _ => by
      rw [List.cons_append, uvarintFrom, if_pos small, if_pos ends]⟩
  | case4 index byte payload large before ih =>
    obtain ⟨⟨tail, rest'⟩, found, equal⟩ := Option.map_eq_some_iff.mp read
    cases equal
    obtain ⟨inner, more⟩ := ih found
    refine ⟨inner.trans (List.suffix_cons ..), fun bytes => ?_⟩
    rw [List.cons_append, uvarintFrom, if_neg large, if_pos before, more bytes]
    rfl

omit read in
theorem uvarint_append (read : uvarint payload = some (value, rest)) :
    rest <:+ payload ∧ ∀ more, uvarint (payload ++ more) = some (value, rest ++ more) :=
  uvarintFrom_append read

theorem uvarintFrom_size_le : uvarintSize value + rest.length ≤ payload.length := by
  fun_induction uvarintFrom index payload generalizing value with
  | case1 | case3 | case5 => cases read
  | case2 index byte payload small =>
    cases read
    rw [uvarintSize, if_pos small, List.length_cons]
    omega
  | case4 index byte payload _ _ ih =>
    obtain ⟨⟨tail, rest'⟩, found, equal⟩ := Option.map_eq_some_iff.mp read
    cases equal
    have shorter := ih found
    have step : uvarintSize (byte.toNat - 0x80 + 0x80 * tail) ≤ uvarintSize tail + 1 := by
      rw [uvarintSize]
      split
      · omega
      have low := byte.toNat_lt
      have high : (byte.toNat - 0x80 + 0x80 * tail) / 0x80 = tail := by omega
      rw [high]
    simp only [List.length_cons] at *
    omega

omit read in
/-- What is accepted is no shorter than the canonical encoding of its value. -/
theorem uvarint_size_le (read : uvarint payload = some (value, rest)) :
    uvarintSize value + rest.length ≤ payload.length :=
  uvarintFrom_size_le read

theorem uvarintFrom_lt (early : index ≤ 9) : value < 2 ^ (64 - 7 * index) := by
  fun_induction uvarintFrom index payload generalizing value with
  | case1 | case3 | case5 => cases read
  | case2 index byte payload small ends =>
    cases read
    rcases Nat.lt_or_ge index 9 with before | last
    · calc byte.toNat < 2 ^ 7 := small
        _ ≤ 2 ^ (64 - 7 * index) := Nat.pow_le_pow_right (by decide) (by omega)
    · obtain rfl : index = 9 := by omega
      simp [endsUvarint] at ends
      simp
      omega
  | case4 index byte payload _ before ih =>
    obtain ⟨⟨tail, rest'⟩, found, equal⟩ := Option.map_eq_some_iff.mp read
    cases equal
    have tail_lt := ih found (by omega)
    have low := byte.toNat_lt
    have width : 64 - 7 * index = 64 - 7 * (index + 1) + 7 := by omega
    rw [width, Nat.pow_add]
    simp only at *
    omega

end

theorem uvarint_lt (read : uvarint payload = some (value, rest)) : value < 2 ^ 64 :=
  uvarintFrom_lt read (by omega)

end Read

/-! ### Signed integers -/

def zigzag (value : Int) : Nat :=
  if 0 ≤ value then 2 * value.toNat else 2 * (-value).toNat - 1

def unzigzag (value : Nat) : Int :=
  if value % 2 = 0 then (value / 2 : Nat) else -((value / 2 : Nat) : Int) - 1

def putVarint (value : Int) : Bytes := putUvarint (zigzag value)

def varintSize (value : Int) : Nat := uvarintSize (zigzag value)

def varint (payload : Bytes) : Option (Int × Bytes) :=
  (uvarint payload).map fun read => (unzigzag read.1, read.2)

theorem unzigzag_zigzag (value : Int) : unzigzag (zigzag value) = value := by
  unfold unzigzag zigzag
  split <;> split <;> omega

theorem zigzag_unzigzag (value : Nat) : zigzag (unzigzag value) = value := by
  unfold zigzag unzigzag
  split <;> split <;> omega

theorem putVarint_length (value : Int) : (putVarint value).length = varintSize value :=
  putUvarint_length _

theorem varint_putVarint {value : Int} (rest : Bytes) (low : -2 ^ 63 ≤ value)
    (high : value < 2 ^ 63) : varint (putVarint value ++ rest) = some (value, rest) := by
  have bound : zigzag value < 2 ^ 64 := by
    unfold zigzag
    split <;> omega
  rw [varint, putVarint, uvarint_putUvarint rest bound, Option.map_some, unzigzag_zigzag]

/-- What is accepted fits 64 bits and is no shorter than its canonical encoding. -/
theorem varint_size_le {value : Int} {payload rest : Bytes}
    (read : varint payload = some (value, rest)) :
    varintSize value + rest.length ≤ payload.length ∧ -2 ^ 63 ≤ value ∧ value < 2 ^ 63 := by
  obtain ⟨⟨raw, rest'⟩, found, equal⟩ := Option.map_eq_some_iff.mp read
  cases equal
  have bound := uvarint_lt found
  refine ⟨?_, ?_⟩
  · rw [varintSize, zigzag_unzigzag]
    exact uvarint_size_le found
  · unfold unzigzag
    split <;> omega

/-! ### Little endian fields -/

/-- The lowest `width` bytes of a number, least significant first. -/
def putLE : Nat → Nat → Bytes
  | 0, _ => []
  | width + 1, value => UInt8.ofNat (value % 256) :: putLE width (value / 256)

def getLE : Bytes → Nat
  | [] => 0
  | byte :: rest => byte.toNat + 256 * getLE rest

@[simp] theorem putLE_length (width value : Nat) : (putLE width value).length = width := by
  induction width generalizing value with
  | zero => rfl
  | succ width ih => rw [putLE, List.length_cons, ih]

theorem getLE_putLE (width value : Nat) : getLE (putLE width value) = value % 256 ^ width := by
  induction width generalizing value with
  | zero => simp [putLE, getLE, Nat.mod_one]
  | succ width ih =>
    have byte : (UInt8.ofNat (value % 256)).toNat = value % 256 :=
      UInt8.toNat_ofNat_of_lt' (Nat.mod_lt _ (by decide))
    rw [putLE, getLE, ih, byte, Nat.pow_succ, Nat.mul_comm (256 ^ width), Nat.mod_mul]

theorem getLE_lt (payload : Bytes) : getLE payload < 256 ^ payload.length := by
  induction payload with
  | nil => simp [getLE]
  | cons byte rest ih =>
    have low := byte.toNat_lt
    rw [getLE, List.length_cons]
    omega

end Anytty.Wire
