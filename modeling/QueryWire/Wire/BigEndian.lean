/-!
# Big-endian numbers

Every number on the wire is a fixed count of bytes, most significant first.  Both directions go
through `Nat`, so one pair of functions serves all widths and the sized integer types only wrap
it.

* `BigEndian.size` — how many numbers `width` bytes spell: `256 ^ width`.
* `BigEndian.encode` — a number in `width` bytes, less what does not fit.
* `BigEndian.decode` — the number a byte list spells.
* **`BigEndian.decode_encode`** — reading a written number gives it back modulo `size width`.
* **`BigEndian.encode_decode`** — writing a read number gives the bytes back.
-/

namespace QueryWire

/-- A run of bytes, in the order in which they travel. -/
abbrev Bytes := List UInt8

namespace BigEndian

/-- How many numbers `width` bytes spell. -/
def size (width : Nat) : Nat := Nat.pow 256 width

theorem size_zero : size 0 = 1 := rfl

theorem size_succ (width : Nat) : size (width + 1) = size width * 256 := rfl

theorem size_pos (width : Nat) : 0 < size width := Nat.pow_pos (by decide)

/-- The last `width` base-256 digits of `n`, most significant first. -/
def encode : (width : Nat) → (n : Nat) → Bytes
  | 0, _ => []
  | width + 1, n => UInt8.ofNat (n / size width) :: encode width n

/-- The number whose base-256 digits are `bytes`. -/
def decode (bytes : Bytes) : Nat :=
  bytes.foldl (fun acc b => acc * 256 + b.toNat) 0

@[simp] theorem length_encode (width n : Nat) : (encode width n).length = width := by
  induction width with
  | zero => rfl
  | succ width ih => simp [encode, ih]

/-- A digit in front of the others counts as many times as they spell numbers. -/
theorem foldl_shift (bytes : Bytes) (acc : Nat) :
    bytes.foldl (fun acc b => acc * 256 + b.toNat) acc = acc * size bytes.length + decode bytes := by
  induction bytes generalizing acc with
  | nil => simp [decode, size_zero]
  | cons b rest ih =>
    simp only [decode, List.foldl_cons, List.length_cons, Nat.zero_mul, Nat.zero_add]
    rw [ih, ih b.toNat, size_succ, Nat.add_mul, Nat.mul_assoc, Nat.mul_comm 256, Nat.add_assoc]

@[simp] theorem decode_nil : decode [] = 0 := rfl

theorem decode_cons (b : UInt8) (bytes : Bytes) :
    decode (b :: bytes) = b.toNat * size bytes.length + decode bytes := by
  simp [decode, foldl_shift bytes b.toNat]

/-- A byte list spells one of the numbers that its length has room for. -/
theorem decode_lt (bytes : Bytes) : decode bytes < size bytes.length := by
  induction bytes with
  | nil => decide
  | cons b rest ih =>
    have hb : b.toNat + 1 ≤ 256 := b.toNat_lt
    have h := Nat.mul_le_mul_right (size rest.length) hb
    rw [decode_cons, List.length_cons, size_succ, Nat.mul_comm _ 256]
    rw [Nat.add_mul, Nat.one_mul] at h
    omega

/-- Reading what was written gives the number back, less what did not fit. -/
theorem decode_encode (width n : Nat) : decode (encode width n) = n % size width := by
  induction width with
  | zero => simp [encode, size_zero, Nat.mod_one]
  | succ width ih =>
    rw [encode, decode_cons, length_encode, ih, size_succ, Nat.mod_mul, Nat.add_comm,
      Nat.mul_comm (size width)]
    rfl

/-- A number that fits is read back unchanged. -/
theorem decode_encode_of_lt {width n : Nat} (h : n < size width) :
    decode (encode width n) = n := by
  rw [decode_encode, Nat.mod_eq_of_lt h]

/-- Writing what was read gives the bytes back. -/
theorem encode_decode (bytes : Bytes) : encode bytes.length (decode bytes) = bytes := by
  suffices h : ∀ (bytes : Bytes) (high : Nat),
      encode bytes.length (high * size bytes.length + decode bytes) = bytes by
    simpa using h bytes 0
  intro bytes
  induction bytes with
  | nil => intro _; rfl
  | cons b rest ih =>
    intro high
    have hsplit : high * size (rest.length + 1) + decode (b :: rest)
        = (high * 256 + b.toNat) * size rest.length + decode rest := by
      rw [decode_cons, size_succ, Nat.add_mul]
      simp only [Nat.mul_assoc, Nat.mul_comm, Nat.add_assoc]
    rw [List.length_cons, encode, hsplit, ih]
    congr 1
    rw [Nat.add_comm, Nat.add_mul_div_right _ _ (size_pos _), Nat.div_eq_of_lt (decode_lt rest),
      Nat.zero_add]
    apply UInt8.toNat_inj.1
    rw [UInt8.toNat_ofNat']
    have := b.toNat_lt
    omega

end BigEndian

end QueryWire
