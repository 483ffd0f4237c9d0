import QueryWire.Text.Digits
import QueryWire.Wire.BigEndian

/-!
# Identifiers

Types on the server carry identifiers of sixteen bytes, shown in the usual five groups of
hexadecimal digits.
-/

namespace QueryWire

/-- An identifier of sixteen bytes, kept as the number they spell. -/
structure Uuid where
  toNat : Nat
  toNat_lt : toNat < BigEndian.size 16 := by decide
deriving DecidableEq, Repr

namespace Uuid

/-- The identifier without any bit set. -/
def nil : Uuid := ⟨0, by decide⟩

instance : Inhabited Uuid := ⟨nil⟩

/-- The identifier that the last 128 bits of a number spell. -/
def ofNat (n : Nat) : Uuid := ⟨n % BigEndian.size 16, Nat.mod_lt _ (BigEndian.size_pos 16)⟩

/-- The identifier that sixteen bytes spell. -/
def ofBytes (bytes : Bytes) : Uuid := ofNat (BigEndian.decode bytes)

/-- The sixteen bytes of an identifier. -/
def toBytes (id : Uuid) : Bytes := BigEndian.encode 16 id.toNat

/-- An identifier in groups of 8, 4, 4, 4 and 12 hexadecimal digits. -/
def text (id : Uuid) : String :=
  let digits := Digits.fixed 16 32 id.toNat
  let group (start width : Nat) : String := String.ofList ((digits.drop start).take width)
  "-".intercalate [group 0 8, group 8 4, group 12 4, group 16 4, group 20 12]

@[simp] theorem length_toBytes (id : Uuid) : id.toBytes.length = 16 :=
  BigEndian.length_encode 16 id.toNat

/-- The bytes of an identifier spell it. -/
theorem ofBytes_toBytes (id : Uuid) : ofBytes id.toBytes = id := by
  obtain ⟨n, hn⟩ := id
  simp only [ofBytes, toBytes, ofNat, BigEndian.decode_encode_of_lt hn, Nat.mod_eq_of_lt hn]

/-- Sixteen bytes are those of the identifier they spell. -/
theorem toBytes_ofBytes {bytes : Bytes} (h : bytes.length = 16) : (ofBytes bytes).toBytes = bytes := by
  have hlt := BigEndian.decode_lt bytes
  rw [h] at hlt
  have := BigEndian.encode_decode bytes
  rw [h] at this
  simpa only [ofBytes, toBytes, ofNat, Nat.mod_eq_of_lt hlt] using this

end Uuid

end QueryWire
