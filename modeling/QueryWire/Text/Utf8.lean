import QueryWire.Wire.BigEndian

/-!
# UTF-8

Bytes to text and back.  A sequence is well formed when it is one of those of the Unicode
standard's table: no overlong form, no surrogate, nothing above `U+10FFFF`.  What is not well
formed is cut as the standard recommends: the longest start of a sequence that could still have
become well formed is one fault.

* `Utf8.next` — what stands at the front of a byte list: a character, a fault, or a sequence that
  the end of the input cut short.
* `Utf8.decode?` — the text of a byte list, or where and how it stops being well formed.
* `Utf8.decodeLossy` — the text with one `U+FFFD` for each fault.
* `Utf8.encode` — the bytes of a text.
-/

namespace QueryWire

namespace Utf8

/-- Where a byte list stops being well formed: the bytes before the fault, and the length of the
faulty start, or `none` when the input ended inside a sequence. -/
structure Fault where
  validUpTo : Nat
  faultLength : Option Nat
deriving DecidableEq, Repr

/-- The fault in words. -/
def Fault.message (fault : Fault) : String :=
  match fault.faultLength with
  | some n => s!"invalid utf-8 sequence of {n} bytes from index {fault.validUpTo}"
  | none => s!"incomplete utf-8 byte sequence from index {fault.validUpTo}"

/-- What stands at the front of a byte list. -/
inductive Step where
  /-- A whole sequence of `width` bytes. -/
  | char (c : Char) (width : Nat)
  /-- `width` bytes that begin no well-formed sequence. -/
  | fault (width : Nat)
  /-- A sequence that the input ended inside. -/
  | truncated
deriving DecidableEq, Repr

/-- A byte that may follow the first one of a sequence. -/
def isContinuation (b : UInt8) : Bool := 0x80 ≤ b && b ≤ 0xBF

/-- The six bits that a continuation byte carries. -/
def payload (b : UInt8) : Nat := b.toNat % 64

/-- The bounds of the second byte after the first byte `lead` of a sequence of three or four.
They keep out overlong forms, surrogates and what lies above `U+10FFFF`. -/
def secondBounds (lead : UInt8) : UInt8 × UInt8 :=
  if lead = 0xE0 then (0xA0, 0xBF)
  else if lead = 0xED then (0x80, 0x9F)
  else if lead = 0xF0 then (0x90, 0xBF)
  else if lead = 0xF4 then (0x80, 0x8F)
  else (0x80, 0xBF)

/-- Whether `second` may follow `lead` in a sequence of three or four bytes. -/
def secondFits (lead second : UInt8) : Bool :=
  let (low, high) := secondBounds lead
  low ≤ second && second ≤ high

/-- The front of a byte list that starts with `lead` and goes on with `rest`. -/
def next (lead : UInt8) (rest : Bytes) : Step :=
  if lead < 0x80 then .char (Char.ofNat lead.toNat) 1
  else if lead < 0xC2 then .fault 1
  else if lead < 0xE0 then
    match rest with
    | [] => .truncated
    | b :: _ =>
      if isContinuation b then .char (Char.ofNat (lead.toNat % 32 * 64 + payload b)) 2
      else .fault 1
  else if lead < 0xF0 then
    match rest with
    | [] => .truncated
    | b :: rest =>
      if secondFits lead b then
        match rest with
        | [] => .truncated
        | c :: _ =>
          if isContinuation c then
            .char (Char.ofNat ((lead.toNat % 16 * 64 + payload b) * 64 + payload c)) 3
          else .fault 2
      else .fault 1
  else if lead < 0xF5 then
    match rest with
    | [] => .truncated
    | b :: rest =>
      if secondFits lead b then
        match rest with
        | [] => .truncated
        | c :: rest =>
          if isContinuation c then
            match rest with
            | [] => .truncated
            | d :: _ =>
              if isContinuation d then
                .char (Char.ofNat
                  (((lead.toNat % 8 * 64 + payload b) * 64 + payload c) * 64 + payload d)) 4
              else .fault 3
          else .fault 2
      else .fault 1
  else .fault 1

/-- The characters of `bytes` after those in `done` (last first), which took `index` bytes. -/
def decodeFrom (done : List Char) (index : Nat) : Bytes → Except Fault (List Char)
  | [] => .ok done.reverse
  | lead :: rest =>
    match next lead rest with
    | .char c width => decodeFrom (c :: done) (index + width) (rest.drop (width - 1))
    | .fault width => .error ⟨index, some width⟩
    | .truncated => .error ⟨index, none⟩
termination_by bytes => bytes.length

/-- The text that `bytes` spell, or the first fault. -/
def decode? (bytes : Bytes) : Except Fault String :=
  (decodeFrom [] 0 bytes).map String.ofList

/-- The text that `bytes` spell, when they are well formed. -/
def text? (bytes : Bytes) : Option String :=
  (decode? bytes).toOption

/-- The characters of `bytes` after those in `done` (last first), a fault read as `U+FFFD`. -/
def decodeLossyFrom (done : List Char) : Bytes → List Char
  | [] => done.reverse
  | lead :: rest =>
    match next lead rest with
    | .char c width => decodeLossyFrom (c :: done) (rest.drop (width - 1))
    | .fault width => decodeLossyFrom ('\uFFFD' :: done) (rest.drop (width - 1))
    | .truncated => ('\uFFFD' :: done).reverse
termination_by bytes => bytes.length

/-- The text that `bytes` spell, with one `U+FFFD` for each fault. -/
def decodeLossy (bytes : Bytes) : String :=
  String.ofList (decodeLossyFrom [] bytes)

/-- The sequence of one character. -/
def encodeChar (c : Char) : Bytes :=
  let n := c.toNat
  if n < 0x80 then [UInt8.ofNat n]
  else if n < 0x800 then [UInt8.ofNat (0xC0 + n / 64), UInt8.ofNat (0x80 + n % 64)]
  else if n < 0x10000 then
    [UInt8.ofNat (0xE0 + n / 4096), UInt8.ofNat (0x80 + n / 64 % 64), UInt8.ofNat (0x80 + n % 64)]
  else
    [UInt8.ofNat (0xF0 + n / 262144), UInt8.ofNat (0x80 + n / 4096 % 64),
      UInt8.ofNat (0x80 + n / 64 % 64), UInt8.ofNat (0x80 + n % 64)]

/-- The bytes of a text. -/
def encode (text : String) : Bytes :=
  text.toList.flatMap encodeChar

end Utf8

end QueryWire
