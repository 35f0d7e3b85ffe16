/-! # Gzip members

    Bodies are compressed into a gzip member of stored blocks: a fixed header, blocks of
    at most 65535 bytes, and a trailer with the checksum and the size.  Reading a member
    gives back what was stored. -/

namespace Redial.Gzip

/-! ## Section 1: Checksum -/

/-- One bit of the checksum's polynomial division. -/
def crcBit (r : UInt32) : UInt32 :=
  if r &&& 1 = 1 then (r >>> 1) ^^^ 0xedb88320 else r >>> 1

/-- Takes a byte into the checksum register. -/
def crcByte (r : UInt32) (b : UInt8) : UInt32 :=
  let r := r ^^^ b.toUInt32
  crcBit (crcBit (crcBit (crcBit (crcBit (crcBit (crcBit (crcBit r)))))))

/-- The checksum of bytes. -/
def crc (bytes : List UInt8) : UInt32 := bytes.foldl crcByte 0xffffffff ^^^ 0xffffffff

/-! ## Section 2: Writing -/

/-- A number in little-endian bytes. -/
def littleEndian : Nat → Nat → List UInt8
  | 0, _ => []
  | width + 1, n => UInt8.ofNat (n % 256) :: littleEndian width (n / 256)

/-- The header of a member: deflate, no name, no time. -/
def header : List UInt8 := [0x1f, 0x8b, 8, 0, 0, 0, 0, 0, 0, 0xff]

/-- The largest size of a stored block. -/
def blockSize : Nat := 65535

/-- One stored block. -/
def block (final : Bool) (bytes : List UInt8) : List UInt8 :=
  (if final then 1 else 0) :: littleEndian 2 bytes.length
    ++ littleEndian 2 (65535 - bytes.length) ++ bytes

/-- The bytes as a sequence of stored blocks. -/
def blocks (bytes : List UInt8) : List UInt8 :=
  if bytes.length ≤ blockSize then block true bytes
  else block false (bytes.take blockSize) ++ blocks (bytes.drop blockSize)
termination_by bytes.length
decreasing_by simp only [List.length_drop, blockSize] at *; omega

/-- A gzip member that holds the bytes. -/
def encode (bytes : List UInt8) : List UInt8 :=
  header ++ blocks bytes ++ littleEndian 4 (crc bytes).toNat ++ littleEndian 4 bytes.length

/-! ## Section 3: Reading -/

/-- Reads stored blocks until the final one. -/
def readBlocks? (input : List UInt8) : Option (List UInt8) :=
  match input with
  | final :: a :: b :: _ :: _ :: rest =>
    let size := a.toNat + 256 * b.toNat
    if rest.length < size then none
    else if final = 1 then some (rest.take size)
    else if final = 0 then (readBlocks? (rest.drop size)).map (rest.take size ++ ·)
    else none
  | _ => none
termination_by input.length
decreasing_by simp only [List.length_drop, List.length_cons]; omega

/-- The bytes held by a gzip member of stored blocks. -/
def decode? (input : List UInt8) : Option (List UInt8) :=
  if input.take 10 = header then readBlocks? (input.drop 10) else none

/-- The bytes held by a member; bytes that are no member stay as they are. -/
def restore (input : List UInt8) : List UInt8 := (decode? input).getD input

/-! ## Section 4: Reading what was written -/

theorem encode_ne_nil (bytes : List UInt8) : encode bytes ≠ [] := by simp [encode, header]

theorem littleEndian_two (n : Nat) :
    littleEndian 2 n = [UInt8.ofNat (n % 256), UInt8.ofNat (n / 256 % 256)] := rfl

theorem size_read {n : Nat} (h : n ≤ 65535) :
    (UInt8.ofNat (n % 256)).toNat + 256 * (UInt8.ofNat (n / 256 % 256)).toNat = n := by
  simp only [UInt8.toNat_ofNat']
  omega

theorem readBlocks?_blocks (bytes rest : List UInt8) :
    readBlocks? (blocks bytes ++ rest) = some bytes := by
  fun_induction blocks bytes with
  | case1 bytes h =>
    rw [block, littleEndian_two, littleEndian_two]
    simp only [if_true, List.cons_append, List.nil_append]
    rw [readBlocks?]
    simp only [size_read h]
    rw [if_neg (by simp)]
    simp
  | case2 bytes h ih =>
    rw [block, littleEndian_two, littleEndian_two]
    have hlen : (bytes.take blockSize).length = blockSize := by
      simp only [List.length_take]; omega
    rw [hlen]
    simp only [Bool.false_eq_true, if_false, List.cons_append, List.nil_append, List.append_assoc]
    rw [readBlocks?]
    have hsize := size_read (n := blockSize) (Nat.le_refl 65535)
    simp only [hsize]
    have hnot : ¬(bytes.take blockSize ++ (blocks (bytes.drop blockSize) ++ rest)).length
        < blockSize := by simp [hlen]
    rw [if_neg hnot, if_neg (by decide)]
    simp only [if_true]
    rw [List.drop_append_of_le_length (by omega), List.take_append_of_le_length (by omega)]
    rw [List.drop_of_length_le (by omega), List.nil_append, ih]
    rw [List.take_of_length_le (by omega), Option.map_some, List.take_append_drop]

/-- A member gives back the bytes that it was made from. -/
theorem decode?_encode (bytes : List UInt8) : decode? (encode bytes) = some bytes := by
  have hdrop : (encode bytes).drop 10 = blocks bytes ++
      (littleEndian 4 (crc bytes).toNat ++ littleEndian 4 bytes.length) := by
    simp [encode, header]
  rw [decode?, hdrop, readBlocks?_blocks]
  simp [encode, header]

theorem restore_encode (bytes : List UInt8) : restore (encode bytes) = bytes := by
  rw [restore, decode?_encode, Option.getD_some]

end Redial.Gzip
