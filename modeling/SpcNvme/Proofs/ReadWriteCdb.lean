import SpcNvme.Proofs.Transfer

/-! The command blocks of reads and writes as the standard lays them out, and that
the driver reads back from them what was written, in every format and by either
way of choosing the format. -/

namespace SpcNvme

private theorem Cdb.field_append (front middle back : List (BitVec 8)) :
    Cdb.field (front ++ middle ++ back) front.length middle.length = middle := by
  apply List.ext_getElem
  · exact Cdb.length_field ..
  · intro index inside bounded
    simp only [Cdb.field, Cdb.byte, List.getElem_map, List.getElem_range, List.getD_eq_getElem?_getD, List.append_assoc]
    rw [List.getElem?_append_right (Nat.le_add_right _ _), Nat.add_sub_cancel_left, List.getElem?_append_left bounded,
      List.getElem?_eq_getElem bounded, Option.getD_some]

private theorem Cdb.value_field {front back : List (BitVec 8)} {start size number : Nat} (begins : front.length = start)
    (small : number < 256 ^ size) :
    BigEndian.value (Cdb.field (front ++ BigEndian.bytes size number ++ back) start size) = number := by
  have whole := Cdb.field_append front (BigEndian.bytes size number) back
  rw [BigEndian.length_bytes, begins] at whole
  rw [whole, BigEndian.value_bytes_of_lt small]

/-- What a command block holds besides its operation code, address and count: the
unit number of the short format, the flags of the others, the group and the control byte. -/
structure CdbRest where
  unit : BitVec 3
  flags : BitVec 8
  group : BitVec 8
  control : BitVec 8

namespace CdbFormat

def opcode : CdbFormat → Bool → BitVec 8
  | six, false => 0x08
  | six, true => 0x0A
  | ten, false => 0x28
  | ten, true => 0x2A
  | twelve, false => 0xA8
  | twelve, true => 0xAA
  | sixteen, false => 0x88
  | sixteen, true => 0x8A

/-- The addresses and counts a format has room for. The short one has no empty
transfer, and writes 256 as 0. -/
def Represents (lba blocks : Nat) : CdbFormat → Prop
  | six => lba < 2 ^ 21 ∧ 1 ≤ blocks ∧ blocks ≤ 256
  | ten => lba < 2 ^ 32 ∧ blocks < 2 ^ 16
  | twelve => lba < 2 ^ 32 ∧ blocks < 2 ^ 32
  | sixteen => lba < 2 ^ 64 ∧ blocks < 2 ^ 32

instance (lba blocks : Nat) : (format : CdbFormat) → Decidable (format.Represents lba blocks)
  | six => inferInstanceAs (Decidable (lba < 2 ^ 21 ∧ 1 ≤ blocks ∧ blocks ≤ 256))
  | ten => inferInstanceAs (Decidable (lba < 2 ^ 32 ∧ blocks < 2 ^ 16))
  | twelve => inferInstanceAs (Decidable (lba < 2 ^ 32 ∧ blocks < 2 ^ 32))
  | sixteen => inferInstanceAs (Decidable (lba < 2 ^ 64 ∧ blocks < 2 ^ 32))

def encode (isWrite : Bool) (rest : CdbRest) (lba blocks : Nat) (format : CdbFormat) : List (BitVec 8) :=
  match format with
  | six =>
      [opcode six isWrite, rest.unit ++ BitVec.ofNat 5 (lba / 65536)] ++ BigEndian.bytes 2 lba ++
        [BitVec.ofNat 8 blocks, rest.control]
  | ten =>
      [opcode ten isWrite, rest.flags] ++ BigEndian.bytes 4 lba ++ [rest.group] ++ BigEndian.bytes 2 blocks ++
        [rest.control]
  | twelve =>
      [opcode twelve isWrite, rest.flags] ++ BigEndian.bytes 4 lba ++ BigEndian.bytes 4 blocks ++ [rest.group, rest.control]
  | sixteen =>
      [opcode sixteen isWrite, rest.flags] ++ BigEndian.bytes 8 lba ++ BigEndian.bytes 4 blocks ++ [rest.group, rest.control]

variable {format : CdbFormat} {isWrite : Bool} {rest : CdbRest} {lba blocks : Nat}

/-- The five address bits of the second byte, whatever unit is above them. -/
theorem unit_masked : ∀ (unit : BitVec 3) (high : BitVec 5), ((unit ++ high) &&& 0x1F).toNat = high.toNat := by decide

private theorem lba_encode (fits : format.Represents lba blocks) (tail : List (BitVec 8)) :
    format.lba (format.encode isWrite rest lba blocks ++ tail) = lba := by
  cases format with
  | six =>
    obtain ⟨bounded, _, _⟩ := fits
    have high : (Cdb.byte (encode isWrite rest lba blocks six ++ tail) 1 &&& 0x1F).toNat = lba / 65536 % 32 :=
      (unit_masked ..).trans (BitVec.toNat_ofNat ..)
    have middle : (Cdb.byte (encode isWrite rest lba blocks six ++ tail) 2).toNat = lba / 256 % 256 :=
      BitVec.toNat_ofNat ..
    have low : (Cdb.byte (encode isWrite rest lba blocks six ++ tail) 3).toNat = lba % 256 := BitVec.toNat_ofNat ..
    simp only [CdbFormat.lba, BigEndian.value, List.foldl_cons, List.foldl_nil, high, middle, low]
    omega
  | ten =>
    simp only [CdbFormat.lba, encode, List.append_assoc]
    rw [← List.append_assoc]
    exact Cdb.value_field rfl fits.1
  | twelve =>
    simp only [CdbFormat.lba, encode, List.append_assoc]
    rw [← List.append_assoc]
    exact Cdb.value_field rfl fits.1
  | sixteen =>
    simp only [CdbFormat.lba, encode, List.append_assoc]
    rw [← List.append_assoc]
    exact Cdb.value_field rfl fits.1

private theorem blocks_encode (fits : format.Represents lba blocks) (tail : List (BitVec 8)) :
    format.blocks (format.encode isWrite rest lba blocks ++ tail) = blocks := by
  cases format with
  | six =>
    obtain ⟨_, positive, bounded⟩ := fits
    have count : (Cdb.byte (encode isWrite rest lba blocks six ++ tail) 4).toNat = blocks % 256 := BitVec.toNat_ofNat ..
    simp only [CdbFormat.blocks, count]
    split <;> omega
  | ten =>
    simp only [CdbFormat.blocks, encode]
    rw [List.append_assoc _ _ tail]
    exact Cdb.value_field (by simp) fits.2
  | twelve =>
    simp only [CdbFormat.blocks, encode]
    rw [List.append_assoc _ _ tail]
    exact Cdb.value_field (by simp) fits.2
  | sixteen =>
    simp only [CdbFormat.blocks, encode]
    rw [List.append_assoc _ _ tail]
    exact Cdb.value_field (by simp) fits.2

private theorem parse_encode (fits : format.Represents lba blocks) (tail : List (BitVec 8)) :
    format.parse (format.encode isWrite rest lba blocks ++ tail) = (BitVec.ofNat 64 lba, BitVec.ofNat 32 blocks) := by
  have address := format.parse_lba (format.encode isWrite rest lba blocks ++ tail)
  have count := format.parse_blocks (format.encode isWrite rest lba blocks ++ tail)
  rw [lba_encode fits] at address
  rw [blocks_encode fits] at count
  have same : ∀ pair : BitVec 64 × BitVec 32, pair.1.toNat = lba → pair.2.toNat = blocks →
      pair = (BitVec.ofNat 64 lba, BitVec.ofNat 32 blocks) := by
    rintro ⟨offset, len⟩ rfl rfl
    simp
  exact same _ address count

/-! Choosing the format by the operation code. -/

private theorem parseReadWriteOffsetAndLen_eq {cdb : List (BitVec 8)} (selects : Cdb.byte cdb 0 = format.opcode isWrite) :
    parseReadWriteOffsetAndLen cdb = some (format.parse cdb) := by
  rw [parseReadWriteOffsetAndLen, selects]
  cases format <;> cases isWrite <;> rfl

private theorem startIoScsiHandler_eq {host : Host} {memory : Memory} {address processor : Nat}
    (selects : Cdb.byte (host.heap.srbext address).cdb 0 = format.opcode isWrite) :
    host.startIoScsiHandler memory address processor = format.handler host memory address processor isWrite := by
  rw [Host.startIoScsiHandler, selects]
  cases format <;> cases isWrite <;> rfl

end CdbFormat

/-- What a command block says is what every way of decoding it yields: the overload
of its format, that of any other format with room for the same request, the
overload that chooses by the operation code, and the handler `StartIo_ScsiHandler`
selects. -/
theorem readWriteCdb_roundTrip (format : CdbFormat) (isWrite : Bool) :
    (∀ (rest : CdbRest) (tail : List (BitVec 8)) (lba blocks : Nat), format.Represents lba blocks →
      format.parse (format.encode isWrite rest lba blocks ++ tail) = (BitVec.ofNat 64 lba, BitVec.ofNat 32 blocks) ∧
      ∀ (other : CdbFormat) (alsoWrite : Bool) (otherRest : CdbRest) (otherTail : List (BitVec 8)),
        other.Represents lba blocks →
          other.parse (other.encode alsoWrite otherRest lba blocks ++ otherTail) =
            format.parse (format.encode isWrite rest lba blocks ++ tail)) ∧
    (∀ (host : Host) (memory : Memory) (address processor : Nat),
      Cdb.byte (host.heap.srbext address).cdb 0 = format.opcode isWrite →
        parseReadWriteOffsetAndLen (host.heap.srbext address).cdb = some (format.parse (host.heap.srbext address).cdb) ∧
        host.startIoScsiHandler memory address processor = format.handler host memory address processor isWrite ∧
        format.handler host memory address processor isWrite =
          host.scsiReadWrite memory address processor (format.parse (host.heap.srbext address).cdb).1
            (format.parse (host.heap.srbext address).cdb).2 isWrite) := by
  constructor
  · intro rest tail lba blocks fits
    have decoded : format.parse (format.encode isWrite rest lba blocks ++ tail) =
        (BitVec.ofNat 64 lba, BitVec.ofNat 32 blocks) := CdbFormat.parse_encode fits tail
    refine ⟨decoded, ?_⟩
    intro other alsoWrite otherRest otherTail alsoFits
    rw [decoded]
    exact CdbFormat.parse_encode alsoFits otherTail
  · intro host memory address processor selects
    refine ⟨CdbFormat.parseReadWriteOffsetAndLen_eq selects, CdbFormat.startIoScsiHandler_eq selects, ?_⟩
    exact format.handler_eq host memory address processor isWrite

/-- The 256 blocks of a short read, of which the count is 0. -/
theorem readWriteCdb_roundTrip_short :
    CdbFormat.Represents 0x1FFFFF 256 .six ∧
    CdbFormat.parse .six (CdbFormat.encode false ⟨5, 0, 0, 0⟩ 0x1FFFFF 256 .six ++ []) = (0x1FFFFF, 256) :=
  ⟨by decide, ((readWriteCdb_roundTrip .six false).1 ⟨5, 0, 0, 0⟩ [] 0x1FFFFF 256 (by decide)).1⟩

end SpcNvme
