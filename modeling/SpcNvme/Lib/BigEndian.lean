import Mathlib.Data.BitVec
import Mathlib.Tactic.Common

/-! Numbers stored with their most significant byte first. -/

namespace BigEndian

/-- The number a list of bytes stands for. -/
def value (bytes : List (BitVec 8)) : Nat := bytes.foldl (fun number byte => number * 256 + byte.toNat) 0

theorem value_concat (bytes : List (BitVec 8)) (last : BitVec 8) :
    value (bytes ++ [last]) = value bytes * 256 + last.toNat := by
  simp [value]

theorem value_lt (bytes : List (BitVec 8)) : value bytes < 2 ^ (8 * bytes.length) := by
  induction bytes using List.reverseRecOn with
  | nil => simp [value]
  | append_singleton bytes last ih =>
    have small := last.isLt
    rw [value_concat, List.length_append, List.length_singleton, Nat.mul_add, Nat.pow_add]
    omega

def toBitVec (width : Nat) (bytes : List (BitVec 8)) : BitVec width := BitVec.ofNat width (value bytes)

theorem toNat_toBitVec {width : Nat} {bytes : List (BitVec 8)} (fits : 8 * bytes.length ≤ width) :
    (toBitVec width bytes).toNat = value bytes := by
  have small := value_lt bytes
  have wide := Nat.pow_le_pow_right Nat.two_pos fits
  rw [toBitVec, BitVec.toNat_ofNat, Nat.mod_eq_of_lt (by omega)]

/-- So many bytes of a number, from the lowest one on. -/
def bytes : Nat → Nat → List (BitVec 8)
  | 0, _ => []
  | size + 1, number => bytes size (number / 256) ++ [BitVec.ofNat 8 number]

@[simp] theorem length_bytes (size number : Nat) : (bytes size number).length = size := by
  induction size generalizing number with
  | zero => rfl
  | succ size ih => simp [bytes, ih]

theorem value_bytes (size number : Nat) : value (bytes size number) = number % 256 ^ size := by
  induction size generalizing number with
  | zero => simp [bytes, value, Nat.mod_one]
  | succ size ih =>
    have split := Nat.mod_mul (x := number) (a := 256) (b := 256 ^ size)
    have grows : 256 ^ (size + 1) = 256 * 256 ^ size := Nat.pow_succ'
    rw [bytes, value_concat, ih, BitVec.toNat_ofNat, grows, split]
    omega

theorem value_bytes_of_lt {size number : Nat} (small : number < 256 ^ size) : value (bytes size number) = number := by
  rw [value_bytes, Nat.mod_eq_of_lt small]

end BigEndian
