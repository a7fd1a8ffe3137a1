import FreeRtosTsn.Lib.Bytes
import Mathlib.Tactic.Ring

/-!
# Bit fields in network order

The bits of an object are counted from its start, the most significant bit of each byte first, as the diagrams of
packet headers count them. A number that begins at any bit is big-endian.
-/

namespace FreeRtosTsn.Lib.Mem

variable {m m' : Mem} {j j' k n p : Nat}

def bit (m : Mem) (j : Nat) : Bool := (m (j / 8)).toNat.testBit (7 - j % 8)

/-- The number in the `n` bits from bit `j` on. -/
def field (m : Mem) (j : Nat) : Nat → Nat
  | 0 => 0
  | n + 1 => Nat.bit (m.bit (j + n)) (field m j n)

/-- The memories agree but for the `n` bits from bit `j` on. -/
def AgreeOff (j n : Nat) (m m' : Mem) : Prop := ∀ i, i < j ∨ j + n ≤ i → m'.bit i = m.bit i

theorem bit_byte (hp : p < 8) (k : Nat) : m.bit (8 * k + p) = (m k).toNat.testBit (7 - p) := by
  rw [bit, show (8 * k + p) / 8 = k by omega, show (8 * k + p) % 8 = p by omega]

theorem testBit_field (m : Mem) (j n i : Nat) :
    (m.field j n).testBit i = (decide (i < n) && m.bit (j + (n - 1 - i))) := by
  induction n generalizing i with
  | zero => simp [field]
  | succ n ih =>
      cases i with
      | zero => simp [field]
      | succ i => simp [field, Nat.testBit_bit_succ, ih, Nat.sub_sub, Nat.add_comm]

theorem field_congr (h : ∀ i < n, m.bit (j + i) = m'.bit (j' + i)) : m.field j n = m'.field j' n := by
  induction n with
  | zero => rfl
  | succ n ih => rw [field, field, h n (Nat.lt_succ_self n), ih fun i hi => h i (Nat.lt_succ_of_lt hi)]

/-- A field that is apart from the bits that changed is the same. -/
theorem AgreeOff.field (h : AgreeOff j n m m') (hapart : j' + k ≤ j ∨ j + n ≤ j') : m'.field j' k = m.field j' k :=
  field_congr fun i hi => h (j' + i) (by omega)

theorem field_add (m : Mem) (j a b : Nat) : m.field j (a + b) = m.field j a * 2 ^ b + m.field (j + a) b := by
  induction b with
  | zero => simp [field]
  | succ b ih =>
      rw [← Nat.add_assoc, field, ih, field, Nat.bit_val, Nat.bit_val, Nat.pow_succ, Nat.add_assoc j a b]
      ring

/-- A field within one byte. -/
theorem field_byte (h : p + n ≤ 8) (m : Mem) (k : Nat) :
    m.field (8 * k + p) n = (m k).toNat / 2 ^ (8 - p - n) % 2 ^ n := by
  apply Nat.eq_of_testBit_eq
  intro i
  rw [testBit_field, Nat.testBit_mod_two_pow, Nat.testBit_div_two_pow]
  by_cases hi : i < n
  · rw [Nat.add_assoc, bit_byte (by omega), show 7 - (p + (n - 1 - i)) = i + (8 - p - n) by omega]
  · simp [hi]

theorem field_two_bytes (m : Mem) (k : Nat) : m.field (8 * k) 16 = 256 * (m k).toNat + (m (k + 1)).toNat := by
  have hlow := field_byte (p := 0) (n := 8) (by omega) m k
  have hhigh := field_byte (p := 0) (n := 8) (by omega) m (k + 1)
  have := (m k).toNat_lt
  have := (m (k + 1)).toNat_lt
  rw [field_add m (8 * k) 8 8, show 8 * k + 8 = 8 * (k + 1) + 0 by omega, ← Nat.add_zero (8 * k), hlow, hhigh]
  simp only [Nat.sub_zero, Nat.sub_self, Nat.pow_zero, Nat.div_one]
  omega

/-- A 16-bit word that is loaded and swapped is the number in its bits. -/
theorem swap16_load16_toNat (m : Mem) (k : Nat) : (swap16 (m.load16 k)).toNat = m.field (8 * k) 16 := by
  have := (m k).toNat_lt
  have := (m (k + 1)).toNat_lt
  rw [field_two_bytes, swap16_toNat, load16, UInt16.toNat_ofNat']
  omega

/-- A byte whose bits before and behind the field are the old ones. -/
theorem agreeOff_byte (h : ∀ i, i ≠ k → m' i = m i) (hhigh : (m' k).toNat / 2 ^ (8 - p) = (m k).toNat / 2 ^ (8 - p))
    (hlow : (m' k).toNat % 2 ^ (8 - p - n) = (m k).toNat % 2 ^ (8 - p - n)) : AgreeOff (8 * k + p) n m m' := by
  intro i hi
  by_cases hik : i / 8 = k
  · rw [bit, bit, hik]
    rcases (show i % 8 < p ∨ p + n ≤ i % 8 by omega) with hq | hq
    · have hbit := congrArg (Nat.testBit · (7 - i % 8 - (8 - p))) hhigh
      rwa [Nat.testBit_div_two_pow, Nat.testBit_div_two_pow, Nat.sub_add_cancel (by omega)] at hbit
    · have hbit := congrArg (Nat.testBit · (7 - i % 8)) hlow
      simpa [Nat.testBit_mod_two_pow, show 7 - i % 8 < 8 - p - n by omega] using hbit
  · rw [bit, bit, h (i / 8) hik]

theorem AgreeOff.trans {m₁ m₂ m₃ : Mem} (h : AgreeOff j n m₁ m₂) (h' : AgreeOff j' k m₂ m₃) (hadj : j + n = j') :
    AgreeOff j (n + k) m₁ m₃ :=
  fun i hi => (h' i (by omega)).trans (h i (by omega))

end FreeRtosTsn.Lib.Mem
