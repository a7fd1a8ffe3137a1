import Mathlib.Data.ZMod.Basic
import Mathlib.Tactic.LinearCombination
import Mathlib.Tactic.Ring

/-!
# Numbers of two digits

A high digit below `A` and a low one below `B` stand for a number below `A * B`. Adding with a carry and subtracting
with a borrow make them the group of the numbers modulo `A * B`.
-/

namespace FreeRtosTsn.Lib

/-- A high and a low digit. -/
@[ext] structure Digits (A B : Nat) where
  hi : Nat
  lo : Nat
  hi_lt : hi < A
  lo_lt : lo < B

namespace Digits

variable {A B : Nat}

def val (a : Digits A B) : Nat := a.hi * B + a.lo

theorem val_lt (a : Digits A B) : a.val < A * B := by
  have hhi : (a.hi + 1) * B ≤ A * B := Nat.mul_le_mul_right B a.hi_lt
  have hlo := a.lo_lt
  rw [Nat.succ_mul] at hhi
  exact Nat.lt_of_lt_of_le (Nat.add_lt_add_left hlo _) hhi

theorem val_div (a : Digits A B) : a.val / B = a.hi := by
  rw [val, Nat.mul_comm, Nat.mul_add_div (Nat.zero_lt_of_lt a.lo_lt), Nat.div_eq_of_lt a.lo_lt, Nat.add_zero]

theorem val_mod (a : Digits A B) : a.val % B = a.lo := by
  rw [val, Nat.mul_comm, Nat.mul_add_mod, Nat.mod_eq_of_lt a.lo_lt]

theorem val_injective : Function.Injective (val : Digits A B → Nat) := by
  intro a b h
  ext
  · rw [← val_div a, h, val_div]
  · rw [← val_mod a, h, val_mod]

/-- The order is lexicographic. -/
theorem val_lt_iff {a b : Digits A B} : a.val < b.val ↔ a.hi < b.hi ∨ a.hi = b.hi ∧ a.lo < b.lo := by
  have hless : ∀ {a b : Digits A B}, a.hi < b.hi → a.val < b.val := by
    intro a b h
    have hhi : (a.hi + 1) * B ≤ b.hi * B := Nat.mul_le_mul_right B h
    have hlo := a.lo_lt
    rw [Nat.succ_mul] at hhi
    simp only [val]
    omega
  rcases Nat.lt_trichotomy a.hi b.hi with h | h | h
  · exact iff_of_true (hless h) (.inl h)
  · simp [val, h]
  · refine iff_of_false (Nat.not_lt.mpr (hless h).le) ?_
    rintro (hlt | ⟨heq, -⟩)
    · exact Nat.lt_asymm h hlt
    · exact Nat.ne_of_gt h heq

/-! ## Arithmetic -/

/-- The carry goes to the high digit. -/
instance : Add (Digits A B) where
  add a b := ⟨(a.hi + b.hi + (a.lo + b.lo) / B) % A, (a.lo + b.lo) % B, Nat.mod_lt _ (Nat.zero_lt_of_lt a.hi_lt),
    Nat.mod_lt _ (Nat.zero_lt_of_lt a.lo_lt)⟩

/-- The borrow is taken from the high digit. -/
instance : Sub (Digits A B) where
  sub a b :=
    if h : b.lo ≤ a.lo then
      ⟨(a.hi + (A - b.hi)) % A, a.lo - b.lo, Nat.mod_lt _ (Nat.zero_lt_of_lt a.hi_lt),
        Nat.lt_of_le_of_lt (Nat.sub_le _ _) a.lo_lt⟩
    else
      ⟨(a.hi + (A - b.hi) + (A - 1)) % A, B - (b.lo - a.lo), Nat.mod_lt _ (Nat.zero_lt_of_lt a.hi_lt),
        Nat.sub_lt (Nat.zero_lt_of_lt a.lo_lt) (Nat.sub_pos_of_lt (Nat.not_le.mp h))⟩

theorem hi_add (a b : Digits A B) : (a + b).hi = (a.hi + b.hi + (a.lo + b.lo) / B) % A := rfl

theorem lo_add (a b : Digits A B) : (a + b).lo = (a.lo + b.lo) % B := rfl

theorem sub_of_le {a b : Digits A B} (h : b.lo ≤ a.lo) :
    (a - b).hi = (a.hi + (A - b.hi)) % A ∧ (a - b).lo = a.lo - b.lo := by
  have hsub : a - b = ⟨(a.hi + (A - b.hi)) % A, a.lo - b.lo, Nat.mod_lt _ (Nat.zero_lt_of_lt a.hi_lt),
      Nat.lt_of_le_of_lt (Nat.sub_le _ _) a.lo_lt⟩ := dif_pos h
  rw [hsub]
  exact ⟨rfl, rfl⟩

theorem sub_of_lt {a b : Digits A B} (h : a.lo < b.lo) :
    (a - b).hi = (a.hi + (A - b.hi) + (A - 1)) % A ∧ (a - b).lo = B - (b.lo - a.lo) := by
  have hsub : a - b = ⟨(a.hi + (A - b.hi) + (A - 1)) % A, B - (b.lo - a.lo), Nat.mod_lt _ (Nat.zero_lt_of_lt a.hi_lt),
      Nat.sub_lt (Nat.zero_lt_of_lt a.lo_lt) (Nat.sub_pos_of_lt h)⟩ := dif_neg (Nat.not_le.mpr h)
  rw [hsub]
  exact ⟨rfl, rfl⟩

theorem val_add (a b : Digits A B) : (a + b).val = (a.val + b.val) % (A * B) := by
  have hsum : a.val + b.val = B * (a.hi + b.hi) + (a.lo + b.lo) := by
    simp only [val]
    ring
  rw [Nat.mul_comm A B, Nat.mod_mul, hsum, Nat.mul_add_mod, Nat.mul_add_div (Nat.zero_lt_of_lt a.lo_lt), val, hi_add, lo_add,
    Nat.mul_comm B, Nat.add_comm]

/-! ## The group -/

/-- The number modulo `A * B`. -/
def toZMod (a : Digits A B) : ZMod (A * B) := a.val

theorem toZMod_injective : Function.Injective (toZMod : Digits A B → ZMod (A * B)) := by
  intro a b h
  have hmod := (ZMod.natCast_eq_natCast_iff _ _ _).mp h
  rw [Nat.ModEq, Nat.mod_eq_of_lt a.val_lt, Nat.mod_eq_of_lt b.val_lt] at hmod
  exact val_injective hmod

theorem toZMod_add (a b : Digits A B) : (a + b).toZMod = a.toZMod + b.toZMod := by
  rw [toZMod, val_add, ZMod.natCast_mod, Nat.cast_add]
  rfl

/-- The high digit counts modulo `A`. -/
theorem cast_mod_mul (n : Nat) : ((n % A * B : Nat) : ZMod (A * B)) = (n * B : Nat) :=
  (ZMod.natCast_eq_natCast_iff _ _ _).mpr ((Nat.mod_modEq n A).mul_right' B)

theorem toZMod_sub (a b : Digits A B) : (a - b).toZMod = a.toZMod - b.toZMod := by
  have hzero : (A : ZMod (A * B)) * B = 0 := by
    rw [← Nat.cast_mul, ZMod.natCast_self]
  have hhi := b.hi_lt.le
  have hA : 1 ≤ A := Nat.zero_lt_of_lt a.hi_lt
  have hb := b.lo_lt
  rw [toZMod, toZMod, toZMod, val, val, val, Nat.cast_add]
  rcases Nat.lt_or_ge a.lo b.lo with h | h
  · obtain ⟨hsub, hlo⟩ := sub_of_lt h
    rw [hsub, hlo, cast_mod_mul]
    have hle : b.lo - a.lo ≤ B := by omega
    push_cast [Nat.cast_sub hhi, Nat.cast_sub hA, Nat.cast_sub hle, Nat.cast_sub h.le]
    linear_combination 2 * hzero
  · obtain ⟨hsub, hlo⟩ := sub_of_le h
    rw [hsub, hlo, cast_mod_mul]
    push_cast [Nat.cast_sub hhi, Nat.cast_sub h]
    linear_combination hzero

variable [NeZero A] [NeZero B]

instance : Zero (Digits A B) := ⟨⟨0, 0, Nat.pos_of_neZero A, Nat.pos_of_neZero B⟩⟩

instance : Neg (Digits A B) := ⟨fun a => 0 - a⟩

theorem toZMod_zero : (0 : Digits A B).toZMod = 0 := by
  have hval : (0 : Digits A B).val = 0 := Nat.zero_mul B
  rw [toZMod, hval, Nat.cast_zero]

theorem toZMod_neg (a : Digits A B) : (-a).toZMod = -a.toZMod := by
  have hneg : -a = 0 - a := rfl
  rw [hneg, toZMod_sub, toZMod_zero, zero_sub]

instance : AddCommGroup (Digits A B) where
  add_assoc a b c := toZMod_injective (by simp only [toZMod_add, add_assoc])
  zero_add a := toZMod_injective (by rw [toZMod_add, toZMod_zero, zero_add])
  add_zero a := toZMod_injective (by rw [toZMod_add, toZMod_zero, add_zero])
  add_comm a b := toZMod_injective (by rw [toZMod_add, toZMod_add, add_comm])
  neg_add_cancel a := toZMod_injective (by rw [toZMod_add, toZMod_neg, toZMod_zero, neg_add_cancel])
  sub_eq_add_neg a b := toZMod_injective (by rw [toZMod_add, toZMod_neg, toZMod_sub, sub_eq_add_neg])
  nsmul := nsmulRec
  zsmul := zsmulRec

/-- A difference of numbers that does not go below zero is one of digits. -/
theorem val_sub_add {a b : Digits A B} (h : b.val ≤ a.val) : (a - b).val + b.val = a.val := by
  have hmod := val_add (a - b) b
  have hlt := (a - b).val_lt
  rw [sub_add_cancel] at hmod
  rcases Nat.lt_or_ge ((a - b).val + b.val) (A * B) with hfit | hover
  · rw [hmod, Nat.mod_eq_of_lt hfit]
  · have hb := b.val_lt
    rw [Nat.mod_eq_sub_mod hover, Nat.mod_eq_of_lt (by omega)] at hmod
    omega

end Digits

end FreeRtosTsn.Lib
