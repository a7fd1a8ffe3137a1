import Mathlib.Algebra.BigOperators.Group.List.Basic
import Mathlib.Data.Nat.Bitwise
import Mathlib.Logic.Function.Basic
/-!
# Bytes and 16 and 32-bit words in memory

Memory is a total map from offsets to bytes; how many of them belong to an object is recorded where the object
is. Words are stored little-endian.
-/

namespace FreeRtosTsn.Lib

/-- The bytes from the start of an object on. -/
abbrev Mem := Nat → UInt8

namespace Mem

/-- An object with the bytes `bs`. -/
def ofBytes (bs : List UInt8) : Mem := fun i => bs.getD i 0

/-- `memcpy` of the list `bs` to offset `off`. -/
def write (m : Mem) (off : Nat) (bs : List UInt8) : Mem :=
  fun i => if off ≤ i ∧ i < off + bs.length then bs.getD (i - off) 0 else m i

/-- `memmove` of `n` bytes from `src` to `dst`. -/
def move (m : Mem) (dst src n : Nat) : Mem :=
  fun i => if dst ≤ i ∧ i < dst + n then m (src + (i - dst)) else m i

/-- The `n` bytes from offset `off` on. -/
def read (m : Mem) (off n : Nat) : List UInt8 := (List.range n).map fun i => m (off + i)

theorem write_of_lt {m : Mem} {off i : Nat} {bs : List UInt8} (h : i < off) : m.write off bs i = m i := by
  simp only [write]
  rw [if_neg (by omega)]

theorem write_of_ge {m : Mem} {off i : Nat} {bs : List UInt8} (h : off + bs.length ≤ i) :
    m.write off bs i = m i := by
  simp only [write]
  rw [if_neg (by omega)]

theorem write_other {m : Mem} {off i : Nat} {bs : List UInt8} (h : i < off ∨ off + bs.length ≤ i) :
    m.write off bs i = m i := by
  rcases h with h | h
  · exact write_of_lt h
  · exact write_of_ge h

theorem write_at (m : Mem) (off : Nat) {bs : List UInt8} {i : Nat} (h : i < bs.length) :
    m.write off bs (off + i) = bs[i] := by
  simp only [write]
  rw [if_pos (by omega)]
  simp [h]

theorem write_one (m : Mem) (off : Nat) (x : UInt8) : m.write off [x] = Function.update m off x := by
  funext i
  by_cases hi : i = off
  · subst hi
    rw [Function.update_self]
    exact write_at m i (show 0 < [x].length by simp)
  · rw [Function.update_of_ne hi, write_other]
    simp only [List.length_singleton]
    omega

@[simp] theorem read_length (m : Mem) (off n : Nat) : (m.read off n).length = n := by simp [read]

theorem read_congr {m m' : Mem} {off off' n : Nat} (h : ∀ i < n, m (off + i) = m' (off' + i)) :
    m.read off n = m'.read off' n := by
  simp only [read]
  exact List.map_congr_left fun i hi => h i (List.mem_range.mp hi)

theorem read_inj {m m' : Mem} {off n : Nat} (h : m.read off n = m'.read off n) : ∀ i < n, m (off + i) = m' (off + i) := by
  intro i hi
  exact List.map_inj_left.mp h i (List.mem_range.mpr hi)

theorem read_write (m : Mem) (off : Nat) (bs : List UInt8) : (m.write off bs).read off bs.length = bs := by
  apply List.ext_getElem (by simp)
  intro i hi hi'
  simp [read, write_at m off hi']

/-- Two parts are written one after the other. -/
theorem write_append (m : Mem) (off : Nat) (bs bs' : List UInt8) :
    m.write off (bs ++ bs') = (m.write off bs).write (off + bs.length) bs' := by
  funext i
  by_cases hi : i < off + bs.length
  · rw [write_of_lt hi]
    by_cases hlt : i < off
    · rw [write_of_lt hlt, write_of_lt hlt]
    · obtain ⟨k, rfl⟩ := Nat.exists_eq_add_of_le (Nat.le_of_not_lt hlt)
      have hk : k < bs.length := by omega
      rw [write_at m off hk, write_at m off (by rw [List.length_append]; omega), List.getElem_append_left hk]
  · by_cases hge : off + bs.length + bs'.length ≤ i
    · have hall : off + (bs ++ bs').length ≤ i := by
        rw [List.length_append]
        omega
      rw [write_of_ge hall, write_of_ge hge, write_of_ge (by omega)]
    · obtain ⟨k, rfl⟩ := Nat.exists_eq_add_of_le (Nat.le_of_not_lt hi)
      have hk : k < bs'.length := by omega
      rw [write_at _ _ hk, Nat.add_assoc, write_at m off (by rw [List.length_append]; omega),
        List.getElem_append_right (by omega)]
      simp

theorem take_read (m : Mem) (off k n : Nat) : (m.read off n).take k = m.read off (min k n) := by
  simp only [read, ← List.map_take, List.take_range]

end Mem

/-! ## Words -/

def swap16 (x : UInt16) : UInt16 := UInt16.ofNat (x.toNat % 256 * 256 + x.toNat / 256)

theorem swap16_toNat (x : UInt16) : (swap16 x).toNat = x.toNat % 256 * 256 + x.toNat / 256 := by
  have := x.toNat_lt
  rw [swap16, UInt16.toNat_ofNat', Nat.mod_eq_of_lt (by omega)]

@[simp] theorem swap16_swap16 (x : UInt16) : swap16 (swap16 x) = x := by
  apply UInt16.toNat.inj
  have := x.toNat_lt
  rw [swap16_toNat, swap16_toNat]
  omega

def bytes16 (x : UInt16) : List UInt8 := [UInt8.ofNat x.toNat, UInt8.ofNat (x.toNat / 256)]

def bytes32 (x : UInt32) : List UInt8 :=
  [UInt8.ofNat x.toNat, UInt8.ofNat (x.toNat / 256), UInt8.ofNat (x.toNat / 65536), UInt8.ofNat (x.toNat / 16777216)]

@[simp] theorem bytes16_length (x : UInt16) : (bytes16 x).length = 2 := rfl

@[simp] theorem bytes32_length (x : UInt32) : (bytes32 x).length = 4 := rfl

namespace Mem

def load16 (m : Mem) (off : Nat) : UInt16 := UInt16.ofNat ((m off).toNat + 256 * (m (off + 1)).toNat)

def load32 (m : Mem) (off : Nat) : UInt32 :=
  UInt32.ofNat ((m off).toNat + 256 * (m (off + 1)).toNat + 65536 * (m (off + 2)).toNat +
    16777216 * (m (off + 3)).toNat)

def store16 (m : Mem) (off : Nat) (x : UInt16) : Mem := m.write off (bytes16 x)

def store32 (m : Mem) (off : Nat) (x : UInt32) : Mem := m.write off (bytes32 x)

theorem load16_congr {m m' : Mem} {off off' : Nat} (h : ∀ i < 2, m (off + i) = m' (off' + i)) :
    m.load16 off = m'.load16 off' := by
  have h0 := h 0 (by omega)
  have h1 := h 1 (by omega)
  simp only [Nat.add_zero] at h0
  simp only [load16, h0, h1]

@[simp] theorem load16_store16 (m : Mem) (off : Nat) (x : UInt16) : (m.store16 off x).load16 off = x := by
  have h0 : m.store16 off x off = UInt8.ofNat x.toNat := write_at m off (show 0 < (bytes16 x).length by simp)
  have h1 : m.store16 off x (off + 1) = UInt8.ofNat (x.toNat / 256) :=
    write_at m off (show 1 < (bytes16 x).length by simp)
  apply UInt16.toNat.inj
  have := x.toNat_lt
  simp only [load16, h0, h1, UInt16.toNat_ofNat', UInt8.toNat_ofNat']
  omega

theorem load16_of_read {m : Mem} {off : Nat} {x : UInt16} (h : m.read off 2 = bytes16 x) : m.load16 off = x := by
  have hstore : m.load16 off = (m.store16 off x).load16 off :=
    load16_congr (read_inj (h.trans (read_write m off (bytes16 x)).symm))
  rw [hstore, load16_store16]

theorem load32_congr {m m' : Mem} {off off' : Nat} (h : ∀ i < 4, m (off + i) = m' (off' + i)) :
    m.load32 off = m'.load32 off' := by
  have h0 := h 0 (by omega)
  simp only [Nat.add_zero] at h0
  simp only [load32, h0, h 1 (by omega), h 2 (by omega), h 3 (by omega)]

@[simp] theorem load32_store32 (m : Mem) (off : Nat) (x : UInt32) : (m.store32 off x).load32 off = x := by
  have hat : ∀ i, (hi : i < 4) → m.store32 off x (off + i) = (bytes32 x)[i] := fun i hi => write_at m off hi
  have h0 : m.store32 off x off = UInt8.ofNat x.toNat := hat 0 (by omega)
  have h1 : m.store32 off x (off + 1) = UInt8.ofNat (x.toNat / 256) := hat 1 (by omega)
  have h2 : m.store32 off x (off + 2) = UInt8.ofNat (x.toNat / 65536) := hat 2 (by omega)
  have h3 : m.store32 off x (off + 3) = UInt8.ofNat (x.toNat / 16777216) := hat 3 (by omega)
  apply UInt32.toNat.inj
  have := x.toNat_lt
  simp only [load32, h0, h1, h2, h3, UInt32.toNat_ofNat', UInt8.toNat_ofNat']
  omega

theorem load32_of_read {m : Mem} {off : Nat} {x : UInt32} (h : m.read off 4 = bytes32 x) : m.load32 off = x := by
  have hstore : m.load32 off = (m.store32 off x).load32 off :=
    load32_congr (read_inj (h.trans (read_write m off (bytes32 x)).symm))
  rw [hstore, load32_store32]

/-! ## Fields -/

/-- The fields of a header, each with its offset, written one after the other. -/
def writeAll (m : Mem) (fs : List (Nat × List UInt8)) : Mem := fs.foldl (fun m f => m.write f.1 f.2) m

theorem writeAll_append (m : Mem) (fs gs : List (Nat × List UInt8)) :
    m.writeAll (fs ++ gs) = (m.writeAll fs).writeAll gs := List.foldl_append

/-- No field touches the `n` bytes from offset `i` on. -/
def Apart (i n : Nat) (fs : List (Nat × List UInt8)) : Prop := ∀ f ∈ fs, i + n ≤ f.1 ∨ f.1 + f.2.length ≤ i

theorem writeAll_apart {fs : List (Nat × List UInt8)} {i n k : Nat} (h : Apart i n fs) (hk : k < n) (m : Mem) :
    m.writeAll fs (i + k) = m (i + k) := by
  induction fs generalizing m with
  | nil => rfl
  | cons f fs ih =>
      have hf := h f List.mem_cons_self
      have hrest := ih (fun g hg => h g (List.mem_cons_of_mem f hg)) (m.write f.1 f.2)
      rw [writeAll, List.foldl_cons, ← writeAll, hrest]
      apply write_other
      omega

/-- Neither of two fields touches the other. -/
def Separate (f g : Nat × List UInt8) : Prop := f.1 + f.2.length ≤ g.1 ∨ g.1 + g.2.length ≤ f.1

/-- Of fields that are separate each is read back. -/
theorem writeAll_read {fs : List (Nat × List UInt8)} (h : fs.Pairwise Separate) {f : Nat × List UInt8} (hf : f ∈ fs)
    (m : Mem) : (m.writeAll fs).read f.1 f.2.length = f.2 := by
  induction fs generalizing m with
  | nil => cases hf
  | cons g fs ih =>
      obtain ⟨hg, hfs⟩ := List.pairwise_cons.mp h
      rcases List.mem_cons.mp hf with rfl | hf
      · rw [writeAll, List.foldl_cons, ← writeAll, read_congr (fun i hi => writeAll_apart hg hi _)]
        exact read_write m f.1 f.2
      · exact ih hfs hf (m.write g.1 g.2)

/-- The fields follow each other from `off` on. -/
def Tiled (off : Nat) : List (Nat × List UInt8) → Prop
  | [] => True
  | f :: fs => f.1 = off ∧ Tiled (off + f.2.length) fs

theorem read_append (m : Mem) (off a b : Nat) : m.read off (a + b) = m.read off a ++ m.read (off + a) b := by
  simp [read, List.range_add, Nat.add_assoc]

theorem read_tiled {m : Mem} {fs : List (Nat × List UInt8)} {off : Nat} (ht : Tiled off fs)
    (h : ∀ f ∈ fs, m.read f.1 f.2.length = f.2) :
    m.read off (fs.flatMap Prod.snd).length = fs.flatMap Prod.snd := by
  induction fs generalizing off with
  | nil => rfl
  | cons f fs ih =>
      obtain ⟨rfl, ht⟩ := ht
      rw [List.flatMap_cons, List.length_append, read_append, h f List.mem_cons_self,
        ih ht fun g hg => h g (List.mem_cons_of_mem f hg)]

end Mem

end FreeRtosTsn.Lib
