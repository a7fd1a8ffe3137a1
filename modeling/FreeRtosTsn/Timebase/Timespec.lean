import FreeRtosTsn.Kernel.World

/-!
# Arithmetic of timespecs

FreeRTOS_TSN_Timebase.c. The arguments are pointers, any of which may be equal.
-/

namespace FreeRtosTsn.Timebase

open Lib Kernel

/-- A timespec of a caller, or the local one of `xTimespecDiv`. -/
inductive TimespecPtr
  | caller (n : Nat)
  | xTemp
  deriving DecidableEq

abbrev Timespecs := TimespecPtr → Timespec

abbrev TimespecM := EStateM Fault Timespecs

def nsInOneSec : UInt32 := 1000000000

def loadTimespec (p : TimespecPtr) : TimespecM Timespec := return (← get) p

def storeSec (p : TimespecPtr) (x : UInt32) : TimespecM Unit :=
  modify fun ts => Function.update ts p { ts p with tvSec := x }

def storeNsec (p : TimespecPtr) (x : UInt32) : TimespecM Unit :=
  modify fun ts => Function.update ts p { ts p with tvNsec := x }

/-- The operands are copied before the result is written. -/
def xTimespecSum (pxOut pxOp1 pxOp2 : TimespecPtr) : TimespecM Bool := do
  let xOp1 ← loadTimespec pxOp1
  let xOp2 ← loadTimespec pxOp2
  storeSec pxOut (xOp1.tvSec + xOp2.tvSec)
  storeNsec pxOut ((xOp1.tvNsec + xOp2.tvNsec) % nsInOneSec)
  let xOut ← loadTimespec pxOut
  if xOut.tvNsec < xOp1.tvNsec ∨ xOut.tvNsec < xOp2.tvNsec then
    storeSec pxOut (xOut.tvSec + 1)
  let xOut ← loadTimespec pxOut
  if xOut.tvSec < xOp1.tvSec ∨ xOut.tvSec < xOp2.tvSec then
    return false
  else
    return true

/-- The operands are read while the result is written. -/
def xTimespecDiff (pxOut pxOp1 pxOp2 : TimespecPtr) : TimespecM Bool := do
  storeSec pxOut ((← loadTimespec pxOp1).tvSec - (← loadTimespec pxOp2).tvSec)
  if (← loadTimespec pxOp1).tvNsec ≥ (← loadTimespec pxOp2).tvNsec then
    storeNsec pxOut ((← loadTimespec pxOp1).tvNsec - (← loadTimespec pxOp2).tvNsec)
  else
    storeNsec pxOut (nsInOneSec - ((← loadTimespec pxOp2).tvNsec - (← loadTimespec pxOp1).tvNsec))
    storeSec pxOut ((← loadTimespec pxOut).tvSec - 1)
  return true

/-- The loop of `xTimespecDiv`, with the number of passes that are left. -/
def prvAddParts (pxOut : TimespecPtr) (n : UInt32) : Nat → TimespecM Unit
  | 0 => return ()
  | k + 1 => do
      storeSec .xTemp 0
      storeNsec .xTemp (nsInOneSec / n)
      let _ ← xTimespecSum pxOut pxOut .xTemp
      prvAddParts pxOut n k

/-- Both parts of the quotient, each rounded down. -/
def prvDivideParts (pxOut : TimespecPtr) (xOp1 : Timespec) (n : UInt32) : TimespecM Unit := do
  storeSec pxOut (xOp1.tvSec / n)
  storeNsec pxOut (xOp1.tvNsec / n)

/-- The divisor is a `BaseType_t`, which is converted to the type of the operands. The counter of the loop is compared
as unsigned. -/
def xTimespecDiv (pxOut pxOp1 : TimespecPtr) (xOp2 : Int) : TimespecM Bool := do
  let n := UInt32.ofNat (xOp2 % 2 ^ 32).toNat
  let xOp1 ← loadTimespec pxOp1
  if n = 0 then
    throw .divZero
  prvDivideParts pxOut xOp1 n
  prvAddParts pxOut n (xOp1.tvSec % n).toNat
  return true

def xTimespecCmp (pxOp1 pxOp2 : TimespecPtr) : TimespecM Int := do
  let xOp1 ← loadTimespec pxOp1
  let xOp2 ← loadTimespec pxOp2
  if xOp1.tvSec > xOp2.tvSec then
    return 1
  else if xOp1.tvSec = xOp2.tvSec then
    if xOp1.tvNsec > xOp2.tvNsec then
      return 1
    else if xOp1.tvNsec = xOp2.tvNsec then
      return 0
    else
      return -1
  else
    return -1

end FreeRtosTsn.Timebase
