/-!
# Counts

Naturals of 64 bits that stop at the largest: adding past it gives the largest.
Counters and durations are counts. Addition is commutative and associative, and
zero is neutral, as for naturals.
-/

namespace Dialogue

/-- A natural below `2^64`, which is 18446744073709551616. -/
@[ext]
structure Count where
  /-- The natural. -/
  val : Nat
  val_lt : val < 18446744073709551616
  deriving DecidableEq, Repr

namespace Count

/-- The largest count. -/
def max : Count := ⟨18446744073709551615, by decide⟩

/-- A natural as a count, the largest if it is too large. -/
def ofNat (n : Nat) : Count :=
  if h : n < 18446744073709551616 then ⟨n, h⟩ else max

instance : OfNat Count n := ⟨ofNat n⟩
instance : Inhabited Count := ⟨0⟩

/-- The sum, or the largest count if that is less. -/
def add (a b : Count) : Count :=
  ofNat (a.val + b.val)

instance : Add Count := ⟨add⟩

/-- How far `a` is above `b`, zero if it is not. -/
def above (a b : Count) : Count :=
  ⟨a.val - b.val, Nat.lt_of_le_of_lt (Nat.sub_le _ _) a.val_lt⟩

theorem val_max : max.val = 18446744073709551615 := rfl

theorem val_ofNat (n : Nat) : (ofNat n).val = min n max.val := by
  rw [val_max]
  unfold ofNat
  split
  · rename_i h; simp; omega
  · rename_i h; rw [val_max]; omega

@[simp] theorem val_zero : (0 : Count).val = 0 := rfl

theorem val_add (a b : Count) : (a + b).val = min (a.val + b.val) max.val :=
  val_ofNat _

theorem add_comm (a b : Count) : a + b = b + a := by
  ext; rw [val_add, val_add, Nat.add_comm]

theorem add_assoc (a b c : Count) : a + b + c = a + (b + c) := by
  ext; simp only [val_add]; omega

@[simp] theorem add_zero (a : Count) : a + 0 = a := by
  ext; rw [val_add, val_max]; have := a.val_lt; simp; omega

@[simp] theorem zero_add (a : Count) : 0 + a = a := by
  rw [add_comm, add_zero]

/-- Stopping at the largest count before adding or after it comes to the same. -/
theorem ofNat_add (m n : Nat) : ofNat (m + n) = ofNat m + ofNat n := by
  ext; simp only [val_add, val_ofNat]; omega

theorem ofNat_val (a : Count) : ofNat a.val = a := by
  ext; rw [val_ofNat, val_max]; have := a.val_lt; omega

end Count

end Dialogue
