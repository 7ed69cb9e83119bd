import Mathlib.Algebra.Module.Basic
import Mathlib.Tactic.Module

/-!
# Groups with a cofactor

Every point of the group has an order that divides the product of a small cofactor and a number `n`.
Points of low order are the ones the cofactor kills.  A multiple of the cofactor that is coprime to `n`
acts on the points up to low order like a bijection, which decides when two such multiples of two
points meet.
-/

namespace Foundation

variable {G : Type*} [AddCommGroup G]

/-- The cofactor kills the point. -/
def LowOrder (cofactor : ℕ) (P : G) : Prop := cofactor • P = 0

variable {cofactor n a b : ℕ} {P Q R : G}

theorem LowOrder.nsmul_eq_zero (h : LowOrder cofactor P) (hdvd : cofactor ∣ a) : a • P = 0 := by
  obtain ⟨k, rfl⟩ := hdvd
  rw [mul_comm, mul_nsmul', h, nsmul_zero]

theorem lowOrder_neg : LowOrder cofactor (-P) ↔ LowOrder cofactor P := by
  rw [LowOrder, LowOrder, smul_neg, neg_eq_zero]

/-- A coprime multiple kills nothing but points of low order. -/
theorem lowOrder_of_nsmul_eq_zero (hcoprime : a.Coprime n) (horder : (cofactor * n) • P = 0)
    (hzero : a • P = 0) : LowOrder cofactor P := by
  have hbezout : (1 : ℤ) = a * a.gcdA n + n * a.gcdB n := by
    rw [← Nat.gcd_eq_gcd_ab, hcoprime]
    rfl
  calc
    cofactor • P = ((cofactor : ℤ) * (a * a.gcdA n + n * a.gcdB n)) • P := by
      rw [← hbezout, mul_one, natCast_zsmul]
    _ = (cofactor * a.gcdA n : ℤ) • a • P + (a.gcdB n) • (cofactor * n) • P := by module
    _ = 0 := by rw [hzero, horder, smul_zero, smul_zero, add_zero]

/-- A coprime multiple can be divided by, up to a point of low order. -/
theorem exists_nsmul_lowOrder (hcoprime : a.Coprime n) (horder : (cofactor * n) • P = 0) :
    ∃ R, (cofactor * n) • R = 0 ∧ LowOrder cofactor (P - a • R) := by
  have hbezout : (a : ℤ) * a.gcdA n = 1 - n * a.gcdB n := by
    rw [eq_sub_iff_add_eq, ← Nat.gcd_eq_gcd_ab, hcoprime]
    rfl
  refine ⟨a.gcdA n • P, ?_, ?_⟩
  · rw [smul_comm, horder, smul_zero]
  · calc
      cofactor • (P - a • a.gcdA n • P) = (cofactor : ℤ) • (P - ((a : ℤ) * a.gcdA n) • P) := by
        module
      _ = a.gcdB n • (cofactor * n) • P := by
        rw [hbezout]
        module
      _ = 0 := by rw [horder, smul_zero]

/-- Two multiples of two points meet exactly if the points are multiples of one and the same point, each
by the factor of the other one, up to points of low order. -/
theorem nsmul_eq_nsmul_iff (hadvd : cofactor ∣ a) (hbdvd : cofactor ∣ b) (hb : b.Coprime n)
    (hP : (cofactor * n) • P = 0) (hQ : (cofactor * n) • Q = 0) :
    a • P = b • Q ↔ ∃ R, LowOrder cofactor (P - b • R) ∧ LowOrder cofactor (Q - a • R) := by
  constructor
  · intro hmeet
    obtain ⟨R, hR, hlow⟩ := exists_nsmul_lowOrder hb hP
    refine ⟨R, hlow, lowOrder_of_nsmul_eq_zero hb ?_ ?_⟩
    · rw [nsmul_sub, hQ, smul_comm, hR, smul_zero, sub_zero]
    · calc
        b • (Q - a • R) = a • (P - b • R) := by rw [nsmul_sub, nsmul_sub, hmeet, smul_comm b a]
        _ = 0 := hlow.nsmul_eq_zero hadvd
  · rintro ⟨R, hP, hQ⟩
    calc
      a • P = a • (P - b • R) + a • b • R := by rw [nsmul_sub, sub_add_cancel]
      _ = b • (Q - a • R) + b • a • R := by
        rw [hP.nsmul_eq_zero hadvd, hQ.nsmul_eq_zero hbdvd, smul_comm b a]
      _ = b • Q := by rw [nsmul_sub, sub_add_cancel]

end Foundation
