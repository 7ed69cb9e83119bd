import AirClip.Core.Reference
import AirClip.Foundation.Cofactor
import Mathlib.NumberTheory.LucasPrimality
import Mathlib.Tactic.ReduceModChar

/-!
# X25519

The Diffie-Hellman function of the `x25519-dalek` crate multiplies a point with the given u-coordinate
by the clamped scalar.  Every u-coordinate belongs to a point of the curve, whose order divides eight
times a prime, or of its twist, whose order divides four times a prime, and the result is not checked.
-/

open Foundation

namespace AirClip

/-- The integer a secret stands for: the three low bits and the top bit cleared, the bit below the top
one set. -/
def clamp (secret : Key32) : ℕ := 2 ^ 254 + leNat secret.toList % 2 ^ 254 / 8 * 8

theorem eight_dvd_clamp (secret : Key32) : 8 ∣ clamp secret :=
  Nat.dvd_add (by decide) (Nat.dvd_mul_left _ _)

theorem clamp_lt (secret : Key32) : clamp secret < 2 ^ 255 := by
  have hmod : leNat secret.toList % 2 ^ 254 < 2 ^ 254 := Nat.mod_lt _ (by decide)
  unfold clamp
  omega

theorem clamp_pos (secret : Key32) : 0 < clamp secret := Nat.add_pos_left (by decide) _

/-- A clamped scalar is no multiple of a prime of more than 252 bits. -/
theorem clamp_coprime (secret : Key32) {prime : ℕ} (hprime : prime.Prime) (hlt : 2 ^ 252 < prime) :
    (clamp secret).Coprime prime := by
  rw [Nat.coprime_comm, hprime.coprime_iff_not_dvd]
  intro hdvd
  have height : Nat.Coprime 8 prime := by
    rw [Nat.coprime_comm, hprime.coprime_iff_not_dvd]
    intro hdvd
    exact absurd (Nat.le_of_dvd (by decide) hdvd) (by omega)
  have hle := Nat.le_of_dvd (clamp_pos secret)
    (height.mul_dvd_of_dvd_of_dvd (eight_dvd_clamp secret) hdvd)
  have hclamp := clamp_lt secret
  omega

/-- The group X25519 computes in, and the reading and writing of u-coordinates. -/
class X25519Group where
  Point : Type
  group : AddCommGroup Point
  base : Point
  /-- A point with this u-coordinate; the top bit is ignored. -/
  decode : Key32 → Point
  /-- The u-coordinate of the point, zero for the neutral element. -/
  encode : Point → Key32
  order : ℕ
  twistOrder : ℕ

namespace X25519Group

instance [X25519Group] : AddCommGroup Point := group

/-- A point of odd order on the curve or on its twist. -/
def OddOrder [X25519Group] (P : Point) : Prop := order • P = 0 ∨ twistOrder • P = 0

/-- What X25519 is documented to compute. -/
class Lawful [Primitives] [X25519Group] : Prop where
  order_prime : order.Prime
  lt_order : 2 ^ 252 < order
  twistOrder_prime : twistOrder.Prime
  lt_twistOrder : 2 ^ 252 < twistOrder
  order_base : order • base = 0
  order_decode : ∀ pk, (8 * order) • decode pk = 0 ∨ (4 * twistOrder) • decode pk = 0
  /-- A point and its negative have one u-coordinate, and no other point of odd order has it. -/
  encode_neg : ∀ P, encode (-P) = encode P
  encode_inj : ∀ P Q, OddOrder P → OddOrder Q → encode P = encode Q → P = Q ∨ P = -Q
  encode_zero : encode 0 = ⟨List.replicate 32 0, rfl⟩
  /-- Of the points with the u-coordinate of a point on the curve either can be taken; zero is also the
  u-coordinate of a point of order two. -/
  decode_encode : ∀ P, order • P = 0 → P ≠ 0 → decode (encode P) = P ∨ decode (encode P) = -P
  decode_zero : 2 • decode (encode 0) = 0
  x25519Base_eq : ∀ secret, Primitives.x25519Base secret = encode (clamp secret • base)
  x25519_eq : ∀ secret pk, Primitives.x25519 secret pk = encode (clamp secret • decode pk)

section Laws

variable [Primitives] [X25519Group] [Lawful]

theorem order_both (pk : Key32) : (8 * (order * twistOrder)) • decode pk = 0 := by
  rcases Lawful.order_decode pk with hcurve | htwist
  · rw [← mul_assoc, mul_nsmul, hcurve, nsmul_zero]
  · have hfactor : 8 * (order * twistOrder) = (4 * twistOrder) * (2 * order) := by ring
    rw [hfactor, mul_nsmul, htwist, nsmul_zero]

theorem clamp_coprime_both (secret : Key32) : (clamp secret).Coprime (order * twistOrder) :=
  (clamp_coprime secret Lawful.order_prime Lawful.lt_order).mul_right
    (clamp_coprime secret Lawful.twistOrder_prime Lawful.lt_twistOrder)

/-- The secret multiple of a point is of odd order. -/
theorem oddOrder_clamp_nsmul (secret pk : Key32) : OddOrder (clamp secret • decode pk) := by
  obtain ⟨k, hk⟩ := eight_dvd_clamp secret
  refine (Lawful.order_decode pk).imp ?_ ?_
  · intro hcurve
    have hfactor : order * clamp secret = 8 * order * k := by rw [hk]; ring
    rw [← mul_nsmul', hfactor, mul_nsmul, hcurve, nsmul_zero]
  · intro htwist
    have hfactor : twistOrder * clamp secret = 4 * twistOrder * (2 * k) := by rw [hk]; ring
    rw [← mul_nsmul', hfactor, mul_nsmul, htwist, nsmul_zero]

/-- A public key of low order yields the all-zero secret, whatever the secret scalar. -/
theorem x25519_lowOrder {pk : Key32} (h : LowOrder 8 (decode pk)) (secret : Key32) :
    Primitives.x25519 secret pk = ⟨List.replicate 32 0, rfl⟩ := by
  rw [Lawful.x25519_eq, h.nsmul_eq_zero (eight_dvd_clamp secret), Lawful.encode_zero]

/-- The two public keys are what the other secrets make of one and the same point, up to sign and points
of low order. -/
def SharedBase (leftSecret rightSecret toLeft toRight : Key32) : Prop :=
  ∃ R, LowOrder 8 (decode toLeft - clamp rightSecret • R) ∧
    (LowOrder 8 (decode toRight - clamp leftSecret • R) ∨
      LowOrder 8 (decode toRight + clamp leftSecret • R))

/-- Two exchanges lead to one secret exactly if their public keys share a base. -/
theorem x25519_eq_x25519_iff (leftSecret rightSecret toLeft toRight : Key32) :
    Primitives.x25519 leftSecret toLeft = Primitives.x25519 rightSecret toRight ↔
      SharedBase leftSecret rightSecret toLeft toRight := by
  have hmeet (Q : Point) (hQ : (8 * (order * twistOrder)) • Q = 0) :=
    nsmul_eq_nsmul_iff (eight_dvd_clamp leftSecret) (eight_dvd_clamp rightSecret)
      (clamp_coprime_both rightSecret) (order_both toLeft) hQ
  have hequal := hmeet (decode toRight) (order_both toRight)
  have hopposite := hmeet (-decode toRight) (by rw [smul_neg, order_both, neg_zero])
  have hneg (R : Point) : LowOrder 8 (-decode toRight - clamp leftSecret • R) ↔
      LowOrder 8 (decode toRight + clamp leftSecret • R) := by
    rw [← neg_add', lowOrder_neg]
  rw [Lawful.x25519_eq, Lawful.x25519_eq]
  constructor
  · intro h
    rcases Lawful.encode_inj _ _ (oddOrder_clamp_nsmul _ _) (oddOrder_clamp_nsmul _ _) h with heq | heq
    · obtain ⟨R, hleft, hright⟩ := hequal.mp heq
      exact ⟨R, hleft, .inl hright⟩
    · rw [← smul_neg] at heq
      obtain ⟨R, hleft, hright⟩ := hopposite.mp heq
      exact ⟨R, hleft, .inr ((hneg R).mp hright)⟩
  · rintro ⟨R, hleft, hright | hright⟩
    · rw [hequal.mpr ⟨R, hleft, hright⟩]
    · rw [hopposite.mpr ⟨R, hleft, (hneg R).mpr hright⟩, smul_neg, Lawful.encode_neg]

/-- Reading back what has been written, up to sign and a point of low order. -/
theorem decode_encode_lowOrder {P : Point} (hP : order • P = 0) :
    LowOrder 8 (decode (encode P) - P) ∨ LowOrder 8 (decode (encode P) + P) := by
  by_cases hzero : P = 0
  · left
    have hlow : (2 * 4) • decode (encode (0 : Point)) = 0 := by
      rw [mul_nsmul, Lawful.decode_zero, nsmul_zero]
    rw [hzero, sub_zero]
    exact hlow
  · refine (Lawful.decode_encode P hP hzero).imp ?_ ?_
    · intro h
      rw [h, sub_self, LowOrder, nsmul_zero]
    · intro h
      rw [h, neg_add_cancel, LowOrder, nsmul_zero]

/-- Whatever factor both public keys are multiplied with, they share a base. -/
theorem sharedBase_multiples (leftSecret rightSecret : Key32) (factor : ℕ) :
    SharedBase leftSecret rightSecret (encode (factor • clamp rightSecret • base))
      (encode (factor • clamp leftSecret • base)) := by
  have horder (secret : Key32) : order • factor • clamp secret • (base : Point) = 0 := by
    rw [smul_comm order, smul_comm order, Lawful.order_base, nsmul_zero, nsmul_zero]
  have hbase (secret : Key32) : factor • clamp secret • (base : Point) =
      clamp secret • factor • base := smul_comm _ _ _
  have hleft := decode_encode_lowOrder (horder rightSecret)
  have hright := decode_encode_lowOrder (horder leftSecret)
  rw [hbase] at hleft hright ⊢
  rw [hbase]
  rcases hleft with hleft | hleft
  · exact ⟨factor • base, hleft, hright⟩
  · refine ⟨-(factor • base), ?_, ?_⟩
    · rwa [smul_neg, sub_neg_eq_add]
    · rw [smul_neg, sub_neg_eq_add, ← sub_eq_add_neg]
      exact hright.symm

/-- Both ends of an exchange that nobody interferes with compute the same secret. -/
theorem commutes : X25519Commutes where
  comm left right := by
    have hshared := sharedBase_multiples left right 1
    rw [one_nsmul, one_nsmul, ← Lawful.x25519Base_eq, ← Lawful.x25519Base_eq] at hshared
    exact (x25519_eq_x25519_iff left right _ _).mpr hshared

end Laws

end X25519Group

/-! ## The Montgomery ladder -/

namespace Curve25519

open Reference (fieldPrime basePoint)

def sub (left right : ℕ) : ℕ := (left + fieldPrime - right) % fieldPrime

/-- Two u-coordinates as fractions, of points that differ by the point that is multiplied. -/
structure Ladder where
  x₂ : ℕ
  z₂ : ℕ
  x₃ : ℕ
  z₃ : ℕ

def Ladder.swap (ladder : Ladder) : Ladder := ⟨ladder.x₃, ladder.z₃, ladder.x₂, ladder.z₂⟩

/-- The first point is doubled and added to the second. -/
def Ladder.step (u : ℕ) (ladder : Ladder) : Ladder :=
  let a := (ladder.x₂ + ladder.z₂) % fieldPrime
  let aa := a * a % fieldPrime
  let b := sub ladder.x₂ ladder.z₂
  let bb := b * b % fieldPrime
  let e := sub aa bb
  let da := sub ladder.x₃ ladder.z₃ * a % fieldPrime
  let cb := (ladder.x₃ + ladder.z₃) * b % fieldPrime
  { x₂ := aa * bb % fieldPrime
    z₂ := e * (aa + 121665 * e) % fieldPrime
    x₃ := (da + cb) * (da + cb) % fieldPrime
    z₃ := u * (sub da cb * sub da cb) % fieldPrime }

/-- The ladder over the low bits of the scalar, the highest of them first. -/
def ladder (u : ℕ) : ℕ → ℕ → Ladder
  | 0, _ => ⟨1, 0, u, 1⟩
  | bits + 1, scalar =>
    let before := ladder u bits (scalar / 2)
    if scalar % 2 = 1 then (before.swap.step u).swap else before.step u

def power (base : ℕ) : ℕ → ℕ → ℕ
  | 0, _ => 1
  | bits + 1, exponent =>
    let root := power base bits (exponent / 2)
    if exponent % 2 = 1 then root * root % fieldPrime * base % fieldPrime
    else root * root % fieldPrime

/-- X25519 itself; the inverse of zero is zero. -/
def x25519 (secret pk : Key32) : Key32 :=
  let result := ladder (leNat pk.toList % 2 ^ 255 % fieldPrime) 255 (clamp secret)
  ⟨leBytes 32 (result.x₂ * power result.z₂ 255 (fieldPrime - 2) % fieldPrime), length_leBytes _ _⟩

/-- The bytes of a key written as one number. -/
def keyOf (value : ℕ) : Key32 := ⟨beBytes 32 value, length_beBytes _ _⟩

-- The exchange of RFC 7748, as in the tests of the crate.
example :
    x25519 (keyOf 0x77076d0a7318a57d3c16c17251b26645df4c2f87ebc0992ab177fba51db92c2a)
        (keyOf 0xde9edb7d7b7dc1b4d35b61c2ece435373f8343c85b78674dadfc7e146f882b4f) =
      keyOf 0x4a5d9d5ba4ce2de1728e3bf480350f25e07e21c947d19e3376f09b3c1e161742 := by
  decide +kernel

/-- The hashes and the AEAD are those of the reference. -/
scoped instance primitives : Primitives :=
  { Reference.primitives with
    x25519Base := fun secret ↦ x25519 secret basePoint
    x25519 }

scoped instance ciborium : Ciborium := Reference.ciborium

scoped instance textCodecs : TextCodecs := Reference.textCodecs

end Curve25519

/-! ## The exchange over residues -/

/-! Multiplication of residues modulo a prime, each written like its negative, obeys the same laws. -/

namespace Residues

/-- `2 ^ 235 * 3 ^ 11 + 1`. -/
def modulus : ℕ :=
  9780989280759264026021637573878305822602852808744539736699005429386991108097

/-- A residue, or its negative if that is smaller. -/
def fold (value : ℕ) : Key32 :=
  ⟨leBytes 32 (min (value % modulus) (modulus - value % modulus)), length_leBytes _ _⟩

scoped instance primitives : Primitives :=
  { Reference.primitives with
    x25519Base := fun secret ↦ fold (clamp secret)
    x25519 := fun secret pk ↦ fold (clamp secret * leNat pk.toList) }

scoped instance ciborium : Ciborium := Reference.ciborium

scoped instance ciboriumLawful : Ciborium.Lawful := Reference.ciboriumLawful

scoped instance textCodecs : TextCodecs := Reference.textCodecs

theorem modulus_prime : modulus.Prime := by
  apply lucas_primality modulus 5
  · rw [modulus]
    reduce_mod_char
  · intro q hq hdvd
    have hdvd : q ∣ 2 ^ 235 * 3 ^ 11 := hdvd
    have hfactor : q = 2 ∨ q = 3 := by
      refine (hq.dvd_mul.mp hdvd).imp ?_ ?_
      · intro h
        exact (Nat.prime_dvd_prime_iff_eq hq Nat.prime_two).mp (hq.dvd_of_dvd_pow h)
      · intro h
        exact (Nat.prime_dvd_prime_iff_eq hq Nat.prime_three).mp (hq.dvd_of_dvd_pow h)
    rcases hfactor with rfl | rfl
    · rw [modulus]
      reduce_mod_char
      decide
    · rw [modulus]
      reduce_mod_char
      decide

instance : NeZero modulus := ⟨modulus_prime.ne_zero⟩

theorem leNat_fold (value : ℕ) :
    leNat (fold value).toList = min (value % modulus) (modulus - value % modulus) := by
  have hlt : value % modulus < modulus := Nat.mod_lt _ (NeZero.pos modulus)
  refine leNat_leBytes ((min_le_left _ _).trans_lt (hlt.trans ?_))
  decide

theorem fold_val (value : ℕ) : fold (value : ZMod modulus).val = fold value := by
  apply Octets.toList_inj.mp
  change leBytes 32 _ = leBytes 32 _
  rw [ZMod.val_natCast, Nat.mod_mod]

theorem leNat_fold_val (P : ZMod modulus) :
    leNat (fold P.val).toList = min P.val (modulus - P.val) := by
  rw [leNat_fold, Nat.mod_eq_of_lt P.val_lt]

/-- What is read back is the residue or its negative. -/
theorem decode_fold (P : ZMod modulus) : (leNat (fold P.val).toList : ZMod modulus) = P ∨
    (leNat (fold P.val).toList : ZMod modulus) = -P := by
  rw [leNat_fold_val]
  rcases min_choice P.val (modulus - P.val) with h | h
  · left
    rw [h, ZMod.natCast_zmod_val]
  · right
    rw [h, Nat.cast_sub P.val_lt.le, ZMod.natCast_self, ZMod.natCast_zmod_val, zero_sub]

theorem fold_val_neg (P : ZMod modulus) : fold (-P).val = fold P.val := by
  by_cases hzero : P = 0
  · rw [hzero, neg_zero]
  · have hne : NeZero P := ⟨hzero⟩
    have hlt := P.val_lt
    have hmin : leNat (fold (-P).val).toList = leNat (fold P.val).toList := by
      rw [leNat_fold_val, leNat_fold_val, ZMod.val_neg_of_ne_zero, min_comm, Nat.sub_sub_self hlt.le]
    apply Octets.toList_inj.mp
    rw [← leBytes_leNat (fold (-P).val).toList, ← leBytes_leNat (fold P.val).toList, hmin]
    simp only [List.Vector.toList_length]

theorem modulus_nsmul (P : ZMod modulus) : modulus • P = 0 := by
  rw [nsmul_eq_mul, ZMod.natCast_self, zero_mul]

scoped instance x25519Group : X25519Group where
  Point := ZMod modulus
  group := inferInstance
  base := (1 : ZMod modulus)
  decode pk := (leNat pk.toList : ZMod modulus)
  encode P := fold (ZMod.val P)
  order := modulus
  twistOrder := modulus

scoped instance lawful : X25519Group.Lawful where
  order_prime := modulus_prime
  lt_order := by decide
  twistOrder_prime := modulus_prime
  lt_twistOrder := by decide
  order_base := modulus_nsmul 1
  order_decode pk := by
    left
    change (8 * modulus) • (leNat pk.toList : ZMod modulus) = 0
    rw [mul_nsmul', modulus_nsmul, nsmul_zero]
  encode_neg P := fold_val_neg P
  encode_inj P Q _ _ h := by
    have hread (R : ZMod modulus) := decode_fold R
    change fold (ZMod.val P) = fold (ZMod.val Q) at h
    have hP := hread P
    rw [h] at hP
    rcases hP with hP | hP <;> rcases hread Q with hQ | hQ <;> rw [hQ] at hP
    · exact .inl hP.symm
    · exact .inr hP.symm
    · exact .inr (neg_eq_iff_eq_neg.mp hP.symm)
    · exact .inl (neg_injective hP.symm)
  encode_zero := by
    change fold (ZMod.val (0 : ZMod modulus)) = _
    rw [ZMod.val_zero]
    apply Octets.toList_inj.mp
    decide +kernel
  decode_encode P _ _ := decode_fold P
  decode_zero := by
    have hzero : leNat (fold (ZMod.val (0 : ZMod modulus))).toList = 0 := by
      rw [leNat_fold_val, ZMod.val_zero, Nat.zero_min]
    change 2 • (leNat (fold (ZMod.val (0 : ZMod modulus))).toList : ZMod modulus) = 0
    rw [hzero, Nat.cast_zero, nsmul_zero]
  x25519Base_eq secret := by
    change fold (clamp secret) = fold (ZMod.val (clamp secret • (1 : ZMod modulus)))
    rw [nsmul_one, fold_val]
  x25519_eq secret pk := by
    change fold (clamp secret * leNat pk.toList) =
      fold (ZMod.val (clamp secret • (leNat pk.toList : ZMod modulus)))
    rw [nsmul_eq_mul, ← Nat.cast_mul, fold_val]

end Residues

end AirClip
