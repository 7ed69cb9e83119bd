import Mathlib.Data.List.Sublists
import Mathlib.Data.Vector.Basic
import Mathlib.Tactic

/-!
# Byte strings

Byte strings are lists of octets and fixed-width byte arrays are vectors, so an array of the
wrong width cannot be built.  Integers travel in little- or big-endian order; both readings
invert the corresponding writing below the width's bound, and reading is injective on byte
strings of equal length.
-/

namespace Foundation

abbrev Bytes := List UInt8

/-- A byte array of a width known to the type. -/
abbrev Octets (n : ℕ) := List.Vector UInt8 n

namespace Octets

/-- Narrow a byte string to an array of exactly `n` bytes. -/
def ofBytes? (n : ℕ) (bytes : Bytes) : Option (Octets n) :=
  if h : bytes.length = n then some ⟨bytes, h⟩ else none

@[simp]
theorem ofBytes?_toList {n : ℕ} (array : Octets n) : ofBytes? n array.toList = some array := by
  simp only [ofBytes?, List.Vector.toList_length, dif_pos]
  rfl

theorem ofBytes?_eq_some {n : ℕ} {bytes : Bytes} {array : Octets n} :
    ofBytes? n bytes = some array ↔ bytes = array.toList := by
  constructor
  · intro h
    unfold ofBytes? at h
    split at h
    · cases h
      rfl
    · cases h
  · rintro rfl
    exact ofBytes?_toList array

/-- The first `n` bytes of a longer array. -/
def truncate {m : ℕ} (n : ℕ) (h : n ≤ m) (array : Octets m) : Octets n :=
  ⟨array.toList.take n, by simp [h]⟩

theorem toList_inj {n : ℕ} {left right : Octets n} :
    left.toList = right.toList ↔ left = right :=
  List.Vector.toList_injective.eq_iff

end Octets

/-! ## Integers in byte order -/

/-- The `width` low bytes of `value`, least significant first. -/
def leBytes : ℕ → ℕ → Bytes
  | 0, _ => []
  | width + 1, value => UInt8.ofNat value :: leBytes width (value / 256)

/-- The integer a byte string denotes, least significant byte first. -/
def leNat : Bytes → ℕ
  | [] => 0
  | byte :: rest => byte.toNat + 256 * leNat rest

def beBytes (width value : ℕ) : Bytes := (leBytes width value).reverse

def beNat (bytes : Bytes) : ℕ := leNat bytes.reverse

@[simp]
theorem length_leBytes (width value : ℕ) : (leBytes width value).length = width := by
  induction width generalizing value with
  | zero => rfl
  | succ width ih => simp [leBytes, ih]

@[simp]
theorem length_beBytes (width value : ℕ) : (beBytes width value).length = width := by
  simp [beBytes]

theorem leNat_leBytes {width value : ℕ} (h : value < 256 ^ width) :
    leNat (leBytes width value) = value := by
  induction width generalizing value with
  | zero =>
    simp only [pow_zero, Nat.lt_one_iff] at h
    simp [leBytes, leNat, h]
  | succ width ih =>
    have hquot : value / 256 < 256 ^ width := by
      rw [pow_succ] at h
      omega
    simp only [leBytes, leNat, ih hquot, UInt8.toNat_ofNat']
    omega

theorem leNat_lt (bytes : Bytes) : leNat bytes < 256 ^ bytes.length := by
  induction bytes with
  | nil => simp [leNat]
  | cons byte rest ih =>
    have hbyte := byte.toNat_lt
    simp only [leNat, List.length_cons, pow_succ]
    omega

theorem leBytes_leNat (bytes : Bytes) : leBytes bytes.length (leNat bytes) = bytes := by
  induction bytes with
  | nil => rfl
  | cons byte rest ih =>
    have hbyte := byte.toNat_lt
    have hquot : (byte.toNat + 256 * leNat rest) / 256 = leNat rest := by omega
    have hrem : UInt8.ofNat (byte.toNat + 256 * leNat rest) = byte := by
      apply UInt8.toNat_inj.mp
      rw [UInt8.toNat_ofNat']
      omega
    simp only [List.length_cons, leNat, leBytes, hquot, hrem, ih]

theorem beNat_beBytes {width value : ℕ} (h : value < 256 ^ width) :
    beNat (beBytes width value) = value := by
  rw [beNat, beBytes, List.reverse_reverse, leNat_leBytes h]

/-- The wire form of an unsigned 64-bit integer. -/
def le64 (value : UInt64) : Bytes := leBytes 8 value.toNat

def ofLe64 (bytes : Bytes) : UInt64 := UInt64.ofNat (leNat bytes)

@[simp]
theorem length_le64 (value : UInt64) : (le64 value).length = 8 := length_leBytes _ _

@[simp]
theorem ofLe64_le64 (value : UInt64) : ofLe64 (le64 value) = value := by
  rw [ofLe64, le64, leNat_leBytes (by simpa using value.toNat_lt)]
  simp

theorem le64_ofLe64 {bytes : Bytes} (h : bytes.length = 8) : le64 (ofLe64 bytes) = bytes := by
  have hlt : leNat bytes < 2 ^ 64 := by
    have hbound := leNat_lt bytes
    rw [h] at hbound
    exact hbound
  rw [le64, ofLe64, UInt64.toNat_ofNat_of_lt' hlt, ← h, leBytes_leNat]

theorem le64_injective : Function.Injective le64 := fun left right h ↦ by
  rw [← ofLe64_le64 left, h, ofLe64_le64]

end Foundation
