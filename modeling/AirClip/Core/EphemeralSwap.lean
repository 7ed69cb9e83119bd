import AirClip.Core.HonestPairing
import AirClip.Core.X25519

/-!
# Swapped ephemerals

A man in the middle delivers values of its own in place of the two ephemerals of a pairing.  The inputs
of the emoji on the two sides differ in nothing but the shared secret, so they are equal exactly if the
two values are what the secret scalars make of one common point.
-/

open Foundation Cbor

namespace AirClip

section Swap

variable [Primitives] [Ciborium] [TextCodecs]

namespace HonestDevices

/-- The inputs of the emoji on the computer and on the phone, where `toPc` is delivered to the computer
in place of the ephemeral of the phone and `toPhone` to the phone in place of that of the computer. -/
def swappedInputs (devices : HonestDevices) (reqMs : UInt64) (toPc toPhone : Key32) :
    Option Bytes × Option Bytes :=
  let pc := PcPairing.withToken devices.pc devices.pcName devices.hosts devices.token devices.issuedMs
  match PhonePairing.start devices.phone devices.phoneName pc.qrPayload (some devices.phoneSeed) with
  | .error _ => (none, none)
  | .ok (phone, _) =>
    let req := pairReqFrame devices.phone devices.phoneName devices.token toPc
    let ack : Frame := ⟨.pairAck, encode (integerMap (singleEntries toPhone))⟩
    ((pc.onFrame req reqMs (some devices.pcSeed)).1.sasInput, (phone.onFrame ack).1.sasInput)

/-- Both sides compute an input, and the inputs differ. -/
def SwapShows (devices : HonestDevices) (reqMs : UInt64) (toPc toPhone : Key32) : Prop :=
  ∃ pcInput phoneInput, devices.swappedInputs reqMs toPc toPhone = (some pcInput, some phoneInput) ∧
    pcInput ≠ phoneInput

variable [Ciborium.Lawful]

/-- The inputs are those of two exchanges, each with the value that was delivered. -/
theorem swappedInputs_eq (devices : HonestDevices) {reqMs : UInt64}
    (hfresh : reqMs.toNat ≤ devices.issuedMs.toNat + 600000) (toPc toPhone : Key32) :
    devices.swappedInputs reqMs toPc toPhone =
      (some (sasInput (Primitives.x25519 devices.pcSeed toPc) devices.phone.publicBytes
          devices.pc.publicBytes devices.token),
        some (sasInput (Primitives.x25519 devices.phoneSeed toPhone) devices.phone.publicBytes
          devices.pc.publicBytes devices.token)) := by
  obtain ⟨r, hacceptable, -⟩ := PcPairing.withToken_acceptable devices.pc devices.phone
    devices.pcName devices.hosts devices.token devices.phoneName_lt toPc hfresh
  have hanswer := PcPairing.onFrame_acceptable hacceptable
    (rfl : Keypair.generate (some devices.pcSeed) = .ok (.fromSeed devices.pcSeed))
    (single_toVec (Keypair.fromSeed devices.pcSeed).publicBytes)
  obtain ⟨r', hslice, hread⟩ := fromSlice_single toPhone
  unfold swappedInputs
  simp only [PhonePairing.start_eq devices.phone devices.phoneName_lt _ devices.phoneSeed, hanswer]
  refine Prod.ext rfl ?_
  exact congrArg (fun outcome : PhonePairing × List PairingAction ↦ outcome.1.sasInput)
    (PhonePairing.onAck_eq_ok hslice hread)

/-- The inputs differ exactly if the two shared secrets do. -/
theorem swapShows_iff_ne (devices : HonestDevices) {reqMs : UInt64}
    (hfresh : reqMs.toNat ≤ devices.issuedMs.toNat + 600000) (toPc toPhone : Key32) :
    devices.SwapShows reqMs toPc toPhone ↔
      Primitives.x25519 devices.pcSeed toPc ≠ Primitives.x25519 devices.phoneSeed toPhone := by
  unfold SwapShows
  rw [devices.swappedInputs_eq hfresh]
  constructor
  · rintro ⟨_, _, hinputs, hne⟩ hsecret
    cases hinputs
    exact hne (by rw [hsecret])
  · intro hne
    refine ⟨_, _, rfl, ?_⟩
    intro hinput
    exact hne (sasInput_inj hinput).1

/-- Swapped ephemerals show exactly if the delivered values are not what the two secret scalars make of
one common point. -/
theorem swapped_ephemerals_show_iff [X25519Group] [X25519Group.Lawful] (devices : HonestDevices)
    {reqMs : UInt64} (hfresh : reqMs.toNat ≤ devices.issuedMs.toNat + 600000) (toPc toPhone : Key32) :
    devices.SwapShows reqMs toPc toPhone ↔
      ¬ X25519Group.SharedBase devices.pcSeed devices.phoneSeed toPc toPhone := by
  rw [devices.swapShows_iff_ne hfresh, ne_eq, X25519Group.x25519_eq_x25519_iff]

end HonestDevices

end Swap

namespace Residues

/-- Two devices that multiply residues. -/
def devices : HonestDevices where
  phone := .fromSeed (Reference.pad 32 [3])
  pc := .fromSeed (Reference.pad 32 [5])
  phoneName := "iPhone"
  phoneName_lt := by decide
  pcName := "PC"
  hosts := ["192.168.4.20:49517"]
  token := Reference.pad 16 [0x5A]
  issuedMs := 1000
  phoneSeed := Reference.pad 32 [17]
  pcSeed := Reference.pad 32 [19]

/-- The ephemeral of a man in the middle. -/
def mitm : EphemeralKeypair := .fromSeed (Reference.pad 32 [0x99])

end Residues

open Residues in
/-- An ephemeral of the man in the middle shows when it is delivered to the phone alone. -/
theorem swapped_ephemerals_show_residues :
    devices.SwapShows 2000 (Keypair.fromSeed devices.phoneSeed).publicBytes mitm.publicBytes ∧
      ¬ X25519Group.SharedBase devices.pcSeed devices.phoneSeed
        (Keypair.fromSeed devices.phoneSeed).publicBytes mitm.publicBytes := by
  have hshows : devices.SwapShows 2000 (Keypair.fromSeed devices.phoneSeed).publicBytes
      mitm.publicBytes := by
    rw [HonestDevices.swapShows_iff_ne devices (by decide)]
    decide +kernel
  exact ⟨hshows, (HonestDevices.swapped_ephemerals_show_iff devices (by decide) _ _).mp hshows⟩

namespace Curve25519

/-- The devices of the tests of the crate. -/
def devices : HonestDevices where
  phone := .fromSeed ⟨List.replicate 32 0xF0, rfl⟩
  pc := .fromSeed ⟨List.replicate 32 0xC1, rfl⟩
  phoneName := "iPhone"
  phoneName_lt := by decide
  pcName := "PC"
  hosts := ["192.168.4.20:49517", "[fe80::1]:49517"]
  token := ⟨List.replicate 16 0x5A, rfl⟩
  issuedMs := 1700000000000
  phoneSeed := ⟨List.replicate 32 0xE1, rfl⟩
  pcSeed := ⟨List.replicate 32 0xE2, rfl⟩

/-- The u-coordinate of a point of order two. -/
def allZero : Key32 := ⟨List.replicate 32 0, rfl⟩

end Curve25519

open Curve25519 in
/-- With the all-zero key in place of both ephemerals both sides compute the same input. -/
theorem all_zero_ephemerals_unnoticed :
    allZero ≠ (Keypair.fromSeed devices.phoneSeed).publicBytes ∧
      allZero ≠ (Keypair.fromSeed devices.pcSeed).publicBytes ∧
      (∃ input, devices.swappedInputs 1700000000000 allZero allZero = (some input, some input)) ∧
      ¬ devices.SwapShows 1700000000000 allZero allZero := by
  have hinputs : devices.swappedInputs 1700000000000 allZero allZero =
      (some (sasInput allZero devices.phone.publicBytes devices.pc.publicBytes devices.token),
        some (sasInput allZero devices.phone.publicBytes devices.pc.publicBytes devices.token)) := by
    decide +kernel
  refine ⟨by decide +kernel, by decide +kernel, ⟨_, hinputs⟩, ?_⟩
  rintro ⟨pcInput, phoneInput, hother, hne⟩
  cases hinputs.symm.trans hother
  exact hne rfl

end AirClip
