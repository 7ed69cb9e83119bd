import AirClip.Core.Handshake

/-!
# What the static secret authenticates

HELLO, HELLO_ACK and PAIR_CONFIRM carry MACs under one key, and nothing in their messages says which
of the three they belong to.  They are told apart by their lengths alone: a HELLO covers 58 to 66
bytes but never 64, a HELLO_ACK 64 and a PAIR_CONFIRM 112.
-/

open Foundation Cbor

namespace AirClip

/-- The messages MACed under the static secret of two devices, by their fields. -/
inductive MacMessage where
  | hello (initiator : DeviceId) (ephPkI : Key32) (ts : UInt64)
  | helloAck (ephPkR ephPkI : Key32)
  | pairConfirm (ssEph pkIdPhone pkIdPc : Key32) (pairToken : Octets 16)

namespace MacMessage

section Basis

variable [Ciborium]

/-- The bytes a MAC covers. -/
def basis : MacMessage → Except Error Bytes
  | .hello initiator ephPkI ts => helloMacBasis initiator ephPkI ts
  | .helloAck ephPkR ephPkI => .ok (ackMacBasis ephPkR ephPkI)
  | .pairConfirm ssEph pkIdPhone pkIdPc pairToken =>
    .ok (sasInput ssEph pkIdPhone pkIdPc pairToken)

/-- The lengths of the bytes, by the kind of the message. -/
def lengths : MacMessage → List ℕ
  | .hello .. => [58, 59, 60, 62, 66]
  | .helloAck .. => [64]
  | .pairConfirm .. => [112]

variable [Ciborium.Lawful]

theorem length_mem_lengths {message : MacMessage} {bytes : Bytes}
    (h : message.basis = .ok bytes) : bytes.length ∈ message.lengths := by
  cases message with
  | hello initiator ephPkI ts =>
    rw [basis, Session.helloMacBasis_eq, Except.ok.injEq] at h
    rw [← h]
    exact Session.helloBasis_length_mem initiator ephPkI ts
  | helloAck ephPkR ephPkI =>
    cases h
    simp [lengths, ackMacBasis]
  | pairConfirm ssEph pkIdPhone pkIdPc pairToken =>
    cases h
    simp [lengths, sasInput_length]

theorem basis_isOk (message : MacMessage) : ∃ bytes, message.basis = .ok bytes := by
  cases message with
  | hello initiator ephPkI ts => exact ⟨_, Session.helloMacBasis_eq initiator ephPkI ts⟩
  | helloAck | pairConfirm => exact ⟨_, rfl⟩

/-- The bytes determine the kind of the message and all its fields. -/
theorem eq_of_basis {message message' : MacMessage} {bytes : Bytes}
    (h : message.basis = .ok bytes) (h' : message'.basis = .ok bytes) : message = message' := by
  have hlength := length_mem_lengths h
  have hlength' := length_mem_lengths h'
  cases message <;> cases message' <;>
    simp only [lengths, List.mem_cons, List.not_mem_nil, or_false] at hlength hlength'
  case hello.hello initiator ephPkI ts initiator' ephPkI' ts' =>
    rw [basis, Session.helloMacBasis_eq, Except.ok.injEq] at h h'
    obtain ⟨rfl, rfl, rfl⟩ := Session.helloBasis_inj (h.trans h'.symm)
    rfl
  case helloAck.helloAck ephPkR ephPkI ephPkR' ephPkI' =>
    have hbytes := Except.ok.inj (h.trans h'.symm)
    obtain ⟨hR, hI⟩ := List.append_inj hbytes (by simp)
    rw [Octets.toList_inj.mp hR, Octets.toList_inj.mp hI]
  case pairConfirm.pairConfirm ssEph pkIdPhone pkIdPc token ssEph' pkIdPhone' pkIdPc' token' =>
    obtain ⟨rfl, rfl, rfl, rfl⟩ := sasInput_inj (Except.ok.inj (h.trans h'.symm))
    rfl
  all_goals omega

/-- The three uses of the static secret never collide: no two messages cover the same bytes, be they
of one kind or of two; and where the MAC tells apart the messages it is used on, a tag produced for
one verifies for no other. -/
theorem mac_uses_never_collide [Primitives] :
    (∀ message message' : MacMessage, message ≠ message' → message.basis ≠ message'.basis) ∧
    ∀ (key : Key32) (messages : Set Bytes), Set.InjOn (keyedMac key) messages →
      ∀ (message message' : MacMessage) (bytes bytes' : Bytes), message ≠ message' →
        message.basis = .ok bytes → message'.basis = .ok bytes' → bytes ∈ messages →
          bytes' ∈ messages → verifyMac key bytes' (keyedMac key bytes).toList = false := by
  refine ⟨fun message message' hne h ↦ ?_,
    fun key messages hinj message message' bytes bytes' hne hbasis hbasis' hmem hmem' ↦ ?_⟩
  · obtain ⟨bytes, hbytes⟩ := message.basis_isOk
    exact hne (eq_of_basis hbytes (h ▸ hbytes))
  · rw [verifyMac_toList, decide_eq_false_iff_not]
    intro hverify
    obtain rfl := hinj hmem' hmem hverify
    exact hne (eq_of_basis hbasis hbasis')

end Basis

end MacMessage

open Reference in
/-- The tag of a HELLO does not verify as one of a PAIR_CONFIRM. -/
theorem mac_uses_never_collide_hello_confirm :
    let key := phoneIdentity.dh pcIdentity.publicBytes
    let hello := Session.helloBasis phoneIdentity.deviceId (pad 32 [17]) 1000
    let confirm := sasInput (pad 32 [1]) phoneIdentity.publicBytes pcIdentity.publicBytes (pad 16 [2])
    verifyMac key confirm (keyedMac key hello).toList = false := by
  intro key hello confirm
  have hmac : keyedMac key hello ≠ keyedMac key confirm := by decide +kernel
  have hinj : Set.InjOn (keyedMac key) {hello, confirm} := by
    rintro left (rfl | rfl) right (rfl | rfl) hsame
    · rfl
    · exact absurd hsame hmac
    · exact absurd hsame.symm hmac
    · rfl
  exact MacMessage.mac_uses_never_collide.2 key {hello, confirm} hinj
    (.hello phoneIdentity.deviceId (pad 32 [17]) 1000)
    (.pairConfirm (pad 32 [1]) phoneIdentity.publicBytes pcIdentity.publicBytes (pad 16 [2]))
    hello confirm (by simp) (Session.helloMacBasis_eq ..) rfl (.inl rfl) (.inr rfl)

end AirClip
