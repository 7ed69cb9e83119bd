import AirClip.Core.HonestPairing

/-!
# An honest pairing, frame by frame

The machines of an honest pairing with whatever the two sides draw and read off their clocks: each frame
makes the other machine take the next step, and either side completes with the record of the other.
-/

open Foundation Cbor

namespace AirClip

section Exchange

variable [Primitives] [Ciborium] [TextCodecs]

/-- The computer has answered the request of a phone, and either accepts what the other sends next. -/
structure PairingAnswer (phone pc : IdentityKeypair) (phoneName pcName : String) (fsm : PhonePairing)
    (machine : PcPairing) (ack : Frame) (sas : List.Vector String 4) : Prop where
  ty : ack.ty = .pairAck
  shown : ∃ fsm', fsm.onFrame ack = (fsm', [.showSas sas]) ∧ ∀ confirmMs, ∃ confirm,
    (fsm'.confirmSas confirmMs).2 = [.send confirm, .completed
      (.new pc.deviceId pc.publicBytes pcName confirmMs)] ∧ ∀ nowMs seed,
        (machine.onFrame confirm nowMs seed).2 =
          [.completed (.new phone.deviceId phone.publicBytes phoneName nowMs)]

variable [X25519Commutes] [Ciborium.Lawful]

omit [X25519Commutes] in
/-- The code that is shown reads back, and the phone starts with it. -/
theorem PhonePairing.starts [TextCodecs.Lawful] (pc phone : IdentityKeypair) (pcName : String)
    {phoneName : String} (hname : (utf8 phoneName).length < 2 ^ 64) {hosts : List String}
    (hhosts : ∀ host ∈ hosts, host ≠ "" ∧ ',' ∉ host.toList) (token : Octets 16) (issuedMs : UInt64)
    (phoneSeed : Key32) :
    let qr := (PcPairing.withToken pc pcName hosts token issuedMs).qrPayload
    QrPayload.parse qr.toUrl = .ok qr ∧
      PhonePairing.start phone phoneName qr (some phoneSeed) =
        .ok (⟨phone, phoneName, qr, .fromSeed phoneSeed, .awaitingAck, none⟩,
          pairReqFrame phone phoneName token (Keypair.fromSeed phoneSeed).publicBytes) :=
  ⟨QrPayload.parse_toUrl rfl rfl hhosts, PhonePairing.start_eq phone hname _ phoneSeed⟩

/-- The request is answered while the token lives, whatever the computer draws. -/
theorem PcPairing.answers (pc phone : IdentityKeypair) (pcName : String) {phoneName : String}
    (hname : (utf8 phoneName).length < 2 ^ 64) (hosts : List String) (token : Octets 16)
    {issuedMs reqMs : UInt64} (hfresh : reqMs.toNat ≤ issuedMs.toNat + 600000)
    (phoneSeed pcSeed : Key32) :
    let machine := PcPairing.withToken pc pcName hosts token issuedMs
    ∃ machine' ack sas,
      machine.onFrame (pairReqFrame phone phoneName token (Keypair.fromSeed phoneSeed).publicBytes)
        reqMs (some pcSeed) = (machine', [.send ack, .showSas sas]) ∧
      PairingAnswer phone pc phoneName pcName
        ⟨phone, phoneName, machine.qrPayload, .fromSeed phoneSeed, .awaitingAck, none⟩ machine' ack
        sas := by
  intro machine
  let phoneEph : EphemeralKeypair := .fromSeed phoneSeed
  let pcEph : EphemeralKeypair := .fromSeed pcSeed
  let fsm : PhonePairing := ⟨phone, phoneName, machine.qrPayload, phoneEph, .awaitingAck, none⟩
  let req : PcPairing.ReqFields := ⟨token, phone.deviceId.bytes, phone.publicBytes, phoneEph.publicBytes⟩
  let input := AirClip.sasInput (phoneEph.dh pcEph.publicBytes) phone.publicBytes pc.publicBytes token
  let mac := keyedMac (phone.dh pc.publicBytes) input
  obtain ⟨r, hacceptable, hpeerName⟩ := PcPairing.withToken_acceptable pc phone pcName hosts token hname
    phoneEph.publicBytes hfresh
  have hanswer := PcPairing.onFrame_acceptable hacceptable
    (rfl : Keypair.generate (some pcSeed) = .ok pcEph) (single_toVec pcEph.publicBytes)
  have hinput : PcPairing.inputFor machine req pcEph = input := by
    rw [PcPairing.inputFor, Keypair.dh_comm pcEph phoneEph]
    rfl
  have hshown : fsm.onFrame ⟨.pairAck, encode (integerMap (singleEntries pcEph.publicBytes))⟩ =
      (fsm.acknowledged pcEph.publicBytes, [.showSas (sasEmoji (sasDigest input))]) := by
    obtain ⟨r', hslice, hread⟩ := fromSlice_single pcEph.publicBytes
    exact PhonePairing.onAck_eq_ok hslice hread
  have hsas : sasEmoji (sasDigest (PcPairing.inputFor machine req pcEph)) =
      sasEmoji (sasDigest input) := congrArg (fun basis ↦ sasEmoji (sasDigest basis)) hinput
  refine ⟨machine.answered r req pcEph, _, _, hanswer, rfl, _, hsas.symm ▸ hshown, fun confirmMs ↦
    ⟨⟨.pairConfirm, encode (integerMap (singleEntries mac))⟩, ?_, fun nowMs seed ↦ ?_⟩⟩
  · exact congrArg Prod.snd
      ((fsm.acknowledged pcEph.publicBytes).confirmSas_eq confirmMs rfl rfl (single_toVec mac))
  · obtain ⟨r', hslice, hread⟩ := fromSlice_single mac
    have hverify : keyedMac (pc.dh phone.publicBytes) input = mac := by
      rw [Keypair.dh_comm pc phone]
    have hconfirmed : (machine.answered r req pcEph).Confirmed
        ⟨.pairConfirm, encode (integerMap (singleEntries mac))⟩ _ input :=
      ⟨rfl, rfl, rfl, congrArg some hinput, r', mac, hslice, hread, hverify⟩
    rw [PcPairing.onFrame_confirmed hconfirmed nowMs seed, hpeerName]

end Exchange

end AirClip
