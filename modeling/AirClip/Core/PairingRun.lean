import AirClip.Core.Pairing

/-!
# Runs of the pairing machines

What one frame or one tap of the user can do to a pairing machine is said once, as an inductive
description of the results.  From it follow the facts that hold in every run of a machine: what its
SAS input was computed from, which emoji it has shown for it, and that a machine answers at most one
request.
-/

open Foundation Cbor

namespace AirClip

variable [Primitives] [Ciborium]

/-! ## Computer role -/

namespace PcPairing

/-- The name a PAIR_REQ gives the phone. -/
def peerNameOf (r : MapReader) : String := (r.text PairingKey.displayName).toOption.getD "iPhone"

/-- A PAIR_REQ the machine answers unless the random source or the codec fails. -/
structure Acceptable (pairing : PcPairing) (frame : Frame) (nowMs : UInt64) (r : MapReader)
    (req : ReqFields) : Prop where
  state : pairing.state = .awaitingReq
  ty : frame.ty = .pairReq
  slice : MapReader.fromSlice frame.payload = .ok r
  fields : ReqFields.read r = some req
  token : req.token = pairing.token
  unused : pairing.tokenUsed = false
  fresh : saturatingSub nowMs pairing.issuedMs ≤ pairing.ttlMs
  deviceId : deviceIdFromPk req.peerPk = ⟨req.peerId⟩

/-- The SAS input of an answer. -/
def inputFor (pairing : PcPairing) (req : ReqFields) (eph : EphemeralKeypair) : Bytes :=
  AirClip.sasInput (eph.dh req.ephPkI) req.peerPk pairing.identity.publicBytes pairing.token

/-- The machine behind an answer. -/
def answered (pairing : PcPairing) (r : MapReader) (req : ReqFields) (eph : EphemeralKeypair) :
    PcPairing :=
  { pairing with
    tokenUsed := true
    eph := some eph
    peer := some ⟨⟨req.peerId⟩, req.peerPk, peerNameOf r⟩
    sasInput := some (pairing.inputFor req eph)
    state := .awaitingConfirm }

def ackMap (eph : EphemeralKeypair) : MapBuilder :=
  MapBuilder.new.bytes PairingKey.ackEphPk eph.publicBytes.toList

/-- PAIR_ACK, then the emoji. -/
def answer (pairing : PcPairing) (req : ReqFields) (eph : EphemeralKeypair) (ack : Bytes) :
    List PairingAction :=
  [.send ⟨.pairAck, ack⟩, .showSas (sasEmoji (sasDigest (pairing.inputFor req eph)))]

/-- A PAIR_CONFIRM whose MAC verifies. -/
structure Confirmed (pairing : PcPairing) (frame : Frame) (peer : PeerHandshake)
    (input : Bytes) : Prop where
  state : pairing.state = .awaitingConfirm
  ty : frame.ty = .pairConfirm
  peer_eq : pairing.peer = some peer
  sasInput_eq : pairing.sasInput = some input
  fields : ∃ r mac, MapReader.fromSlice frame.payload = .ok r ∧
    r.byteArray 32 PairingKey.confirmMac = .ok mac ∧
    keyedMac (pairing.identity.dh peer.pk) input = mac

variable [TextCodecs]

/-- What one frame can do. -/
inductive Reception (pairing : PcPairing) (frame : Frame) (nowMs : UInt64) (seed : Option Key32) :
    PcPairing × List PairingAction → Prop
  | refused (tokenUsed : Bool) (msg : String) :
      Reception pairing frame nowMs seed ({ pairing with tokenUsed, state := .failed }, [.failed msg])
  | answered {r : MapReader} {req : ReqFields} {eph : EphemeralKeypair} {ack : Bytes}
      (hacceptable : pairing.Acceptable frame nowMs r req) (heph : Keypair.generate seed = .ok eph)
      (hack : (ackMap eph).toVec = .ok ack) :
      Reception pairing frame nowMs seed (pairing.answered r req eph, pairing.answer req eph ack)
  | confirmed {peer : PeerHandshake} {input : Bytes}
      (hconfirmed : pairing.Confirmed frame peer input) :
      Reception pairing frame nowMs seed ({ pairing with state := .done },
        [.completed (.new peer.deviceId peer.pk peer.displayName nowMs)])

omit [Ciborium] [TextCodecs] in
theorem tokenValid_eq_none {pairing : PcPairing} {presented : Octets 16}
    {nowMs : UInt64} : pairing.tokenValid presented nowMs = none ↔
      presented = pairing.token ∧ pairing.tokenUsed = false ∧
        saturatingSub nowMs pairing.issuedMs ≤ pairing.ttlMs := by
  unfold tokenValid
  split_ifs with htoken hused hexpired
  · simp [htoken]
  · simp [hused]
  · simp [UInt64.not_le.mpr hexpired]
  · simp_all

theorem onPairReq_cases {pairing : PcPairing} {frame : Frame} (nowMs : UInt64)
    (seed : Option Key32) (hstate : pairing.state = .awaitingReq) (hty : frame.ty = .pairReq) :
    Reception pairing frame nowMs seed (pairing.onPairReq frame nowMs seed) := by
  unfold onPairReq
  split
  · exact .refused pairing.tokenUsed _
  next r hslice =>
  split
  · exact .refused pairing.tokenUsed _
  next req hfields =>
  dsimp only
  split
  · exact .refused pairing.tokenUsed _
  next hvalid =>
  obtain ⟨htoken, hunused, hfresh⟩ := tokenValid_eq_none.mp hvalid
  split_ifs with hid
  · exact .refused pairing.tokenUsed _
  split
  · exact .refused true _
  next eph heph =>
  split
  · exact .refused true _
  next ack hack =>
  exact .answered ⟨hstate, hty, hslice, hfields, htoken, hunused, hfresh, not_not.mp hid⟩ heph hack

theorem onConfirm_cases {pairing : PcPairing} {frame : Frame} (nowMs : UInt64)
    (seed : Option Key32) (hstate : pairing.state = .awaitingConfirm)
    (hty : frame.ty = .pairConfirm) :
    Reception pairing frame nowMs seed (pairing.onConfirm frame nowMs) := by
  unfold onConfirm
  split
  · exact .refused pairing.tokenUsed _
  next r hslice =>
  split
  · exact .refused pairing.tokenUsed _
  next mac hmac =>
  split
  · next peer input hpeer hinput =>
    dsimp only
    split_ifs with hverify
    · exact .refused pairing.tokenUsed _
    · refine .confirmed ⟨hstate, hty, hpeer, hinput, r, mac, hslice, hmac, ?_⟩
      simpa using hverify
  · exact .refused pairing.tokenUsed _

/-- A frame is refused, answered, or completes the pairing. -/
theorem onFrame_cases (pairing : PcPairing) (frame : Frame) (nowMs : UInt64)
    (seed : Option Key32) : Reception pairing frame nowMs seed (pairing.onFrame frame nowMs seed) := by
  unfold onFrame
  split
  · next hstate hty => exact onPairReq_cases nowMs seed hstate hty
  · next hstate hty => exact onConfirm_cases nowMs seed hstate hty
  · exact .refused pairing.tokenUsed _

/-- An acceptable request is answered. -/
theorem onFrame_acceptable {pairing : PcPairing} {frame : Frame} {nowMs : UInt64} {r : MapReader}
    {req : ReqFields} {seed : Option Key32} {eph : EphemeralKeypair} {ack : Bytes}
    (h : pairing.Acceptable frame nowMs r req) (heph : Keypair.generate seed = .ok eph)
    (hack : (ackMap eph).toVec = .ok ack) :
    pairing.onFrame frame nowMs seed = (pairing.answered r req eph, pairing.answer req eph ack) := by
  have hvalid := tokenValid_eq_none.mpr ⟨h.token, h.unused, h.fresh⟩
  have hack' : (MapBuilder.new.bytes PairingKey.ackEphPk eph.publicBytes.toList).toVec = .ok ack :=
    hack
  unfold onFrame
  simp only [h.state, h.ty]
  unfold onPairReq
  simp only [h.slice, h.fields, hvalid, h.deviceId, ne_eq, not_true_eq_false, if_false, heph, hack']
  rfl

/-- A confirmation that verifies completes the pairing. -/
theorem onFrame_confirmed {pairing : PcPairing} {frame : Frame} {peer : PeerHandshake}
    {input : Bytes} (h : pairing.Confirmed frame peer input) (nowMs : UInt64)
    (seed : Option Key32) : pairing.onFrame frame nowMs seed = ({ pairing with state := .done },
      [.completed (.new peer.deviceId peer.pk peer.displayName nowMs)]) := by
  obtain ⟨r, mac, hslice, hmac, hverify⟩ := h.fields
  unfold onFrame
  simp only [h.state, h.ty]
  unfold onConfirm
  simp [hslice, hmac, h.peer_eq, h.sasInput_eq, hverify]

/-- What a machine remembers of the request it has answered. -/
structure Coherent (pairing : PcPairing) : Prop where
  /-- No machine returns to the state it starts in. -/
  fresh : pairing.state = .awaitingReq →
    pairing.peer = none ∧ pairing.sasInput = none ∧ pairing.tokenUsed = false
  basis : ∀ {input}, pairing.sasInput = some input → ∃ peer eph ephPkI, pairing.peer = some peer ∧
    pairing.eph = some eph ∧ deviceIdFromPk peer.pk = peer.deviceId ∧
    input = AirClip.sasInput (eph.dh ephPkI) peer.pk pairing.identity.publicBytes pairing.token

omit [Ciborium] [TextCodecs] in
theorem withToken_coherent (identity : IdentityKeypair) (displayName : String)
    (hosts : List String) (token : Octets 16) (nowMs : UInt64) :
    (withToken identity displayName hosts token nowMs).Coherent :=
  ⟨fun _ ↦ ⟨rfl, rfl, rfl⟩, fun h ↦ nomatch h⟩

theorem Coherent.onFrame {pairing : PcPairing} (h : pairing.Coherent) (frame : Frame)
    (nowMs : UInt64) (seed : Option Key32) : (pairing.onFrame frame nowMs seed).1.Coherent := by
  have hcases := pairing.onFrame_cases frame nowMs seed
  generalize pairing.onFrame frame nowMs seed = result at hcases
  cases hcases with
  | refused | confirmed => exact ⟨fun hstate ↦ (nomatch hstate), h.basis⟩
  | @answered r req eph _ hacceptable =>
    refine ⟨fun hstate ↦ (nomatch hstate), fun hinput ↦ ?_⟩
    cases hinput
    exact ⟨_, eph, req.ephPkI, rfl, rfl, hacceptable.deviceId, rfl⟩

/-- After its first frame no machine waits for a request. -/
theorem onFrame_state (pairing : PcPairing) (frame : Frame) (nowMs : UInt64)
    (seed : Option Key32) : (pairing.onFrame frame nowMs seed).1.state ≠ .awaitingReq := by
  have hcases := pairing.onFrame_cases frame nowMs seed
  generalize pairing.onFrame frame nowMs seed = result at hcases
  cases hcases <;> exact fun h ↦ nomatch h

/-- Identity and token of a machine never change. -/
theorem onFrame_identity (pairing : PcPairing) (frame : Frame) (nowMs : UInt64)
    (seed : Option Key32) : (pairing.onFrame frame nowMs seed).1.identity = pairing.identity ∧
      (pairing.onFrame frame nowMs seed).1.token = pairing.token := by
  have hcases := pairing.onFrame_cases frame nowMs seed
  generalize pairing.onFrame frame nowMs seed = result at hcases
  cases hcases <;> exact ⟨rfl, rfl⟩

end PcPairing

/-! ## Phone role -/

namespace PhonePairing

/-- The machine behind a PAIR_ACK. -/
def acknowledged (pairing : PhonePairing) (ephPkR : Key32) : PhonePairing :=
  { pairing with
    sasInput := some (AirClip.sasInput (pairing.eph.dh ephPkR) pairing.identity.publicBytes
      pairing.qr.publicKey pairing.qr.pairToken)
    state := .awaitingUserConfirm }

/-- The MAC of a PAIR_CONFIRM over this SAS input. -/
def confirmMac (pairing : PhonePairing) (input : Bytes) : Key32 :=
  keyedMac (pairing.identity.dh pairing.qr.publicKey) input

def confirmMap (mac : Key32) : MapBuilder := MapBuilder.new.bytes PairingKey.confirmMac mac.toList

variable [TextCodecs]

/-- The record of the computer whose code the phone has scanned. -/
def record (pairing : PhonePairing) (nowMs : UInt64) : PairingRecord :=
  .new pairing.qr.deviceId pairing.qr.publicKey pairing.qr.displayName nowMs

/-- A frame or a tap of the user. -/
inductive Call where
  | onFrame (frame : Frame)
  | confirmSas (nowMs : UInt64)
  | rejectSas

def perform (pairing : PhonePairing) : Call → PhonePairing × List PairingAction
  | .onFrame frame => pairing.onFrame frame
  | .confirmSas nowMs => pairing.confirmSas nowMs
  | .rejectSas => pairing.rejectSas

/-- What one call can do. -/
inductive Response (pairing : PhonePairing) : Call → PhonePairing × List PairingAction → Prop
  | refused (call : Call) (state : PhoneState) (msg : String)
      (hstate : state = pairing.state ∨ state = .failed) :
      Response pairing call ({ pairing with state }, [.failed msg])
  | shown {frame : Frame} {r : MapReader} {ephPkR : Key32} (hstate : pairing.state = .awaitingAck)
      (hty : frame.ty = .pairAck) (hslice : MapReader.fromSlice frame.payload = .ok r)
      (hread : r.byteArray 32 PairingKey.ackEphPk = .ok ephPkR) :
      Response pairing (.onFrame frame) (pairing.acknowledged ephPkR,
        [.showSas (sasEmoji (sasDigest (AirClip.sasInput (pairing.eph.dh ephPkR)
          pairing.identity.publicBytes pairing.qr.publicKey pairing.qr.pairToken)))])
  | confirmed {nowMs : UInt64} {input payload : Bytes}
      (hstate : pairing.state = .awaitingUserConfirm) (hinput : pairing.sasInput = some input)
      (hpayload : (confirmMap (pairing.confirmMac input)).toVec = .ok payload) :
      Response pairing (.confirmSas nowMs) ({ pairing with state := .done },
        [.send ⟨.pairConfirm, payload⟩, .completed (pairing.record nowMs)])

omit [TextCodecs] in
theorem onAck_eq_ok {pairing : PhonePairing} {frame : Frame} {r : MapReader} {ephPkR : Key32}
    (hslice : MapReader.fromSlice frame.payload = .ok r)
    (hread : r.byteArray 32 PairingKey.ackEphPk = .ok ephPkR) :
    pairing.onAck frame = (pairing.acknowledged ephPkR,
      [.showSas (sasEmoji (sasDigest (AirClip.sasInput (pairing.eph.dh ephPkR)
        pairing.identity.publicBytes pairing.qr.publicKey pairing.qr.pairToken)))]) := by
  unfold onAck
  simp only [hslice, hread]
  rfl

theorem confirmSas_eq {pairing : PhonePairing} {input payload : Bytes} (nowMs : UInt64)
    (hstate : pairing.state = .awaitingUserConfirm) (hinput : pairing.sasInput = some input)
    (hpayload : (confirmMap (pairing.confirmMac input)).toVec = .ok payload) :
    pairing.confirmSas nowMs = ({ pairing with state := .done },
      [.send ⟨.pairConfirm, payload⟩, .completed (pairing.record nowMs)]) := by
  unfold confirmMap confirmMac at hpayload
  unfold confirmSas
  simp only [hstate, hinput, hpayload, ne_eq, not_true_eq_false, if_false]
  rfl

/-- A call is refused, shows the emoji, or confirms. -/
theorem perform_cases (pairing : PhonePairing) (call : Call) :
    Response pairing call (pairing.perform call) := by
  cases call with
  | onFrame frame =>
    change Response pairing _ (pairing.onFrame frame)
    unfold PhonePairing.onFrame
    split
    · next hstate hty =>
      match hslice : MapReader.fromSlice frame.payload with
      | .error _ =>
        rw [onAck]
        simp only [hslice]
        exact .refused _ _ _ (.inr rfl)
      | .ok r =>
        match hread : r.byteArray 32 PairingKey.ackEphPk with
        | .error _ =>
          rw [onAck]
          simp only [hslice, hread]
          exact .refused _ _ _ (.inr rfl)
        | .ok ephPkR =>
          rw [onAck_eq_ok hslice hread]
          exact .shown hstate hty hslice hread
    · exact .refused _ _ _ (.inr rfl)
  | confirmSas nowMs =>
    change Response pairing _ (pairing.confirmSas nowMs)
    by_cases hstate : pairing.state = .awaitingUserConfirm
    · match hinput : pairing.sasInput with
      | none =>
        rw [confirmSas]
        simp only [hstate, hinput, ne_eq, not_true_eq_false, if_false]
        exact .refused _ _ _ (.inl rfl)
      | some input =>
        match hpayload : (confirmMap (pairing.confirmMac input)).toVec with
        | .error _ =>
          have hpayload' := hpayload
          unfold confirmMap confirmMac at hpayload'
          rw [confirmSas]
          simp only [hstate, hinput, hpayload', ne_eq, not_true_eq_false, if_false]
          exact .refused _ _ _ (.inr rfl)
        | .ok payload =>
          rw [confirmSas_eq nowMs hstate hinput hpayload]
          exact .confirmed hstate hinput hpayload
    · rw [confirmSas, if_pos hstate]
      exact .refused _ _ _ (.inl rfl)
  | rejectSas => exact .refused _ _ _ (.inr rfl)

end PhonePairing

/-! ## An exchange of the phone -/

/-- A pairing machine of the phone with everything it has told its caller to do. -/
structure PhoneExchange where
  pairing : PhonePairing
  actions : List PairingAction

namespace PhoneExchange

variable [TextCodecs]

def call (exchange : PhoneExchange) (call : PhonePairing.Call) : PhoneExchange :=
  ⟨(exchange.pairing.perform call).1, exchange.actions ++ (exchange.pairing.perform call).2⟩

/-- The phone has sent its PAIR_CONFIRM over this SAS input. -/
def Confirmed (exchange : PhoneExchange) (input : Bytes) : Prop :=
  exchange.pairing.sasInput = some input ∧
    ∃ payload, .send ⟨.pairConfirm, payload⟩ ∈ exchange.actions

/-- What holds in every run of an exchange with this code. -/
structure Accounted (identity : IdentityKeypair) (qr : QrPayload) (exchange : PhoneExchange) :
    Prop where
  identity_eq : exchange.pairing.identity = identity
  qr_eq : exchange.pairing.qr = qr
  fresh : exchange.pairing.state = .awaitingAck → exchange.pairing.sasInput = none
  shown : ∀ {input}, exchange.pairing.sasInput = some input →
    (∃ ephPkR, input = sasInput (exchange.pairing.eph.dh ephPkR) identity.publicBytes qr.publicKey
      qr.pairToken) ∧ .showSas (sasEmoji (sasDigest input)) ∈ exchange.actions
  confirmed : ∀ {payload}, .send ⟨.pairConfirm, payload⟩ ∈ exchange.actions →
    (∃ input, exchange.pairing.sasInput = some input) ∧ ∃ nowMs,
      .completed (.new qr.deviceId qr.publicKey qr.displayName nowMs) ∈ exchange.actions

theorem start_accounted {identity : IdentityKeypair} {displayName : String} {qr : QrPayload}
    {seed : Option Key32} {pairing : PhonePairing} {req : Frame}
    (h : PhonePairing.start identity displayName qr seed = .ok (pairing, req)) :
    Accounted identity qr ⟨pairing, []⟩ := by
  unfold PhonePairing.start PhonePairing.startWithEphemeral at h
  split at h
  · cases h
  split at h
  · cases h
  cases h
  exact ⟨rfl, rfl, fun _ ↦ rfl, fun hinput ↦ (nomatch hinput), fun hsend ↦ nomatch hsend⟩

theorem Accounted.call {identity : IdentityKeypair} {qr : QrPayload} {exchange : PhoneExchange}
    (h : Accounted identity qr exchange) (call : PhonePairing.Call) :
    Accounted identity qr (exchange.call call) := by
  have hcases := exchange.pairing.perform_cases call
  unfold PhoneExchange.call
  generalize exchange.pairing.perform call = result at hcases
  cases hcases with
  | refused _ state msg hstate =>
    refine ⟨h.identity_eq, h.qr_eq, fun hawaiting ↦ ?_, fun hinput ↦ ?_, fun hsend ↦ ?_⟩
    · obtain hsame | hfailed := hstate
      · exact h.fresh (hsame.symm.trans hawaiting)
      · exact absurd (hfailed.symm.trans hawaiting) (by simp)
    · exact ⟨(h.shown hinput).1, List.mem_append_left _ (h.shown hinput).2⟩
    · obtain ⟨hinput, nowMs, hrecord⟩ := h.confirmed (by simpa using hsend)
      exact ⟨hinput, nowMs, List.mem_append_left _ hrecord⟩
  | @shown frame r ephPkR hstate =>
    refine ⟨h.identity_eq, h.qr_eq, fun hawaiting ↦ (nomatch hawaiting), fun hinput ↦ ?_,
      fun hsend ↦ ?_⟩
    · cases hinput
      rw [h.identity_eq, h.qr_eq]
      exact ⟨⟨ephPkR, rfl⟩, List.mem_append_right _ (List.mem_singleton_self _)⟩
    · obtain ⟨⟨input, hinput⟩, -⟩ := h.confirmed (by simpa using hsend)
      rw [h.fresh hstate] at hinput
      cases hinput
  | @confirmed nowMs input payload hstate hinput =>
    refine ⟨h.identity_eq, h.qr_eq, fun hawaiting ↦ (nomatch hawaiting), fun hinput' ↦ ?_,
      fun _ ↦ ⟨⟨input, hinput⟩, nowMs, ?_⟩⟩
    · exact ⟨(h.shown hinput').1, List.mem_append_left _ (h.shown hinput').2⟩
    · rw [← h.qr_eq]
      exact List.mem_append_right _ (List.mem_cons_of_mem _ (List.mem_singleton_self _))

/-- What has been confirmed stays confirmed. -/
theorem Confirmed.call {exchange : PhoneExchange} {input : Bytes} {identity : IdentityKeypair}
    {qr : QrPayload} (haccounted : Accounted identity qr exchange) (h : exchange.Confirmed input)
    (call : PhonePairing.Call) : (exchange.call call).Confirmed input := by
  obtain ⟨hinput, payload, hsent⟩ := h
  refine ⟨?_, payload, List.mem_append_left _ hsent⟩
  have hcases := exchange.pairing.perform_cases call
  unfold PhoneExchange.call
  generalize exchange.pairing.perform call = result at hcases
  cases hcases with
  | refused | confirmed => exact hinput
  | shown hstate =>
    rw [haccounted.fresh hstate] at hinput
    cases hinput

end PhoneExchange

end AirClip
