import AirClip.Core.SessionRun
import AirClip.Core.Reference

/-!
# What the handshake accepts

A HELLO and a HELLO_ACK are described by the CBOR map in their payload, without reference to the
code that reads it: which entries the map carries, how far the timestamp may be off, and which MAC it
has to hold.  A session that waits for one of them accepts exactly such a message.  Everything else
gets the same answer, a bare close, whichever check it fails.
-/

open Foundation Cbor

namespace AirClip

/-- The first peer of that device id. -/
def FirstKnown (knownPeers : List PeerKey) (id : DeviceId) (peer : PeerKey) : Prop :=
  peer.deviceId = id ∧ ∃ before after, knownPeers = before ++ peer :: after ∧
    ∀ earlier ∈ before, earlier.deviceId ≠ id

theorem find?_firstKnown {knownPeers : List PeerKey} {id : DeviceId} {peer : PeerKey} :
    (knownPeers.find? fun p ↦ decide (p.deviceId = id)) = some peer ↔
      FirstKnown knownPeers id peer := by
  rw [List.find?_eq_some_iff_append]
  simp [FirstKnown]

/-- `u64::abs_diff` is the distance of the two numbers; nothing wraps around. -/
theorem absDiff_le_iff {left right window : UInt64} :
    absDiff left right ≤ window ↔ |(left.toNat : ℤ) - right.toNat| ≤ window.toNat := by
  have hleft := left.toNat_lt
  have hright := right.toNat_lt
  rw [absDiff, UInt64.le_iff_toNat_le, abs_le]
  split_ifs with h
  · rw [UInt64.lt_iff_toNat_lt] at h
    rw [UInt64.toNat_sub_of_le _ _ (UInt64.le_iff_toNat_le.mpr h.le)]
    omega
  · rw [UInt64.lt_iff_toNat_lt, not_lt] at h
    rw [UInt64.toNat_sub_of_le _ _ (UInt64.le_iff_toNat_le.mpr h)]
    omega

section Payload

variable [Ciborium]

/-- The payload decodes to an integer-keyed map, no key twice, with these entries. -/
def DecodesTo (payload : Bytes) (entries : List (ℤ × Value)) : Prop :=
  Ciborium.fromReader payload = .ok (integerMap entries) ∧ (entries.map Prod.fst).Nodup

theorem fromSlice_decodesTo {payload : Bytes} {reader : MapReader} :
    MapReader.fromSlice payload = .ok reader ↔ DecodesTo payload reader.entries := by
  rw [MapReader.fromSlice_eq_ok, DecodesTo]
  exact ⟨fun h ↦ ⟨h, reader.nodup_keys⟩, And.left⟩

theorem toVec_eq_ok {builder : MapBuilder} {out : Bytes} :
    builder.toVec = .ok out ↔ Ciborium.intoWriter builder.build = .ok out := by
  unfold MapBuilder.toVec
  split <;> simp_all

end Payload

section Acceptance

variable [Primitives] [Ciborium]

/-- A HELLO of the device `id` that authenticates it to a computer which knows the given peers. -/
def AuthenticHello (identity : IdentityKeypair) (knownPeers : List PeerKey) (nowMs : UInt64)
    (frame : Frame) (id : DeviceId) : Prop :=
  frame.ty = .hello ∧ ∃ entries, DecodesTo frame.payload entries ∧
    ∃ (ephPkI : Key32) (ts : UInt64) (mac : Key32) (peer : PeerKey) (basis : Bytes),
      (1, .integer 1) ∈ entries ∧ (2, .bytes id.bytes.toList) ∈ entries ∧
      (3, .bytes ephPkI.toList) ∈ entries ∧ (4, .integer ts.toNat) ∈ entries ∧
      (5, .bytes mac.toList) ∈ entries ∧
      |(ts.toNat : ℤ) - nowMs.toNat| ≤ 120000 ∧
      FirstKnown knownPeers id peer ∧
      Ciborium.intoWriter (integerMap [(1, .integer 1), (2, .bytes id.bytes.toList),
        (3, .bytes ephPkI.toList), (4, .integer ts.toNat)]) = .ok basis ∧
      mac = keyedMac (identity.dh peer.publicKey) basis

/-- A HELLO_ACK that authenticates `peer` to the phone which sent the ephemeral key `ephPkI`. -/
def AuthenticHelloAck (identity : IdentityKeypair) (peer : PeerKey) (ephPkI : Key32)
    (frame : Frame) : Prop :=
  frame.ty = .helloAck ∧ ∃ entries, DecodesTo frame.payload entries ∧
    ∃ ephPkR mac : Key32, (1, .bytes ephPkR.toList) ∈ entries ∧ (2, .bytes mac.toList) ∈ entries ∧
      mac = keyedMac (identity.dh peer.publicKey) (ephPkR.toList ++ ephPkI.toList)

namespace Session

omit [Primitives] [Ciborium] in
theorem helloFields_read_eq_some {r : MapReader} {hello : HelloFields} :
    HelloFields.read r = some hello ↔
      r.u64 SessionKey.version = .ok hello.version ∧
      r.byteArray 16 SessionKey.initiatorId = .ok hello.id ∧
      r.byteArray 32 SessionKey.ephPkI = .ok hello.ephPkI ∧
      r.u64 SessionKey.ts = .ok hello.ts ∧
      r.byteArray 32 SessionKey.helloMac = .ok hello.mac := by
  unfold HelloFields.read
  constructor
  · intro h
    split at h
    · cases h
      simp_all
    · cases h
  · rintro ⟨hversion, hid, heph, hts, hmac⟩
    rw [hversion, hid, heph, hts, hmac]

omit [Primitives] [Ciborium] in
theorem readHelloAck_eq_some {r : MapReader} {ephPkR mac : Key32} :
    readHelloAck r = some (ephPkR, mac) ↔
      r.byteArray 32 SessionKey.ephPkR = .ok ephPkR ∧
      r.byteArray 32 SessionKey.ackMac = .ok mac := by
  unfold readHelloAck
  constructor
  · intro h
    split at h
    · cases h
      simp_all
    · cases h
  · rintro ⟨heph, hmac⟩
    rw [heph, hmac]

/-- The checks of `onHello` are the description of an authentic HELLO. -/
theorem helloAuthentic_iff (session : Session) {frame : Frame} {nowMs : UInt64} {id : DeviceId}
    (hty : frame.ty = .hello) :
    (∃ hello peer basis, session.HelloAuthentic frame.payload nowMs hello peer basis ∧
      ⟨hello.id⟩ = id) ↔ AuthenticHello session.identity session.knownPeers nowMs frame id := by
  constructor
  · rintro ⟨hello, peer, basis, hauth, rfl⟩
    obtain ⟨r, hslice, hread⟩ := hauth.fields
    obtain ⟨hversion, hid, heph, hts, hmac⟩ := helloFields_read_eq_some.mp hread
    rw [hauth.version, MapReader.u64_eq_ok] at hversion
    refine ⟨hty, r.entries, fromSlice_decodesTo.mp hslice, hello.ephPkI, hello.ts, hello.mac, peer,
      basis, hversion, r.byteArray_eq_ok.mp hid, r.byteArray_eq_ok.mp heph, r.u64_eq_ok.mp hts,
      r.byteArray_eq_ok.mp hmac, absDiff_le_iff.mp hauth.fresh, find?_firstKnown.mp hauth.known,
      toVec_eq_ok.mp hauth.canonical, hauth.mac.symm⟩
  · rintro ⟨-, entries, hentries, ephPkI, ts, mac, peer, basis, hversion, hid, heph, hts, hmac,
      hfresh, hknown, hbasis, rfl⟩
    let r : MapReader := ⟨entries, hentries.2⟩
    refine ⟨⟨1, id.bytes, ephPkI, ts, keyedMac (session.identity.dh peer.publicKey) basis⟩, peer, basis,
      ?_, rfl⟩
    exact {
      fields := ⟨r, fromSlice_decodesTo.mpr hentries, helloFields_read_eq_some.mpr
        ⟨r.u64_eq_ok.mpr hversion, r.byteArray_eq_ok.mpr hid, r.byteArray_eq_ok.mpr heph,
          r.u64_eq_ok.mpr hts, r.byteArray_eq_ok.mpr hmac⟩⟩
      version := rfl
      fresh := absDiff_le_iff.mpr hfresh
      known := find?_firstKnown.mpr hknown
      canonical := toVec_eq_ok.mpr hbasis
      mac := rfl }

theorem helloAckAuthentic_iff (session : Session) {frame : Frame} {peer : PeerKey}
    {eph : EphemeralKeypair} {ephPkI : Key32} (hty : frame.ty = .helloAck)
    (hpeer : session.peer = some peer) (heph : session.eph = some eph)
    (hephPkI : session.ephPkI = some ephPkI) :
    (∃ ephPkR, session.HelloAckAuthentic frame.payload peer eph ephPkI ephPkR) ↔
      AuthenticHelloAck session.identity peer ephPkI frame := by
  constructor
  · rintro ⟨ephPkR, hauth⟩
    obtain ⟨r, hslice, hread⟩ := hauth.fields
    obtain ⟨hephPkR, hmac⟩ := readHelloAck_eq_some.mp hread
    exact ⟨hty, r.entries, fromSlice_decodesTo.mp hslice, ephPkR, _, r.byteArray_eq_ok.mp hephPkR,
      r.byteArray_eq_ok.mp hmac, rfl⟩
  · rintro ⟨-, entries, hentries, ephPkR, mac, hephPkR, hmac, rfl⟩
    let r : MapReader := ⟨entries, hentries.2⟩
    exact ⟨ephPkR, hpeer, heph, hephPkI, r, fromSlice_decodesTo.mpr hentries,
      readHelloAck_eq_some.mpr ⟨r.byteArray_eq_ok.mpr hephPkR, r.byteArray_eq_ok.mpr hmac⟩⟩

/-- The session has been closed with nothing but a close, and has no channel. -/
def BareClose (result : Session × List SessionAction) : Prop :=
  (∃ why, result.2 = [.close why]) ∧ result.1.state = .closed ∧ result.1.channel = none

theorem onFrame_hello {session : Session} {frame : Frame} {nowMs : UInt64} {seed : Key32}
    (hencode : ∀ builder : MapBuilder, ∃ out, builder.toVec = .ok out)
    (hstate : session.state = .awaitingHello) {id : DeviceId}
    (h : AuthenticHello session.identity session.knownPeers nowMs frame id) :
    (session.onFrame frame nowMs (some seed)).1.state = .established ∧
      ∃ payload, (session.onFrame frame nowMs (some seed)).2 =
        [.send ⟨.helloAck, payload⟩, .emit (.established id)] := by
  let noted : Session := { session with lastActivityMs := nowMs }
  obtain ⟨hello, peer, basis, hauth, rfl⟩ := (noted.helloAuthentic_iff h.1).mpr h
  obtain ⟨payload, hpayload⟩ := hencode (noted.ackMap hello peer (.fromSeed seed))
  have hframe : session.onFrame frame nowMs (some seed) = noted.onHello frame nowMs (some seed) := by
    unfold onFrame
    simp only [hstate, h.1, reduceCtorEq, if_false]
    rfl
  rw [hframe, onHello_authentic hauth rfl hpayload]
  exact ⟨rfl, payload, rfl⟩

theorem onFrame_helloAck {session : Session} (frame : Frame) (nowMs : UInt64) (seed : Option Key32)
    {peer : PeerKey} {eph : EphemeralKeypair} {ephPkI : Key32}
    (hstate : session.state = .awaitingHelloAck) (hpeer : session.peer = some peer)
    (heph : session.eph = some eph) (hephPkI : session.ephPkI = some ephPkI)
    (h : AuthenticHelloAck session.identity peer ephPkI frame) :
    (session.onFrame frame nowMs seed).1.state = .established ∧
      (session.onFrame frame nowMs seed).2 = [.emit (.established peer.deviceId)] := by
  let noted : Session := { session with lastActivityMs := nowMs }
  obtain ⟨ephPkR, hauth⟩ :=
    (noted.helloAckAuthentic_iff h.1 hpeer heph hephPkI).mpr h
  have hframe : session.onFrame frame nowMs seed = noted.onHelloAck frame := by
    unfold onFrame
    simp only [hstate, h.1, reduceCtorEq, if_false]
    rfl
  rw [hframe, onHelloAck_authentic hauth]
  exact ⟨rfl, rfl⟩

/-- A coherent session waiting for a HELLO accepts it exactly if it is authentic, and otherwise
closes. -/
theorem onFrame_awaitingHello {session : Session} (frame : Frame) (nowMs : UInt64) (seed : Key32)
    (hencode : ∀ builder : MapBuilder, ∃ out, builder.toVec = .ok out)
    (hcoherent : session.Coherent) (hstate : session.state = .awaitingHello) :
    let result := session.onFrame frame nowMs (some seed)
    (∀ id, (result.1.state = .established ∧ ∃ payload, result.2 =
        [.send ⟨.helloAck, payload⟩, .emit (.established id)]) ↔
      AuthenticHello session.identity session.knownPeers nowMs frame id) ∧
    ((∀ id, ¬ AuthenticHello session.identity session.knownPeers nowMs frame id) →
      BareClose result ∧ result.1.peer = none) := by
  have hcases := onFrame_cases hcoherent frame nowMs (some seed)
  refine ⟨fun id ↦ ⟨?_, onFrame_hello hencode hstate⟩, fun hnone ↦ ?_⟩
  · rintro ⟨hestablished, payload, hactions⟩
    generalize session.onFrame frame nowMs (some seed) = result at hcases hestablished hactions
    cases hcases with
    | refused => cases hestablished
    | greeted _ hty hauth heph hpayload =>
      cases hactions
      exact (session.helloAuthentic_iff hty).mp ⟨_, _, _, hauth, rfl⟩
    | acknowledged hack => exact absurd (hstate.symm.trans hack) (by simp)
    | opened hopened => exact absurd (hstate.symm.trans hopened) (by simp)
  · generalize session.onFrame frame nowMs (some seed) = result at hcases
    cases hcases with
    | refused lastActivityMs why hopens =>
      exact ⟨⟨⟨why, rfl⟩, rfl, hcoherent.channel_none (.inl hstate)⟩, hcoherent.peer_none hstate⟩
    | greeted _ hty hauth heph hpayload =>
      exact absurd ((session.helloAuthentic_iff hty).mp ⟨_, _, _, hauth, rfl⟩) (hnone _)
    | acknowledged hack => exact absurd (hstate.symm.trans hack) (by simp)
    | opened hopened => exact absurd (hstate.symm.trans hopened) (by simp)

/-- A coherent phone session with a pending handshake accepts a HELLO_ACK exactly if it is
authentic, and otherwise closes. -/
theorem onFrame_awaitingHelloAck {session : Session} (frame : Frame) (nowMs : UInt64)
    (seed : Option Key32) {peer : PeerKey} {eph : EphemeralKeypair} {ephPkI : Key32}
    (hcoherent : session.Coherent) (hstate : session.state = .awaitingHelloAck)
    (hpeer : session.peer = some peer) (heph : session.eph = some eph)
    (hephPkI : session.ephPkI = some ephPkI) :
    let result := session.onFrame frame nowMs seed
    (result.1.state = .established ↔ AuthenticHelloAck session.identity peer ephPkI frame) ∧
    (AuthenticHelloAck session.identity peer ephPkI frame →
      result.2 = [.emit (.established peer.deviceId)]) ∧
    (¬ AuthenticHelloAck session.identity peer ephPkI frame → BareClose result) := by
  have hcases := onFrame_cases hcoherent frame nowMs seed
  have haccept := onFrame_helloAck frame nowMs seed hstate hpeer heph hephPkI
  refine ⟨⟨fun hestablished ↦ ?_, fun h ↦ (haccept h).1⟩, fun h ↦ (haccept h).2, fun hnone ↦ ?_⟩
  · generalize session.onFrame frame nowMs seed = result at hcases hestablished
    cases hcases with
    | refused => cases hestablished
    | greeted hhello => exact absurd (hstate.symm.trans hhello) (by simp)
    | acknowledged _ hty hauth =>
      cases hpeer.symm.trans hauth.peer_eq
      cases heph.symm.trans hauth.eph_eq
      cases hephPkI.symm.trans hauth.ephPkI_eq
      exact (session.helloAckAuthentic_iff hty hpeer heph hephPkI).mp ⟨_, hauth⟩
    | opened hopened => exact absurd (hstate.symm.trans hopened) (by simp)
  · generalize session.onFrame frame nowMs seed = result at hcases
    cases hcases with
    | refused lastActivityMs why hopens =>
      exact ⟨⟨why, rfl⟩, rfl, hcoherent.channel_none (.inr hstate)⟩
    | greeted hhello => exact absurd (hstate.symm.trans hhello) (by simp)
    | acknowledged _ hty hauth =>
      cases hpeer.symm.trans hauth.peer_eq
      cases heph.symm.trans hauth.eph_eq
      cases hephPkI.symm.trans hauth.ephPkI_eq
      exact absurd ((session.helloAckAuthentic_iff hty hpeer heph hephPkI).mp ⟨_, hauth⟩) hnone
    | opened hopened => exact absurd (hstate.symm.trans hopened) (by simp)

/-! ## Honest handshakes -/

/-- Fields 1 to 4 of a HELLO, which its MAC covers. -/
def helloEntries (id : DeviceId) (ephPkI : Key32) (ts : UInt64) : List (ℤ × Value) :=
  [(1, .integer 1), (2, .bytes id.bytes.toList), (3, .bytes ephPkI.toList), (4, .integer ts.toNat)]

def helloBasis (id : DeviceId) (ephPkI : Key32) (ts : UInt64) : Bytes :=
  encode (integerMap (helloEntries id ephPkI ts))

/-- The payload of a HELLO under the given static secret. -/
def helloPayload (ssStatic : Key32) (id : DeviceId) (ephPkI : Key32) (ts : UInt64) : Bytes :=
  encode (integerMap (helloEntries id ephPkI ts ++
    [(5, .bytes (keyedMac ssStatic (helloBasis id ephPkI ts)).toList)]))

omit [Primitives] [Ciborium] in
theorem plain_hello (id : DeviceId) (ephPkI mac : Key32) (ts : UInt64) :
    Plain 8 (integerMap (helloEntries id ephPkI ts)) ∧
      Plain 8 (integerMap (helloEntries id ephPkI ts ++ [(5, .bytes mac.toList)])) := by
  have hts := ts.toNat_lt
  constructor <;> simp [integerMap, helloEntries, Plain] <;> omega

omit [Primitives] [Ciborium] in
theorem helloBasis_length (id : DeviceId) (ephPkI : Key32) (ts : UInt64) :
    (helloBasis id ephPkI ts).length = 57 + (head 0 ts.toNat).length := by
  simp [helloBasis, helloEntries, integerMap, encode, encodeEntries, head]
  omega

omit [Primitives] [Ciborium] in
/-- A HELLO's MAC covers 58 to 66 bytes, and never 64 as that of a HELLO_ACK. -/
theorem helloBasis_length_mem (id : DeviceId) (ephPkI : Key32) (ts : UInt64) :
    (helloBasis id ephPkI ts).length ∈ [58, 59, 60, 62, 66] := by
  have hhead := head_length 0 ts.toNat
  rw [helloBasis_length]
  simp only [List.mem_cons, List.not_mem_nil, or_false] at hhead ⊢
  omega

omit [Primitives] [Ciborium] in
theorem helloBasis_inj {id id' : DeviceId} {ephPkI ephPkI' : Key32} {ts ts' : UInt64}
    (h : helloBasis id ephPkI ts = helloBasis id' ephPkI' ts') :
    id = id' ∧ ephPkI = ephPkI' ∧ ts = ts' := by
  have hmap := encode_inj (plain_hello id ephPkI ephPkI ts).1 (plain_hello id' ephPkI' ephPkI' ts').1 h
  simp only [integerMap, helloEntries, List.map_cons, List.map_nil, Value.map.injEq, List.cons.injEq,
    Prod.mk.injEq, Value.bytes.injEq, Value.integer.injEq, Nat.cast_inj, true_and, and_true] at hmap
  obtain ⟨hid, heph, hts⟩ := hmap
  exact ⟨DeviceId.ext (Octets.toList_inj.mp hid), Octets.toList_inj.mp heph,
    UInt64.toNat_inj.mp hts⟩

omit [Primitives] in
theorem helloMacBasis_eq [Ciborium.Lawful] (id : DeviceId) (ephPkI : Key32) (ts : UInt64) :
    helloMacBasis id ephPkI ts = .ok (helloBasis id ephPkI ts) :=
  toVec_eq_ok.mpr (Ciborium.Lawful.intoWriter_plain (plain_hello id ephPkI ephPkI ts).1)

/-- `startPhone` never fails when the codec does not. -/
theorem startPhone_eq [Ciborium.Lawful] (identity : IdentityKeypair) (peer : PeerKey)
    (nowMs : UInt64) (eph : EphemeralKeypair) :
    startPhoneWithEphemeral identity peer nowMs eph = .ok
      (phoneOpened identity peer nowMs eph,
        ⟨.hello, helloPayload (identity.dh peer.publicKey) identity.deviceId eph.publicBytes
          nowMs⟩) := by
  unfold startPhoneWithEphemeral
  dsimp only
  rw [helloMacBasis_eq]
  let mac := keyedMac (identity.dh peer.publicKey)
    (helloBasis identity.deviceId eph.publicBytes nowMs)
  have hpayload : (((((MapBuilder.new.u64 SessionKey.version protocolVersion.toUInt64).bytes
      SessionKey.initiatorId identity.deviceId.bytes.toList).bytes SessionKey.ephPkI
      eph.publicBytes.toList).u64 SessionKey.ts nowMs).bytes SessionKey.helloMac mac.toList).toVec =
        .ok (helloPayload (identity.dh peer.publicKey) identity.deviceId eph.publicBytes nowMs) :=
    toVec_eq_ok.mpr (Ciborium.Lawful.intoWriter_plain (plain_hello _ _ mac nowMs).2)
  simp only [hpayload, mac, phoneOpened]

theorem fromSlice_helloPayload [Ciborium.Lawful] (ssStatic : Key32) (id : DeviceId)
    (ephPkI : Key32) (ts : UInt64) : ∃ r, MapReader.fromSlice (helloPayload ssStatic id ephPkI ts) =
        .ok r ∧ HelloFields.read r =
      some ⟨1, id.bytes, ephPkI, ts, keyedMac ssStatic (helloBasis id ephPkI ts)⟩ := by
  let mac := keyedMac ssStatic (helloBasis id ephPkI ts)
  let r : MapReader := ⟨helloEntries id ephPkI ts ++ [(5, .bytes mac.toList)],
    by simp [helloEntries]⟩
  refine ⟨r, MapReader.fromSlice_eq_ok.mpr (Ciborium.Lawful.fromReader_encode
    (plain_hello id ephPkI mac ts).2), helloFields_read_eq_some.mpr ?_⟩
  exact ⟨r.u64_eq_ok.mpr (by simp [r, helloEntries, SessionKey.version]),
    r.byteArray_eq_ok.mpr (by simp [r, helloEntries, SessionKey.initiatorId]),
    r.byteArray_eq_ok.mpr (by simp [r, helloEntries, SessionKey.ephPkI]),
    r.u64_eq_ok.mpr (by simp [r, helloEntries, SessionKey.ts]),
    r.byteArray_eq_ok.mpr (by simp [r, mac, helloEntries, SessionKey.helloMac])⟩

/-- The HELLO a phone sends is authentic for a computer that knows the phone and reads it in time. -/
theorem helloPayload_authentic [Ciborium.Lawful] {identity : IdentityKeypair}
    {knownPeers : List PeerKey} {nowMs ts : UInt64} {id : DeviceId} {ephPkI ssStatic : Key32}
    {peer : PeerKey} (hknown : FirstKnown knownPeers id peer)
    (hstatic : identity.dh peer.publicKey = ssStatic)
    (hfresh : |(ts.toNat : ℤ) - nowMs.toNat| ≤ 120000) :
    AuthenticHello identity knownPeers nowMs ⟨.hello, helloPayload ssStatic id ephPkI ts⟩ id := by
  let mac := keyedMac ssStatic (helloBasis id ephPkI ts)
  have hdecodes : DecodesTo (helloPayload ssStatic id ephPkI ts)
      (helloEntries id ephPkI ts ++ [(5, .bytes mac.toList)]) :=
    ⟨Ciborium.Lawful.fromReader_encode (plain_hello id ephPkI mac ts).2, by simp [helloEntries]⟩
  refine ⟨rfl, _, hdecodes, ephPkI, ts, mac, peer, helloBasis id ephPkI ts, ?_⟩
  exact ⟨by simp [helloEntries], by simp [helloEntries], by simp [helloEntries],
    by simp [helloEntries], by simp, hfresh, hknown,
    Ciborium.Lawful.intoWriter_plain (plain_hello id ephPkI ephPkI ts).1, by rw [hstatic]⟩

/-- The entries of a HELLO_ACK. -/
def helloAckEntries (ssStatic ephPkR ephPkI : Key32) : List (ℤ × Value) :=
  [(1, .bytes ephPkR.toList),
    (2, .bytes (keyedMac ssStatic (ackMacBasis ephPkR ephPkI)).toList)]

def helloAckPayload (ssStatic ephPkR ephPkI : Key32) : Bytes :=
  encode (integerMap (helloAckEntries ssStatic ephPkR ephPkI))

omit [Ciborium] in
theorem plain_helloAck (ssStatic ephPkR ephPkI : Key32) :
    Plain 8 (integerMap (helloAckEntries ssStatic ephPkR ephPkI)) := by
  simp [integerMap, helloAckEntries, Plain]

theorem fromSlice_helloAckPayload [Ciborium.Lawful] (ssStatic ephPkR ephPkI : Key32) :
    ∃ r, MapReader.fromSlice (helloAckPayload ssStatic ephPkR ephPkI) = .ok r ∧
      readHelloAck r = some (ephPkR, keyedMac ssStatic (ackMacBasis ephPkR ephPkI)) := by
  let r : MapReader := ⟨helloAckEntries ssStatic ephPkR ephPkI, by simp [helloAckEntries]⟩
  refine ⟨r, MapReader.fromSlice_eq_ok.mpr (Ciborium.Lawful.fromReader_encode
    (plain_helloAck _ _ _)), readHelloAck_eq_some.mpr ?_⟩
  exact ⟨r.byteArray_eq_ok.mpr (by simp [r, helloAckEntries, SessionKey.ephPkR]),
    r.byteArray_eq_ok.mpr (by simp [r, helloAckEntries, SessionKey.ackMac])⟩

theorem ackMap_toVec [Ciborium.Lawful] (session : Session) (hello : HelloFields) (peer : PeerKey)
    (eph : EphemeralKeypair) : (session.ackMap hello peer eph).toVec =
      .ok (helloAckPayload (session.identity.dh peer.publicKey) eph.publicBytes hello.ephPkI) :=
  toVec_eq_ok.mpr (Ciborium.Lawful.intoWriter_plain (plain_helloAck _ _ _))

theorem helloAckPayload_authentic [Ciborium.Lawful] {identity : IdentityKeypair} {peer : PeerKey}
    {ssStatic ephPkR ephPkI : Key32} (hstatic : identity.dh peer.publicKey = ssStatic) :
    AuthenticHelloAck identity peer ephPkI
      ⟨.helloAck, helloAckPayload ssStatic ephPkR ephPkI⟩ := by
  have hdecodes : DecodesTo (helloAckPayload ssStatic ephPkR ephPkI)
      (helloAckEntries ssStatic ephPkR ephPkI) :=
    ⟨Ciborium.Lawful.fromReader_encode (plain_helloAck _ _ _), by simp [helloAckEntries]⟩
  refine ⟨rfl, _, hdecodes, ephPkR, keyedMac ssStatic (ackMacBasis ephPkR ephPkI), ?_⟩
  exact ⟨by simp [helloAckEntries], by simp [helloAckEntries], by rw [hstatic, ackMacBasis]⟩

/-- Whatever calls have been made before, a computer still waiting for a HELLO and a phone still
waiting for a HELLO_ACK accept exactly the authentic message, and anything else makes them close
without a word. -/
theorem handshake_accepts_exactly_authentic
    (hencode : ∀ builder : MapBuilder, ∃ out, builder.toVec = .ok out) :
    (∀ (identity : IdentityKeypair) (knownPeers : List PeerKey) (openedMs : UInt64)
        (calls : List Call) (frame : Frame) (nowMs : UInt64) (seed : Key32),
      let session := ((newPc identity knownPeers openedMs).performAll calls).1
      let result := session.onFrame frame nowMs (some seed)
      session.state = .awaitingHello →
      (∀ id, (result.1.state = .established ∧ ∃ payload, result.2 =
          [.send ⟨.helloAck, payload⟩, .emit (.established id)]) ↔
        AuthenticHello identity knownPeers nowMs frame id) ∧
      ((∀ id, ¬ AuthenticHello identity knownPeers nowMs frame id) →
        BareClose result ∧ result.1.peer = none)) ∧
    ∀ (identity : IdentityKeypair) (peer : PeerKey) (openedMs : UInt64) (ephSeed : Key32)
        (opened : Session) (hello : Frame) (calls : List Call) (frame : Frame) (nowMs : UInt64)
        (seed : Option Key32),
      startPhone identity peer openedMs (some ephSeed) = .ok (opened, hello) →
      let session := (opened.performAll calls).1
      let result := session.onFrame frame nowMs seed
      let ephPkI := Primitives.x25519Base ephSeed
      session.state = .awaitingHelloAck →
      (result.1.state = .established ↔ AuthenticHelloAck identity peer ephPkI frame) ∧
      (AuthenticHelloAck identity peer ephPkI frame →
        result.2 = [.emit (.established peer.deviceId)]) ∧
      (¬ AuthenticHelloAck identity peer ephPkI frame → BareClose result) := by
  constructor
  · intro identity knownPeers openedMs calls frame nowMs seed session result hstate
    have hopen := newPc_coherent identity knownPeers openedMs
    have hsame := performAll_sameParty hopen calls
    have hspec := onFrame_awaitingHello frame nowMs seed hencode (hopen.performAll calls) hstate
    rw [hsame.identity, hsame.knownPeers] at hspec
    exact hspec
  · intro identity peer openedMs ephSeed opened hello calls frame nowMs seed hstart session result
      ephPkI hstate
    have hopen := startPhone_coherent hstart
    have hsame := performAll_sameParty hopen calls
    have hopened := startPhone_session hstart
    obtain ⟨hpeer, heph⟩ := hsame.phone (by rw [hopened, phoneOpened])
    have hpeer' : session.peer = some peer := by rw [hpeer, hopened, phoneOpened]
    have heph' : session.eph = some (.fromSeed ephSeed) := by rw [heph, hopened, phoneOpened]
    have hephPkI : session.ephPkI = some ephPkI := by rw [hsame.ephPkI, hopened]; rfl
    have hspec := onFrame_awaitingHelloAck frame nowMs seed (hopen.performAll calls) hstate hpeer'
      heph' hephPkI
    rw [hsame.identity, show opened.identity = identity by rw [hopened]; rfl] at hspec
    exact hspec

end Session

end Acceptance

open Reference Session in
/-- Two devices that know each other: either end accepts the other's message and closes on a PING. -/
theorem handshake_accepts_exactly_authentic_two_devices :
    let ssStatic := phoneIdentity.dh pcIdentity.publicBytes
    let ephSeed := pad 32 [7]
    let ephPkI := Primitives.x25519Base ephSeed
    let pc := newPc pcIdentity [phonePeer] 0
    let hello : Frame := ⟨.hello, helloPayload ssStatic phoneIdentity.deviceId ephPkI 0⟩
    let ack : Frame := ⟨.helloAck, helloAckPayload ssStatic (pad 32 [11]) ephPkI⟩
    (pc.onFrame hello 120000 (some ephSeed)).1.state = .established ∧
    BareClose (pc.onFrame ⟨.ping, []⟩ 0 (some ephSeed)) ∧
    ∃ phone, startPhone phoneIdentity pcPeer 0 (some ephSeed) = .ok (phone, hello) ∧
      (phone.onFrame ack 0 none).1.state = .established ∧
      BareClose (phone.onFrame ⟨.ping, []⟩ 0 none) := by
  intro ssStatic ephSeed ephPkI pc hello ack
  have hspec := handshake_accepts_exactly_authentic fun builder ↦ ⟨encode builder.build, rfl⟩
  have hpc (frame : Frame) (nowMs : UInt64) :=
    hspec.1 pcIdentity [phonePeer] 0 [] frame nowMs ephSeed rfl
  have hstart : startPhone phoneIdentity pcPeer 0 (some ephSeed) = .ok (_, hello) :=
    startPhone_eq phoneIdentity pcPeer 0 (.fromSeed ephSeed)
  have hphone (frame : Frame) :=
    hspec.2 phoneIdentity pcPeer 0 ephSeed _ hello [] frame 0 none hstart rfl
  refine ⟨((hpc hello 120000).1 phoneIdentity.deviceId |>.mpr ?_).1, ?_, _, hstart, ?_, ?_⟩
  · exact helloPayload_authentic ⟨rfl, [], [], rfl, by simp⟩
      (Keypair.dh_comm pcIdentity phoneIdentity) (by decide)
  · exact ((hpc ⟨.ping, []⟩ 0).2 fun id h ↦ absurd h.1 (by decide)).1
  · exact (hphone ack).1.mpr (helloAckPayload_authentic rfl)
  · exact (hphone ⟨.ping, []⟩).2.2 fun h ↦ absurd h.1 (by decide)

end AirClip
