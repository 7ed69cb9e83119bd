import AirClip.Core.Session

/-!
# Runs of a session

What one call can do to a session, said once.  Every call that touches the channel seals at most one
payload on it; an inbound frame is refused, or completes a handshake, or is opened and answered.
`Session.perform` collects all calls of the public interface, and `Session.Coherent` is the
invariant of everything they reach from the two ways of opening a session.
-/

open Foundation Cbor

namespace AirClip

/-- The frames among some actions, in order. -/
def sentFrames (actions : List SessionAction) : List Frame :=
  actions.filterMap fun
    | .send frame => some frame
    | _ => none

/-- The events among some actions, in order. -/
def emittedEvents (actions : List SessionAction) : List SessionEvent :=
  actions.filterMap fun
    | .emit event => some event
    | _ => none

/-- The encrypted frames among those handed to the transport. -/
def ciphertexts (frames : List Frame) : List Frame := frames.filter fun frame ↦ frame.ty.isEncrypted

theorem ciphertexts_append (left right : List Frame) :
    ciphertexts (left ++ right) = ciphertexts left ++ ciphertexts right := List.filter_append ..

variable [Primitives]

/-! ## Sealing at most once -/

/-- From one state of the channel to another by sealing at most one payload, with the frame that
carries it and the plaintext that went into it. -/
inductive Sealing : Option AeadChannel → List (Frame × Bytes) → Option AeadChannel → Prop
  | idle (channel : Option AeadChannel) : Sealing channel [] channel
  | once {channel channel' : AeadChannel} {ty : FrameType} {plain payload : Bytes}
      (hencrypted : ty.isEncrypted) (hseal : channel.sealPayload ty plain = (.ok payload, channel')) :
      Sealing (some channel) [(⟨ty, payload⟩, plain)] (some channel')

/-- Sealing neither opens nor drops a channel. -/
theorem Sealing.isSome_iff {channel channel' : Option AeadChannel} {items : List (Frame × Bytes)}
    (h : Sealing channel items channel') : channel'.isSome ↔ channel.isSome := by
  cases h <;> simp

theorem Sealing.ciphertexts_eq {channel channel' : Option AeadChannel}
    {items : List (Frame × Bytes)} (h : Sealing channel items channel') :
    ciphertexts (items.map Prod.fst) = items.map Prod.fst := by
  cases h with
  | idle => rfl
  | once hencrypted hseal => simp [ciphertexts, hencrypted]

namespace Session

/-- Sealing a frame either fails and leaves the session alone, or only moves its channel on. -/
theorem sealFrame_cases (session : Session) (ty : FrameType) (plain : Bytes) :
    (∃ failure, session.sealFrame ty plain = (.error failure, session)) ∨
    ∃ channel payload channel', session.channel = some channel ∧
      channel.sealPayload ty plain = (.ok payload, channel') ∧
      session.sealFrame ty plain =
        (.ok ⟨ty, payload⟩, { session with channel := some channel' }) := by
  unfold sealFrame
  match hchannel : session.channel with
  | none => exact .inl ⟨_, rfl⟩
  | some channel =>
    obtain ⟨failure, hseal⟩ | ⟨ct, -, -, hseal⟩ := channel.sealPayload_cases ty plain
    · refine .inl ⟨failure, ?_⟩
      simp only [hseal, ← hchannel]
    · exact .inr ⟨channel, _, _, rfl, hseal, by simp only [hseal]⟩

/-- A sealed frame carries the payload its channel sealed, and only the channel moves on. -/
theorem sealFrame_eq_ok {session session' : Session} {ty : FrameType} {plain : Bytes}
    {frame : Frame} (h : session.sealFrame ty plain = (.ok frame, session')) :
    ∃ channel payload channel', session.channel = some channel ∧
      channel.sealPayload ty plain = (.ok payload, channel') ∧ frame = ⟨ty, payload⟩ ∧
      session' = { session with channel := some channel' } := by
  obtain ⟨failure, hfail⟩ | ⟨channel, payload, channel', hchannel, hpayload, hok⟩ :=
    session.sealFrame_cases ty plain
  · rw [hfail] at h
    cases h
  · rw [hok] at h
    cases h
    exact ⟨channel, payload, channel', hchannel, hpayload, rfl, rfl⟩

/-- The state of a session may only stay or become closed, its channel moves by sealing what the
frames of the answer carry, and nothing else changes. -/
structure Answers (session : Session) (result : Session × List SessionAction) : Prop where
  unchanged : result.1 = { session with channel := result.1.channel, state := result.1.state }
  state : result.1.state = session.state ∨ result.1.state = .closed
  sealing : ∃ items, Sealing session.channel items result.1.channel ∧
    items.map Prod.fst = sentFrames result.2

theorem answers_fail (session : Session) (why : String) : session.Answers (session.fail why) :=
  ⟨rfl, .inr rfl, [], .idle _, rfl⟩

theorem answers_emit (session : Session) (event : SessionEvent) :
    session.Answers (session, [.emit event]) :=
  ⟨rfl, .inl rfl, [], .idle _, rfl⟩

theorem sealFrame_error {session session' : Session} {ty : FrameType} {plain : Bytes}
    {failure : Error} (h : session.sealFrame ty plain = (.error failure, session')) :
    session' = session := by
  obtain ⟨failure, hseal⟩ | ⟨channel, payload, channel', -, -, hseal⟩ :=
    session.sealFrame_cases ty plain
  · rw [hseal] at h
    exact (Prod.mk.inj h).2.symm
  · rw [hseal] at h
    cases h

/-- Sealing a reply and sending it is an answer. -/
theorem answers_reply {session session' : Session} {ty : FrameType} {plain : Bytes} {frame : Frame}
    (hencrypted : ty.isEncrypted) (h : session.sealFrame ty plain = (.ok frame, session'))
    {actions : List SessionAction} (hsent : sentFrames actions = [frame]) :
    session.Answers (session', actions) := by
  obtain ⟨channel, payload, channel', hchannel, hpayload, rfl, rfl⟩ := sealFrame_eq_ok h
  refine ⟨rfl, .inl rfl, [(⟨ty, payload⟩, plain)], ?_, hsent.symm⟩
  rw [hchannel]
  exact .once hencrypted hpayload

variable [Ciborium]

theorem answers_wireError (session : Session) (code : WireErrorCode) (msg : String) :
    session.Answers (session.wireError code msg) := by
  unfold wireError
  match hchannel : session.channel with
  | none => exact ⟨by simp, .inr rfl, [], by simpa [hchannel] using .idle _, rfl⟩
  | some channel =>
    obtain ⟨failure, hseal⟩ | ⟨ct, -, -, hseal⟩ := channel.sealPayload_cases .error
      (((MapBuilder.new.u64 SessionKey.errCode code.toUInt16.toUInt64).text
        SessionKey.errMsg msg).toVec.toOption.getD [])
    · simp only [hseal]
      exact ⟨rfl, .inr rfl, [], by simpa [hchannel] using .idle _, rfl⟩
    · simp only [hseal]
      exact ⟨rfl, .inr rfl, _, by simpa [hchannel] using .once rfl hseal, rfl⟩

/-! ## Answers to opened frames -/

theorem onClipPush_answers (session : Session) (plain : Bytes) :
    session.Answers (session.onClipPush plain) := by
  unfold onClipPush
  repeat' split
  all_goals first
    | exact session.answers_fail _
    | exact session.answers_wireError _ _
    | skip
  · next h =>
    rw [sealFrame_error h]
    exact session.answers_fail _
  · next h => exact answers_reply rfl h rfl

theorem onClipAck_answers (session : Session) (plain : Bytes) :
    session.Answers (session.onClipAck plain) := by
  unfold onClipAck
  repeat' split
  all_goals first | exact session.answers_fail _ | exact session.answers_emit _

theorem onStageGet_answers (session : Session) (plain : Bytes) :
    session.Answers (session.onStageGet plain) := by
  unfold onStageGet
  repeat' split
  all_goals first | exact session.answers_fail _ | exact session.answers_emit _

theorem onStageList_answers (session : Session) (plain : Bytes) :
    session.Answers (session.onStageList plain) := by
  unfold onStageList
  repeat' split
  all_goals first | exact session.answers_fail _ | exact session.answers_emit _

theorem onStageItem_answers (session : Session) (plain : Bytes) :
    session.Answers (session.onStageItem plain) := by
  unfold onStageItem
  repeat' split
  all_goals first | exact session.answers_fail _ | exact session.answers_emit _

omit [Ciborium] in
theorem onPing_answers (session : Session) : session.Answers session.onPing := by
  unfold onPing
  split
  · next h => exact answers_reply rfl h rfl
  · next h =>
    rw [sealFrame_error h]
    exact session.answers_fail _

theorem onError_answers (session : Session) (plain : Bytes) :
    session.Answers (session.onError plain) :=
  ⟨rfl, .inr rfl, [], .idle _, rfl⟩

theorem onPlain_answers (session : Session) (ty : FrameType) (plain : Bytes) :
    session.Answers (session.onPlain ty plain) := by
  cases ty with
  | clipPush => exact session.onClipPush_answers plain
  | clipAck => exact session.onClipAck_answers plain
  | stageListReq => exact session.answers_emit _
  | stageList => exact session.onStageList_answers plain
  | stageGet => exact session.onStageGet_answers plain
  | stageItem => exact session.onStageItem_answers plain
  | ping => exact session.onPing_answers
  | pong => exact ⟨rfl, .inl rfl, [], .idle _, rfl⟩
  | error => exact session.onError_answers plain
  | hello | helloAck | pairReq | pairAck | pairConfirm => exact session.answers_fail _

/-! ## The handshake -/

/-- A HELLO that passes every check of `onHello`, with its fields, the paired device it comes from
and the bytes its MAC covers. -/
structure HelloAuthentic (session : Session) (payload : Bytes) (nowMs : UInt64)
    (hello : HelloFields) (peer : PeerKey) (basis : Bytes) : Prop where
  fields : ∃ r, MapReader.fromSlice payload = .ok r ∧ HelloFields.read r = some hello
  version : hello.version = protocolVersion.toUInt64
  fresh : absDiff hello.ts nowMs ≤ helloTsWindowMs
  known : (session.knownPeers.find? fun p ↦ decide (p.deviceId = ⟨hello.id⟩)) = some peer
  canonical : helloMacBasis ⟨hello.id⟩ hello.ephPkI hello.ts = .ok basis
  mac : keyedMac (session.identity.dh peer.publicKey) basis = hello.mac

/-- The map of a HELLO_ACK. -/
def ackMap (session : Session) (hello : HelloFields) (peer : PeerKey) (eph : EphemeralKeypair) :
    MapBuilder :=
  (MapBuilder.new.bytes SessionKey.ephPkR eph.publicBytes.toList).bytes SessionKey.ackMac
    (keyedMac (session.identity.dh peer.publicKey)
      (ackMacBasis eph.publicBytes hello.ephPkI)).toList

/-- The keys the computer derives from a HELLO. -/
def pcKeys (session : Session) (hello : HelloFields) (peer : PeerKey) (eph : EphemeralKeypair) :
    SessionKeys :=
  sessionKeys (eph.dh hello.ephPkI) (eph.dh peer.publicKey) (session.identity.dh peer.publicKey)
    ⟨hello.id⟩ session.identity.deviceId

/-- The computer's session after it has accepted a HELLO. -/
def greeted (session : Session) (hello : HelloFields) (peer : PeerKey) (eph : EphemeralKeypair) :
    Session :=
  let keys := session.pcKeys hello peer eph
  { session with
    channel := some (AeadChannel.new keys.c2p keys.p2c)
    peer := some peer
    eph := some eph
    state := .established }

/-- An authentic HELLO is answered. -/
theorem onHello_authentic {session : Session} {frame : Frame} {nowMs : UInt64} {seed : Option Key32}
    {hello : HelloFields} {peer : PeerKey} {basis payload : Bytes} {eph : EphemeralKeypair}
    (h : session.HelloAuthentic frame.payload nowMs hello peer basis)
    (heph : Keypair.generate seed = .ok eph)
    (hpayload : (session.ackMap hello peer eph).toVec = .ok payload) :
    session.onHello frame nowMs seed = (session.greeted hello peer eph,
      [.send ⟨.helloAck, payload⟩, .emit (.established ⟨hello.id⟩)]) := by
  obtain ⟨r, hslice, hread⟩ := h.fields
  unfold ackMap at hpayload
  unfold onHello
  simp only [hslice, hread, h.version, ne_eq, not_true_eq_false, if_false, UInt64.not_lt.mpr h.fresh,
    h.known, h.canonical, verifyMac_toList, h.mac, decide_true, Bool.not_true, Bool.false_eq_true, heph,
    deriveSessionKeys_eq, hpayload]
  rfl

/-- Without a channel a HELLO either is refused with a bare close or is authentic and answered. -/
theorem onHello_cases (session : Session) (hchannel : session.channel = none) (frame : Frame)
    (nowMs : UInt64) (seed : Option Key32) :
    (∃ why, session.onHello frame nowMs seed = ({ session with state := .closed }, [.close why])) ∨
    ∃ hello peer basis eph payload, session.HelloAuthentic frame.payload nowMs hello peer basis ∧
      Keypair.generate seed = .ok eph ∧ (session.ackMap hello peer eph).toVec = .ok payload ∧
      session.onHello frame nowMs seed = (session.greeted hello peer eph,
        [.send ⟨.helloAck, payload⟩, .emit (.established ⟨hello.id⟩)]) := by
  unfold onHello
  split
  · exact .inl ⟨_, rfl⟩
  next r hslice =>
  split
  · exact .inl ⟨_, rfl⟩
  next hello hread =>
  split_ifs with hversion hstale
  · exact .inl ⟨_, by rw [wireError, hchannel]⟩
  · exact .inl ⟨_, rfl⟩
  dsimp only
  split
  · exact .inl ⟨_, rfl⟩
  next peer hknown =>
  split
  · exact .inl ⟨_, rfl⟩
  next basis hbasis =>
  rw [verifyMac_toList]
  split_ifs with hmac
  · exact .inl ⟨_, rfl⟩
  split
  · exact .inl ⟨_, rfl⟩
  next eph heph =>
  simp only [deriveSessionKeys_eq]
  split
  · exact .inl ⟨_, rfl⟩
  next payload hpayload =>
  refine .inr ⟨hello, peer, basis, eph, payload, ?_, heph, hpayload, rfl⟩
  exact ⟨⟨r, hslice, hread⟩, not_not.mp hversion, UInt64.not_lt.mp hstale, hknown, hbasis,
    by simpa using hmac⟩

/-- A HELLO_ACK that passes every check of `onHelloAck` for a pending handshake with `peer` under
the ephemeral `eph`, with the responder's ephemeral key. -/
structure HelloAckAuthentic (session : Session) (payload : Bytes) (peer : PeerKey)
    (eph : EphemeralKeypair) (ephPkI ephPkR : Key32) : Prop where
  peer_eq : session.peer = some peer
  eph_eq : session.eph = some eph
  ephPkI_eq : session.ephPkI = some ephPkI
  fields : ∃ r, MapReader.fromSlice payload = .ok r ∧ readHelloAck r =
    some (ephPkR, keyedMac (session.identity.dh peer.publicKey) (ackMacBasis ephPkR ephPkI))

/-- The keys the phone derives from a HELLO_ACK. -/
def phoneKeys (session : Session) (peer : PeerKey) (eph : EphemeralKeypair) (ephPkR : Key32) :
    SessionKeys :=
  sessionKeys (eph.dh ephPkR) (session.identity.dh ephPkR) (session.identity.dh peer.publicKey)
    session.identity.deviceId peer.deviceId

/-- The phone's session after it has accepted a HELLO_ACK. -/
def acknowledged (session : Session) (peer : PeerKey) (eph : EphemeralKeypair) (ephPkR : Key32) :
    Session :=
  let keys := session.phoneKeys peer eph ephPkR
  { session with channel := some (AeadChannel.new keys.p2c keys.c2p), state := .established }

theorem onHelloAck_authentic {session : Session} {frame : Frame} {peer : PeerKey}
    {eph : EphemeralKeypair} {ephPkI ephPkR : Key32}
    (h : session.HelloAckAuthentic frame.payload peer eph ephPkI ephPkR) :
    session.onHelloAck frame =
      (session.acknowledged peer eph ephPkR, [.emit (.established peer.deviceId)]) := by
  obtain ⟨r, hslice, hread⟩ := h.fields
  unfold onHelloAck
  simp only [hslice, hread, h.peer_eq, h.eph_eq, h.ephPkI_eq, verifyMac_toList, decide_true, Bool.not_true,
    Bool.false_eq_true, if_false, deriveSessionKeys_eq]
  simp only [acknowledged, phoneKeys, h.peer_eq, h.eph_eq, h.ephPkI_eq]

/-- A HELLO_ACK either is refused with a bare close or is authentic and completes the handshake. -/
theorem onHelloAck_cases (session : Session) (frame : Frame) :
    (∃ why, session.onHelloAck frame = ({ session with state := .closed }, [.close why])) ∨
    ∃ peer eph ephPkI ephPkR, session.HelloAckAuthentic frame.payload peer eph ephPkI ephPkR ∧
      session.onHelloAck frame =
        (session.acknowledged peer eph ephPkR, [.emit (.established peer.deviceId)]) := by
  unfold onHelloAck
  split
  · exact .inl ⟨_, rfl⟩
  next r hslice =>
  split
  · exact .inl ⟨_, rfl⟩
  next ephPkR mac hread =>
  split
  · next peer eph ephPkI hpeer heph hephPkI =>
    simp only [verifyMac_toList, deriveSessionKeys_eq]
    split_ifs with hmac
    · exact .inl ⟨_, rfl⟩
    refine .inr ⟨peer, eph, ephPkI, ephPkR, ⟨hpeer, heph, hephPkI, r, hslice, ?_⟩, rfl⟩
    rw [hread, show keyedMac _ _ = mac by simpa using hmac]
  · exact .inl ⟨_, rfl⟩

/-! ## One inbound frame -/

/-- The plaintext of a frame the session accepts: it is established and the frame opens. -/
def opens (session : Session) (frame : Frame) : Option Bytes :=
  match session.channel with
  | none => none
  | some channel =>
    if session.state = .established ∧ frame.ty.isEncrypted then
      (channel.openPayload frame.ty frame.payload).1.toOption
    else none

omit [Ciborium] in
theorem opens_eq_none {session : Session} (hstate : session.state ≠ .established) (frame : Frame) :
    session.opens frame = none := by
  unfold opens
  split <;> simp [hstate]

omit [Ciborium] in
theorem opens_eq_some {session : Session} {frame : Frame} {channel channel' : AeadChannel}
    {plain : Bytes} (hstate : session.state = .established) (hencrypted : frame.ty.isEncrypted)
    (hchannel : session.channel = some channel)
    (hopen : channel.openPayload frame.ty frame.payload = (.ok plain, channel')) :
    session.opens frame = some plain := by
  simp [opens, hchannel, hstate, hencrypted, hopen, Except.toOption]

/-- What a session does with an inbound frame: refuse it with a bare close, complete a handshake, or
open and answer it.  The clock is noted in every case but that of a session already closed. -/
inductive Reception (session : Session) (frame : Frame) (nowMs : UInt64) (seed : Option Key32) :
    Session × List SessionAction → Prop
  | refused (lastActivityMs : UInt64) (why : String) (hopens : session.opens frame = none) :
      Reception session frame nowMs seed
        ({ session with lastActivityMs, state := .closed }, [.close why])
  | greeted {hello : HelloFields} {peer : PeerKey} {basis payload : Bytes} {eph : EphemeralKeypair}
      (hstate : session.state = .awaitingHello) (hty : frame.ty = .hello)
      (hauth : session.HelloAuthentic frame.payload nowMs hello peer basis)
      (heph : Keypair.generate seed = .ok eph)
      (hpayload : (session.ackMap hello peer eph).toVec = .ok payload) :
      Reception session frame nowMs seed
        ({ session with lastActivityMs := nowMs }.greeted hello peer eph,
          [.send ⟨.helloAck, payload⟩, .emit (.established ⟨hello.id⟩)])
  | acknowledged {peer : PeerKey} {eph : EphemeralKeypair} {ephPkI ephPkR : Key32}
      (hstate : session.state = .awaitingHelloAck) (hty : frame.ty = .helloAck)
      (hauth : session.HelloAckAuthentic frame.payload peer eph ephPkI ephPkR) :
      Reception session frame nowMs seed
        ({ session with lastActivityMs := nowMs }.acknowledged peer eph ephPkR,
          [.emit (.established peer.deviceId)])
  | opened {channel channel' : AeadChannel} {plain : Bytes}
      (hstate : session.state = .established) (hencrypted : frame.ty.isEncrypted)
      (hchannel : session.channel = some channel)
      (hopen : channel.openPayload frame.ty frame.payload = (.ok plain, channel')) :
      Reception session frame nowMs seed
        (({ session with lastActivityMs := nowMs, channel := some channel' } : Session).onPlain
          frame.ty plain)

/-- What holds of every session from its opening on: a session waiting for the peer's handshake has
no channel, an established one has, and each role keeps to its own states. -/
structure Coherent (session : Session) : Prop where
  channel_none : session.state = .awaitingHello ∨ session.state = .awaitingHelloAck →
    session.channel = none
  channel_some : session.state = .established → ∃ channel, session.channel = some channel
  peer_none : session.state = .awaitingHello → session.peer = none
  phone : session.role = .phone → session.state ≠ .awaitingHello
  pc : session.role = .pc → session.state ≠ .awaitingHelloAck

theorem onFrame_cases {session : Session} (hcoherent : session.Coherent) (frame : Frame)
    (nowMs : UInt64) (seed : Option Key32) :
    session.Reception frame nowMs seed (session.onFrame frame nowMs seed) := by
  unfold onFrame
  by_cases hclosed : session.state = .closed
  · rw [if_pos hclosed]
    have hsame : session = { session with
      lastActivityMs := session.lastActivityMs, state := .closed } := by rw [← hclosed]
    nth_rewrite 2 [hsame]
    exact .refused _ _ (opens_eq_none (by simp [hclosed]) frame)
  rw [if_neg hclosed]
  dsimp only
  split
  · next hstate hty =>
    obtain ⟨why, h⟩ | ⟨hello, peer, basis, eph, payload, hauth, heph, hpayload, h⟩ :=
      onHello_cases { session with lastActivityMs := nowMs }
        (hcoherent.channel_none (.inl hstate)) frame nowMs seed
    · rw [h]
      exact .refused _ _ (opens_eq_none (by simp [hstate]) frame)
    · rw [h]
      exact .greeted hstate hty ⟨hauth.1, hauth.2, hauth.3, hauth.4, hauth.5, hauth.6⟩ heph hpayload
  · next hstate hty =>
    obtain ⟨why, h⟩ | ⟨peer, eph, ephPkI, ephPkR, hauth, h⟩ :=
      onHelloAck_cases { session with lastActivityMs := nowMs } frame
    · rw [h]
      exact .refused _ _ (opens_eq_none (by simp [hstate]) frame)
    · rw [h]
      exact .acknowledged hstate hty ⟨hauth.1, hauth.2, hauth.3, hauth.4⟩
  · next ty hstate =>
    split_ifs with hencrypted
    · obtain ⟨channel, hchannel⟩ := hcoherent.channel_some hstate
      unfold onEncrypted
      obtain ⟨failure, hopen⟩ | ⟨plain, -, -, -, hopen⟩ :=
        channel.openPayload_cases frame.ty frame.payload
      · simp only [hchannel, hopen]
        rw [← hchannel]
        exact .refused _ _ (by simp [opens, hchannel, hopen, Except.toOption])
      · simp only [hchannel, hopen]
        exact .opened hstate hencrypted hchannel hopen
    · exact .refused _ _ (by unfold opens; split <;> simp [hencrypted])
  · next hestablished _ _ => exact .refused _ _ (opens_eq_none hestablished frame)

/-! ## All calls -/

/-- The calls of the public interface, with the caller's random draws where one is made. -/
inductive Call where
  | pushClip (contentType : ContentType) (body : Bytes) (sourceName : String) (nowMs : UInt64)
      (randomId : Option (Octets 8))
  | pushClipWithId (clipId : Octets 8) (contentType : ContentType) (body : Bytes)
      (sourceName : String) (nowMs : UInt64)
  | requestStageList
  | requestStageItem (stageId : Octets 8)
  | sendStageList (items : List StageMeta)
  | sendStageItem (clip : StagedClip)
  | ping
  | setPaused (paused : Bool)
  | onFrame (frame : Frame) (nowMs : UInt64) (seed : Option Key32)
deriving DecidableEq

/-- The frame a call returned, if it did not fail. -/
def returned : Except Error Frame × Session → Session × List Frame
  | (.ok frame, session) => (session, [frame])
  | (.error _, session) => (session, [])

/-- Run one call, with the frames it hands to the transport. -/
def perform (session : Session) : Call → Session × List Frame
  | .pushClip contentType body sourceName nowMs randomId =>
    let result := session.pushClip contentType body sourceName nowMs randomId
    returned (result.1.map Prod.fst, result.2)
  | .pushClipWithId clipId contentType body sourceName nowMs =>
    returned (session.pushClipWithId clipId contentType body sourceName nowMs)
  | .requestStageList => returned session.requestStageList
  | .requestStageItem stageId => returned (session.requestStageItem stageId)
  | .sendStageList items => returned (session.sendStageList items)
  | .sendStageItem clip => returned (session.sendStageItem clip)
  | .ping => returned session.ping
  | .setPaused paused => (session.setPaused paused, [])
  | .onFrame frame nowMs seed =>
    let result := session.onFrame frame nowMs seed
    (result.1, sentFrames result.2)

/-- The frame a call accepts, with what it opens to. -/
def accepts (session : Session) : Call → List (Frame × Bytes)
  | .onFrame frame _ _ => (session.opens frame).toList.map fun plain ↦ (frame, plain)
  | _ => []

/-- The HELLO in a frame, if it has taken the session from waiting for one to established. -/
def helloAccepted (session later : Session) (frame : Frame) : Option HelloFields :=
  if session.state = .awaitingHello ∧ later.state = .established then
    (MapReader.fromSlice frame.payload).toOption.bind HelloFields.read
  else none

/-- The HELLO a call accepts. -/
def greeting (session : Session) : Call → Option HelloFields
  | .onFrame frame nowMs seed =>
    session.helloAccepted (session.onFrame frame nowMs seed).1 frame
  | _ => none

/-- Run calls one after the other, collecting the frames in order of production. -/
def performAll (session : Session) : List Call → Session × List Frame
  | [] => (session, [])
  | call :: calls =>
    let result := session.perform call
    let later := result.1.performAll calls
    (later.1, result.2 ++ later.2)

/-- What an outbound call or the pause switch does: the channel moves on by sealing what the returned
frame carries, and nothing else changes but the pause flag. -/
structure Outbound (session : Session) (result : Session × List Frame) : Prop where
  unchanged : result.1 =
    { session with channel := result.1.channel, paused := result.1.paused }
  sealing : ∃ items, Sealing session.channel items result.1.channel ∧
    items.map Prod.fst = result.2

omit [Ciborium] in
theorem outbound_sealFrame (session : Session) (ty : FrameType) (plain : Bytes)
    (hencrypted : ty.isEncrypted) : session.Outbound (returned (session.sealFrame ty plain)) := by
  obtain ⟨failure, h⟩ | ⟨channel, payload, channel', hchannel, hseal, h⟩ :=
    session.sealFrame_cases ty plain
  · rw [h]
    exact ⟨rfl, [], .idle _, rfl⟩
  · rw [h]
    exact ⟨rfl, _, by rw [hchannel]; exact .once hencrypted hseal, rfl⟩

theorem outbound_sealMap (session : Session) (ty : FrameType) (builder : MapBuilder)
    (hencrypted : ty.isEncrypted) : session.Outbound (returned (session.sealMap ty builder)) := by
  unfold sealMap
  split
  · exact ⟨rfl, [], .idle _, rfl⟩
  · exact session.outbound_sealFrame ty _ hencrypted

theorem outbound_pushClip (session : Session) (contentType : ContentType) (body : Bytes)
    (sourceName : String) (nowMs : UInt64) (randomId : Option (Octets 8)) :
    session.Outbound (returned
      ((session.pushClip contentType body sourceName nowMs randomId).1.map Prod.fst,
        (session.pushClip contentType body sourceName nowMs randomId).2)) := by
  unfold pushClip
  by_cases hlen : maxTextClip < body.length
  · rw [if_pos hlen]
    exact ⟨rfl, [], .idle _, rfl⟩
  rw [if_neg hlen]
  match randomId with
  | none => exact ⟨rfl, [], .idle _, rfl⟩
  | some clipId =>
    have hseal := session.outbound_sealMap .clipPush
      (clipPushMap clipId contentType body sourceName nowMs) rfl
    match hresult : session.sealMap .clipPush
      (clipPushMap clipId contentType body sourceName nowMs) with
    | (.error failure, session') =>
      rw [hresult] at hseal
      simp only [pushClipWithId, hresult]
      exact hseal
    | (.ok frame, session') =>
      rw [hresult] at hseal
      simp only [pushClipWithId, hresult]
      exact hseal

/-- A call is either outbound traffic or the reception of a frame. -/
theorem perform_cases {session : Session} (hcoherent : session.Coherent) (call : Call) :
    (session.Outbound (session.perform call) ∧ session.accepts call = [] ∧
      session.greeting call = none) ∨
    ∃ frame nowMs seed, call = .onFrame frame nowMs seed ∧
      session.Reception frame nowMs seed (session.onFrame frame nowMs seed) := by
  cases call with
  | pushClip contentType body sourceName nowMs randomId =>
    exact .inl ⟨session.outbound_pushClip contentType body sourceName nowMs randomId, rfl, rfl⟩
  | pushClipWithId => exact .inl ⟨session.outbound_sealMap _ _ rfl, rfl, rfl⟩
  | requestStageList => exact .inl ⟨session.outbound_sealMap _ _ rfl, rfl, rfl⟩
  | requestStageItem => exact .inl ⟨session.outbound_sealMap _ _ rfl, rfl, rfl⟩
  | sendStageList => exact .inl ⟨session.outbound_sealMap _ _ rfl, rfl, rfl⟩
  | sendStageItem => exact .inl ⟨session.outbound_sealMap _ _ rfl, rfl, rfl⟩
  | ping => exact .inl ⟨session.outbound_sealFrame _ _ rfl, rfl, rfl⟩
  | setPaused => exact .inl ⟨⟨rfl, [], .idle _, rfl⟩, rfl, rfl⟩
  | onFrame frame nowMs seed =>
    exact .inr ⟨frame, nowMs, seed, rfl, onFrame_cases hcoherent frame nowMs seed⟩

/-! ## Calls before and after the handshake -/

/-- What a call opens on a channel: nothing, or the encrypted frame it receives. -/
inductive Opening (channel : AeadChannel) : Call → List (Frame × Bytes) → AeadChannel → Prop
  | idle (call : Call) : Opening channel call [] channel
  | frame {frame : Frame} {nowMs : UInt64} {seed : Option Key32} {plain : Bytes}
      {opened : AeadChannel} (hencrypted : frame.ty.isEncrypted)
      (hopen : channel.openPayload frame.ty frame.payload = (.ok plain, opened)) :
      Opening channel (.onFrame frame nowMs seed) [(frame, plain)] opened

/-- With a channel, a call opens at most the frame it receives and then seals at most one reply. -/
theorem perform_channel {session : Session} (hcoherent : session.Coherent) {channel : AeadChannel}
    (hchannel : session.channel = some channel) (call : Call) :
    ∃ opened items later, Opening channel call (session.accepts call) opened ∧
      Sealing (some opened) items later ∧ (session.perform call).1.channel = later ∧
      items.map Prod.fst = ciphertexts (session.perform call).2 ∧
      (session.perform call).1.peer = session.peer := by
  obtain ⟨h, haccepts, -⟩ | ⟨frame, nowMs, seed, rfl, h⟩ := perform_cases hcoherent call
  · obtain ⟨items, hsealing, hitems⟩ := h.sealing
    rw [hchannel] at hsealing
    refine ⟨channel, items, _, ?_, hsealing, rfl, ?_, by rw [h.unchanged]⟩
    · rw [haccepts]
      exact .idle call
    · rw [← hitems, hsealing.ciphertexts_eq]
  change ∃ opened items later, Opening channel (.onFrame frame nowMs seed)
    ((session.opens frame).toList.map fun plain ↦ (frame, plain)) opened ∧
      Sealing (some opened) items later ∧ (session.onFrame frame nowMs seed).1.channel = later ∧
      items.map Prod.fst = ciphertexts (sentFrames (session.onFrame frame nowMs seed).2) ∧
      (session.onFrame frame nowMs seed).1.peer = session.peer
  generalize session.onFrame frame nowMs seed = result at h
  cases h with
  | refused lastActivityMs why hopens =>
    rw [hopens]
    exact ⟨channel, [], _, .idle _, .idle _, hchannel, rfl, rfl⟩
  | greeted hstate => exact absurd (hcoherent.channel_none (.inl hstate)) (by simp [hchannel])
  | acknowledged hstate => exact absurd (hcoherent.channel_none (.inr hstate)) (by simp [hchannel])
  | @opened channel₀ opened plain hstate hencrypted hchannel₀ hopen =>
    cases hchannel.symm.trans hchannel₀
    obtain ⟨items, hsealing, hitems⟩ := (onPlain_answers
      { session with lastActivityMs := nowMs, channel := some opened } frame.ty plain).sealing
    rw [opens_eq_some hstate hencrypted hchannel hopen]
    refine ⟨opened, items, _, .frame hencrypted hopen, hsealing, rfl, ?_, ?_⟩
    · rw [← hitems, hsealing.ciphertexts_eq]
    · rw [(onPlain_answers _ _ _).unchanged]

/-- What a call makes of a session without a channel: it still has none, or the call completes the
handshake of its role. -/
inductive Establishing (session : Session) : Call → Session → Option HelloFields → Prop
  | still {call : Call} {session' : Session} (hchannel : session'.channel = none)
      (hpeer : session'.peer = session.peer) :
      Establishing session call session' none
  | greeted {frame : Frame} {nowMs : UInt64} {seed : Option Key32} {hello : HelloFields}
      {peer : PeerKey} {basis : Bytes} {eph : EphemeralKeypair}
      (hstate : session.state = .awaitingHello) (hty : frame.ty = .hello)
      (hauth : session.HelloAuthentic frame.payload nowMs hello peer basis)
      (heph : Keypair.generate seed = .ok eph) :
      Establishing session (.onFrame frame nowMs seed)
        ({ session with lastActivityMs := nowMs }.greeted hello peer eph) (some hello)
  | acknowledged {frame : Frame} {nowMs : UInt64} {seed : Option Key32} {peer : PeerKey}
      {eph : EphemeralKeypair} {ephPkI ephPkR : Key32}
      (hstate : session.state = .awaitingHelloAck) (hty : frame.ty = .helloAck)
      (hauth : session.HelloAckAuthentic frame.payload peer eph ephPkI ephPkR) :
      Establishing session (.onFrame frame nowMs seed)
        ({ session with lastActivityMs := nowMs }.acknowledged peer eph ephPkR) none

/-- Without a channel nothing is accepted or sealed. -/
theorem perform_no_channel {session : Session} (hcoherent : session.Coherent)
    (hchannel : session.channel = none) (call : Call) :
    session.accepts call = [] ∧ ciphertexts (session.perform call).2 = [] ∧
      Establishing session call (session.perform call).1 (session.greeting call) := by
  obtain ⟨h, haccepts, hgreeting⟩ | ⟨frame, nowMs, seed, rfl, h⟩ := perform_cases hcoherent call
  · obtain ⟨items, hsealing, hitems⟩ := h.sealing
    rw [hchannel] at hsealing
    rw [haccepts, hgreeting, ← hitems]
    generalize hlater : (session.perform call).1.channel = later at hsealing
    cases hsealing
    exact ⟨rfl, rfl, .still hlater (by rw [h.unchanged])⟩
  have hstate : session.state ≠ .established := fun hstate ↦ by
    obtain ⟨channel, hsome⟩ := hcoherent.channel_some hstate
    rw [hchannel] at hsome
    cases hsome
  have haccepts : session.accepts (.onFrame frame nowMs seed) = [] := by
    rw [accepts, opens_eq_none hstate]
    rfl
  refine ⟨haccepts, ?_⟩
  change ciphertexts (sentFrames (session.onFrame frame nowMs seed).2) = [] ∧
    Establishing session _ (session.onFrame frame nowMs seed).1
      (session.helloAccepted (session.onFrame frame nowMs seed).1 frame)
  generalize session.onFrame frame nowMs seed = result at h
  cases h with
  | refused =>
    refine ⟨rfl, ?_⟩
    rw [helloAccepted, if_neg (by simp)]
    exact .still hchannel rfl
  | greeted hawaiting hty hauth heph hpayload =>
    refine ⟨rfl, ?_⟩
    obtain ⟨r, hslice, hread⟩ := hauth.fields
    rw [helloAccepted, if_pos ⟨hawaiting, rfl⟩, hslice, Except.toOption, Option.bind_some, hread]
    exact .greeted hawaiting hty hauth heph
  | acknowledged hawaiting hty hauth =>
    refine ⟨rfl, ?_⟩
    rw [helloAccepted, if_neg (by simp [hawaiting])]
    exact .acknowledged hawaiting hty hauth
  | opened hestablished => exact absurd hestablished hstate

/-! ## The invariant of a session -/

omit [Ciborium] in
theorem coherent_of_closed {session : Session} (hstate : session.state = .closed) :
    session.Coherent :=
  ⟨by simp [hstate], by simp [hstate], by simp [hstate], by simp [hstate], by simp [hstate]⟩

omit [Ciborium] in
theorem coherent_of_established {session : Session} {channel : AeadChannel}
    (hstate : session.state = .established) (hchannel : session.channel = some channel) :
    session.Coherent :=
  ⟨by simp [hstate], fun _ ↦ ⟨channel, hchannel⟩, by simp [hstate], by simp [hstate],
    by simp [hstate]⟩

omit [Ciborium] in
theorem Coherent.outbound {session : Session} (hcoherent : session.Coherent)
    {result : Session × List Frame} (h : session.Outbound result) : result.1.Coherent := by
  obtain ⟨items, hsealing, -⟩ := h.sealing
  have hsome := hsealing.isSome_iff
  have hchannel := hcoherent.channel_none
  have hestablished := hcoherent.channel_some
  rw [h.unchanged]
  refine ⟨fun hstate ↦ ?_, fun hstate ↦ ?_, hcoherent.peer_none, hcoherent.phone, hcoherent.pc⟩
  · rw [hchannel hstate] at hsome
    simpa using hsome
  · obtain ⟨channel, hchannel⟩ := hestablished hstate
    rw [hchannel] at hsome
    exact Option.isSome_iff_exists.mp (hsome.mpr rfl)

omit [Ciborium] in
theorem Coherent.answers {session : Session} (hcoherent : session.Coherent)
    {result : Session × List SessionAction} (h : session.Answers result) : result.1.Coherent := by
  obtain ⟨items, hsealing, -⟩ := h.sealing
  have hsome := hsealing.isSome_iff
  rw [h.unchanged]
  obtain hstate | hstate := h.state
  · rw [hstate]
    refine ⟨fun hstate ↦ ?_, fun hstate ↦ ?_, hcoherent.peer_none, hcoherent.phone, hcoherent.pc⟩
    · rw [hcoherent.channel_none hstate] at hsome
      simpa using hsome
    · obtain ⟨channel, hchannel⟩ := hcoherent.channel_some hstate
      rw [hchannel] at hsome
      exact Option.isSome_iff_exists.mp (hsome.mpr rfl)
  · exact coherent_of_closed hstate

theorem Reception.coherent {session : Session} {frame : Frame} {nowMs : UInt64}
    {seed : Option Key32} {result : Session × List SessionAction}
    (h : session.Reception frame nowMs seed result) : result.1.Coherent := by
  cases h with
  | refused => exact coherent_of_closed rfl
  | greeted hstate hty hauth heph hpayload => exact coherent_of_established rfl rfl
  | acknowledged hstate hty hauth => exact coherent_of_established rfl rfl
  | @opened channel channel' plain hstate hencrypted hchannel hopen =>
    have hopened : Coherent { session with lastActivityMs := nowMs, channel := some channel' } :=
      coherent_of_established hstate rfl
    exact hopened.answers (onPlain_answers _ _ _)

theorem Coherent.perform {session : Session} (hcoherent : session.Coherent) (call : Call) :
    (session.perform call).1.Coherent := by
  obtain ⟨h, -, -⟩ | ⟨frame, nowMs, seed, rfl, h⟩ := perform_cases hcoherent call
  · exact hcoherent.outbound h
  · exact h.coherent

theorem Coherent.performAll {session : Session} (hcoherent : session.Coherent)
    (calls : List Call) : (session.performAll calls).1.Coherent := by
  induction calls generalizing session with
  | nil => exact hcoherent
  | cons call calls ih => exact ih (hcoherent.perform call)

/-! ## What a session keeps -/

/-- The parts of a session no call changes: who it is, whom it may talk to and what it has sent in
its HELLO.  The phone also keeps its peer and its ephemeral. -/
structure SameParty (session session' : Session) : Prop where
  role : session'.role = session.role
  identity : session'.identity = session.identity
  knownPeers : session'.knownPeers = session.knownPeers
  ephPkI : session'.ephPkI = session.ephPkI
  phone : session.role = .phone → session'.peer = session.peer ∧ session'.eph = session.eph

omit [Ciborium] in
theorem SameParty.refl (session : Session) : session.SameParty session :=
  ⟨rfl, rfl, rfl, rfl, fun _ ↦ ⟨rfl, rfl⟩⟩

omit [Ciborium] in
theorem SameParty.trans {session session' session'' : Session} (h : session.SameParty session')
    (h' : session'.SameParty session'') : session.SameParty session'' where
  role := h'.role.trans h.role
  identity := h'.identity.trans h.identity
  knownPeers := h'.knownPeers.trans h.knownPeers
  ephPkI := h'.ephPkI.trans h.ephPkI
  phone hrole :=
    have hlater := h'.phone (h.role.trans hrole)
    ⟨hlater.1.trans (h.phone hrole).1, hlater.2.trans (h.phone hrole).2⟩

theorem Reception.sameParty {session : Session} (hcoherent : session.Coherent) {frame : Frame}
    {nowMs : UInt64} {seed : Option Key32} {result : Session × List SessionAction}
    (h : session.Reception frame nowMs seed result) : session.SameParty result.1 := by
  cases h with
  | refused => exact ⟨rfl, rfl, rfl, rfl, fun _ ↦ ⟨rfl, rfl⟩⟩
  | greeted hstate hty hauth heph hpayload =>
    exact ⟨rfl, rfl, rfl, rfl, fun hrole ↦ absurd hstate (hcoherent.phone hrole)⟩
  | acknowledged hstate hty hauth => exact ⟨rfl, rfl, rfl, rfl, fun _ ↦ ⟨rfl, rfl⟩⟩
  | @opened channel channel' plain hstate hencrypted hchannel hopen =>
    rw [(onPlain_answers _ _ _).unchanged]
    exact ⟨rfl, rfl, rfl, rfl, fun _ ↦ ⟨rfl, rfl⟩⟩

theorem perform_sameParty {session : Session} (hcoherent : session.Coherent) (call : Call) :
    session.SameParty (session.perform call).1 := by
  obtain ⟨h, -, -⟩ | ⟨frame, nowMs, seed, rfl, h⟩ := perform_cases hcoherent call
  · rw [h.unchanged]
    exact ⟨rfl, rfl, rfl, rfl, fun _ ↦ ⟨rfl, rfl⟩⟩
  · exact h.sameParty hcoherent

theorem performAll_sameParty {session : Session} (hcoherent : session.Coherent)
    (calls : List Call) : session.SameParty (session.performAll calls).1 := by
  induction calls generalizing session with
  | nil => exact .refl session
  | cons call calls ih => exact (perform_sameParty hcoherent call).trans (ih (hcoherent.perform call))

/-! ## Openings -/

omit [Ciborium] in
theorem newPc_coherent (identity : IdentityKeypair) (knownPeers : List PeerKey) (nowMs : UInt64) :
    (newPc identity knownPeers nowMs).Coherent :=
  ⟨fun _ ↦ rfl, by simp [newPc], fun _ ↦ rfl, by simp [newPc], by simp [newPc]⟩

/-- The session of a phone that has just sent its HELLO. -/
def phoneOpened (identity : IdentityKeypair) (peer : PeerKey) (nowMs : UInt64)
    (eph : EphemeralKeypair) : Session :=
  { role := .phone, identity, state := .awaitingHelloAck, knownPeers := [peer], peer := some peer,
    eph := some eph, ephPkI := some eph.publicBytes, channel := none, lastActivityMs := nowMs,
    paused := false }

theorem startPhone_opens {identity : IdentityKeypair} {peer : PeerKey} {nowMs : UInt64}
    {seed : Option Key32} {session : Session} {hello : Frame}
    (h : startPhone identity peer nowMs seed = .ok (session, hello)) :
    ∃ eph, Keypair.generate seed = .ok eph ∧
      startPhoneWithEphemeral identity peer nowMs eph = .ok (session, hello) := by
  unfold startPhone at h
  split at h
  · cases h
  · next heph => exact ⟨_, heph, h⟩

theorem startPhone_hello {identity : IdentityKeypair} {peer : PeerKey} {nowMs : UInt64}
    {eph : EphemeralKeypair} {session : Session} {hello : Frame}
    (h : startPhoneWithEphemeral identity peer nowMs eph = .ok (session, hello)) :
    hello.ty = .hello := by
  unfold startPhoneWithEphemeral at h
  dsimp only at h
  split at h
  · cases h
  · split at h
    · cases h
    · cases h
      rfl

theorem startPhone_session {identity : IdentityKeypair} {peer : PeerKey} {nowMs : UInt64}
    {eph : EphemeralKeypair} {session : Session} {hello : Frame}
    (h : startPhoneWithEphemeral identity peer nowMs eph = .ok (session, hello)) :
    session = phoneOpened identity peer nowMs eph := by
  unfold startPhoneWithEphemeral at h
  dsimp only at h
  split at h
  · cases h
  · split at h
    · cases h
    · cases h
      rfl

theorem startPhone_coherent {identity : IdentityKeypair} {peer : PeerKey} {nowMs : UInt64}
    {eph : EphemeralKeypair} {session : Session} {hello : Frame}
    (h : startPhoneWithEphemeral identity peer nowMs eph = .ok (session, hello)) :
    session.Coherent := by
  rw [startPhone_session h]
  exact ⟨fun _ ↦ rfl, by simp [phoneOpened], by simp [phoneOpened], by simp [phoneOpened],
    by simp [phoneOpened]⟩

end Session

end AirClip
