import AirClip.Core.Crypto
import AirClip.Core.CborMap
import AirClip.Core.Stage

/-!
# Session state machine

Handshake and encrypted traffic of one connection.  The machine is sans-io: `onFrame` returns the
actions the transport driver has to carry out, and the caller supplies the clock.  Randomness is an
argument too, `none` standing for a failing source.  The phone always opens with a HELLO and the
computer only ever answers.
-/

open Foundation Cbor

namespace AirClip

/-- HELLO timestamp acceptance window. -/
def helloTsWindowMs : UInt64 := 120000

def sessionIdleTimeoutMs : UInt64 := 60000

/-! ## CBOR keys -/

namespace SessionKey

def version : UInt64 := 1
def initiatorId : UInt64 := 2
def ephPkI : UInt64 := 3
def ts : UInt64 := 4
def helloMac : UInt64 := 5
def ephPkR : UInt64 := 1
def ackMac : UInt64 := 2
def clipId : UInt64 := 1
def contentType : UInt64 := 2
def body : UInt64 := 3
def createdAt : UInt64 := 4
def sourceName : UInt64 := 5
def ackClipId : UInt64 := 1
def ackStatus : UInt64 := 2
def stageItems : UInt64 := 1
def stageId : UInt64 := 1
def stageMetaId : UInt64 := 1
def stageMetaType : UInt64 := 2
def stageMetaPreview : UInt64 := 3
def stageMetaSize : UInt64 := 4
def stageMetaCopiedAt : UInt64 := 5
def itemId : UInt64 := 1
def itemType : UInt64 := 2
def itemBody : UInt64 := 3
def errCode : UInt64 := 1
def errMsg : UInt64 := 2

end SessionKey

/-- A paired peer's identity, as needed to authenticate a handshake. -/
structure PeerKey where
  deviceId : DeviceId
  publicKey : Key32
deriving DecidableEq

/-- Things the application above the session cares about. -/
inductive SessionEvent where
  | established (peer : DeviceId)
  | clipArrived (clipId : Octets 8) (contentType : ContentType) (body : Bytes) (sourceName : String)
      (createdAtMs : UInt64)
  | clipAcked (clipId : Octets 8) (status : UInt8)
  | stageListRequested
  | stageItemRequested (stageId : Octets 8)
  | stageList (items : List StageMeta)
  | stageItem (stageId : Octets 8) (contentType : ContentType) (body : Bytes)
  | peerError (code : UInt16) (msg : String)
deriving DecidableEq

/-- Instructions for the transport driver.  Any `send` before a `close` must still be flushed. -/
inductive SessionAction where
  | send (frame : Frame)
  | emit (event : SessionEvent)
  | close (why : String)
deriving DecidableEq

inductive SessionState where
  /-- Phone: HELLO sent, waiting for HELLO_ACK. -/
  | awaitingHelloAck
  /-- Computer: waiting for HELLO. -/
  | awaitingHello
  | established
  | closed
deriving DecidableEq

variable [Primitives] [Ciborium]

/-- One connection's protocol state. -/
structure Session where
  role : Role
  identity : IdentityKeypair
  state : SessionState
  knownPeers : List PeerKey
  peer : Option PeerKey
  eph : Option EphemeralKeypair
  /-- Phone role: our own HELLO ephemeral public key, needed to verify the ACK MAC. -/
  ephPkI : Option Key32
  channel : Option AeadChannel
  lastActivityMs : UInt64
  paused : Bool
deriving DecidableEq

/-- Canonical bytes the HELLO MAC covers: the map of exactly keys 1 to 4 in ascending order. -/
def helloMacBasis (initiator : DeviceId) (ephPkI : Key32) (ts : UInt64) : Except Error Bytes :=
  ((((MapBuilder.new.u64 SessionKey.version protocolVersion.toUInt64).bytes SessionKey.initiatorId
    initiator.bytes.toList).bytes SessionKey.ephPkI ephPkI.toList).u64 SessionKey.ts ts).toVec

/-- The bytes the HELLO_ACK MAC covers. -/
def ackMacBasis (ephPkR ephPkI : Key32) : Bytes := ephPkR.toList ++ ephPkI.toList

/-- `u64::abs_diff`. -/
def absDiff (left right : UInt64) : UInt64 := if left < right then right - left else left - right

/-- The content type of a decoded integer, if it fits a byte and is known. -/
def contentTypeOf (ct : UInt64) : Option ContentType :=
  if ct.toNat < 256 then (ContentType.tryFrom ct.toUInt8).toOption else none

namespace Session

/-! ## Opening a session -/

/-- Phone role: build the HELLO frame that opens a session. -/
def startPhoneWithEphemeral (identity : IdentityKeypair) (peer : PeerKey) (nowMs : UInt64)
    (eph : EphemeralKeypair) : Except Error (Session × Frame) :=
  let ssStatic := identity.dh peer.publicKey
  let ephPkI := eph.publicBytes
  match helloMacBasis identity.deviceId ephPkI nowMs with
  | .error failure => .error failure
  | .ok basis =>
    let mac := keyedMac ssStatic basis
    let payload := (((((MapBuilder.new.u64 SessionKey.version protocolVersion.toUInt64).bytes
      SessionKey.initiatorId identity.deviceId.bytes.toList).bytes SessionKey.ephPkI
      ephPkI.toList).u64 SessionKey.ts nowMs).bytes SessionKey.helloMac mac.toList).toVec
    match payload with
    | .error failure => .error failure
    | .ok payload =>
      .ok ({ role := .phone, identity, state := .awaitingHelloAck, knownPeers := [peer],
             peer := some peer, eph := some eph, ephPkI := some ephPkI, channel := none,
             lastActivityMs := nowMs, paused := false },
        ⟨.hello, payload⟩)

def startPhone (identity : IdentityKeypair) (peer : PeerKey) (nowMs : UInt64)
    (seed : Option Key32) : Except Error (Session × Frame) :=
  match Keypair.generate seed with
  | .error failure => .error failure
  | .ok eph => startPhoneWithEphemeral identity peer nowMs eph

/-- Computer role: wait for a HELLO from any of `knownPeers`. -/
def newPc (identity : IdentityKeypair) (knownPeers : List PeerKey) (nowMs : UInt64) : Session :=
  { role := .pc, identity, state := .awaitingHello, knownPeers, peer := none, eph := none,
    ephPkI := none, channel := none, lastActivityMs := nowMs, paused := false }

def peerId (session : Session) : Option DeviceId := session.peer.map PeerKey.deviceId

def setPaused (session : Session) (paused : Bool) : Session := { session with paused }

/-- Either side may close after the idle timeout; the clock difference saturates at zero. -/
def isIdle (session : Session) (nowMs : UInt64) : Bool :=
  let idle := if session.lastActivityMs ≤ nowMs then nowMs - session.lastActivityMs else 0
  sessionIdleTimeoutMs ≤ idle

/-! ## Closing -/

def fail (session : Session) (why : String) : Session × List SessionAction :=
  ({ session with state := .closed }, [.close why])

/-- Emit an ERROR frame, if there is a channel to encrypt it, then close. -/
def wireError (session : Session) (code : WireErrorCode) (msg : String) :
    Session × List SessionAction :=
  let payload := ((MapBuilder.new.u64 SessionKey.errCode code.toUInt16.toUInt64).text
    SessionKey.errMsg msg).toVec.toOption.getD []
  match session.channel with
  | none => ({ session with state := .closed }, [.close msg])
  | some channel =>
    match channel.sealPayload .error payload with
    | (.ok sealed, channel) =>
      ({ session with channel := some channel, state := .closed },
        [.send ⟨.error, sealed⟩, .close msg])
    | (.error _, channel) =>
      ({ session with channel := some channel, state := .closed }, [.close msg])

/-! ## Outbound -/

def sealFrame (session : Session) (ty : FrameType) (plain : Bytes) : Except Error Frame × Session :=
  match session.channel with
  | none => (.error .crypto, session)
  | some channel =>
    match channel.sealPayload ty plain with
    | (.error failure, channel) => (.error failure, { session with channel := some channel })
    | (.ok payload, channel) => (.ok ⟨ty, payload⟩, { session with channel := some channel })

/-- Seal the payload a builder encodes to, under one frame type. -/
def sealMap (session : Session) (ty : FrameType) (builder : MapBuilder) :
    Except Error Frame × Session :=
  match builder.toVec with
  | .error failure => (.error failure, session)
  | .ok payload => session.sealFrame ty payload

def clipPushMap (clipId : Octets 8) (contentType : ContentType) (body : Bytes) (sourceName : String)
    (nowMs : UInt64) : MapBuilder :=
  ((((MapBuilder.new.bytes SessionKey.clipId clipId.toList).u64 SessionKey.contentType
    contentType.toUInt8.toUInt64).bytes SessionKey.body body).u64 SessionKey.createdAt nowMs).text
    SessionKey.sourceName sourceName

def pushClipWithId (session : Session) (clipId : Octets 8) (contentType : ContentType)
    (body : Bytes) (sourceName : String) (nowMs : UInt64) : Except Error Frame × Session :=
  session.sealMap .clipPush (clipPushMap clipId contentType body sourceName nowMs)

/-- Build a CLIP_PUSH under a fresh random clip id, returned with the frame. -/
def pushClip (session : Session) (contentType : ContentType) (body : Bytes) (sourceName : String)
    (nowMs : UInt64) (randomId : Option (Octets 8)) : Except Error (Frame × Octets 8) × Session :=
  if maxTextClip < body.length then
    (.error (.frameTooLarge (UInt32.ofNat body.length)), session)
  else
    match randomId with
    | none => (.error .crypto, session)
    | some clipId =>
      match session.pushClipWithId clipId contentType body sourceName nowMs with
      | (.error failure, session) => (.error failure, session)
      | (.ok frame, session) => (.ok (frame, clipId), session)

def requestStageList (session : Session) : Except Error Frame × Session :=
  session.sealMap .stageListReq MapBuilder.new

def requestStageItem (session : Session) (stageId : Octets 8) : Except Error Frame × Session :=
  session.sealMap .stageGet (MapBuilder.new.bytes SessionKey.stageId stageId.toList)

def stageMetaMap (entry : StageMeta) : MapBuilder :=
  ((((MapBuilder.new.bytes SessionKey.stageMetaId entry.stageId.toList).u64 SessionKey.stageMetaType
    entry.contentType.toUInt8.toUInt64).text SessionKey.stageMetaPreview entry.preview).u64
    SessionKey.stageMetaSize entry.size.toUInt64).u64 SessionKey.stageMetaCopiedAt entry.copiedAtMs

/-- Computer role: answer a request for the staged list. -/
def sendStageList (session : Session) (items : List StageMeta) : Except Error Frame × Session :=
  let entries := items.map fun entry ↦ (stageMetaMap entry).build
  session.sealMap .stageList (MapBuilder.new.array SessionKey.stageItems entries)

/-- Computer role: answer a request for one staged body. -/
def sendStageItem (session : Session) (clip : StagedClip) : Except Error Frame × Session :=
  session.sealMap .stageItem (((MapBuilder.new.bytes SessionKey.itemId clip.stageId.toList).u64
    SessionKey.itemType clip.contentType.toUInt8.toUInt64).bytes SessionKey.itemBody clip.body)

def ping (session : Session) : Except Error Frame × Session := session.sealFrame .ping []

/-! ## Handshake -/

/-- The fields of a HELLO. -/
structure HelloFields where
  version : UInt64
  id : Octets 16
  ephPkI : Key32
  ts : UInt64
  mac : Key32
deriving DecidableEq

def HelloFields.read (r : MapReader) : Option HelloFields :=
  match r.u64 SessionKey.version, r.byteArray 16 SessionKey.initiatorId,
    r.byteArray 32 SessionKey.ephPkI, r.u64 SessionKey.ts, r.byteArray 32 SessionKey.helloMac with
  | .ok version, .ok id, .ok ephPkI, .ok ts, .ok mac => some ⟨version, id, ephPkI, ts, mac⟩
  | _, _, _, _, _ => none

def onHello (session : Session) (frame : Frame) (nowMs : UInt64) (seed : Option Key32) :
    Session × List SessionAction :=
  match MapReader.fromSlice frame.payload with
  | .error _ => session.fail "malformed HELLO"
  | .ok r =>
  match HelloFields.read r with
  | none => session.fail "malformed HELLO fields"
  | some hello =>
  if hello.version ≠ protocolVersion.toUInt64 then
    session.wireError .unsupportedVersion "unsupported version"
  -- A clock ahead of ours is just as suspicious as one behind.
  else if helloTsWindowMs < absDiff hello.ts nowMs then
    session.fail "HELLO timestamp outside replay window"
  else
  let initiator : DeviceId := ⟨hello.id⟩
  match session.knownPeers.find? fun p ↦ decide (p.deviceId = initiator) with
  | none => session.fail "HELLO from unpaired device"
  | some peer =>
  let ssStatic := session.identity.dh peer.publicKey
  match helloMacBasis initiator hello.ephPkI hello.ts with
  | .error _ => session.fail "failed to rebuild HELLO mac basis"
  | .ok basis =>
  if !verifyMac ssStatic basis hello.mac.toList then session.fail "HELLO mac mismatch"
  else
  match Keypair.generate seed with
  | .error _ => session.fail "ephemeral keygen failed"
  | .ok eph =>
  let ephPkR := eph.publicBytes
  let ackMac := keyedMac ssStatic (ackMacBasis ephPkR hello.ephPkI)
  let ssEe := eph.dh hello.ephPkI
  let ssSi := eph.dh peer.publicKey
  match deriveSessionKeys ssEe ssSi ssStatic initiator session.identity.deviceId with
  | .error _ => session.fail "key derivation failed"
  | .ok keys =>
  match ((MapBuilder.new.bytes SessionKey.ephPkR ephPkR.toList).bytes SessionKey.ackMac
    ackMac.toList).toVec with
  | .error _ => session.fail "failed to encode HELLO_ACK"
  | .ok payload =>
  -- The computer transmits on c2p and receives on p2c.
  ({ session with
      channel := some (AeadChannel.new keys.c2p keys.p2c)
      peer := some peer
      eph := some eph
      state := .established },
    [.send ⟨.helloAck, payload⟩, .emit (.established initiator)])

/-- The fields of a HELLO_ACK: the responder's ephemeral key and the MAC. -/
def readHelloAck (r : MapReader) : Option (Key32 × Key32) :=
  match r.byteArray 32 SessionKey.ephPkR, r.byteArray 32 SessionKey.ackMac with
  | .ok ephPkR, .ok mac => some (ephPkR, mac)
  | _, _ => none

def onHelloAck (session : Session) (frame : Frame) : Session × List SessionAction :=
  match MapReader.fromSlice frame.payload with
  | .error _ => session.fail "malformed HELLO_ACK"
  | .ok r =>
  match readHelloAck r with
  | none => session.fail "malformed HELLO_ACK fields"
  | some (ephPkR, mac) =>
  match session.peer, session.eph, session.ephPkI with
  | some peer, some eph, some ephPkI =>
    let ssStatic := session.identity.dh peer.publicKey
    -- Proves the responder holds the computer's identity key.
    if !verifyMac ssStatic (ackMacBasis ephPkR ephPkI) mac.toList then
      session.fail "HELLO_ACK mac mismatch"
    else
    let ssEe := eph.dh ephPkR
    let ssSi := session.identity.dh ephPkR
    match deriveSessionKeys ssEe ssSi ssStatic session.identity.deviceId peer.deviceId with
    | .error _ => session.fail "key derivation failed"
    | .ok keys =>
    -- The phone transmits on p2c and receives on c2p.
    ({ session with
        channel := some (AeadChannel.new keys.p2c keys.c2p)
        state := .established },
      [.emit (.established peer.deviceId)])
  | _, _, _ => session.fail "HELLO_ACK without pending handshake"

/-! ## Encrypted traffic -/

/-- The mandatory fields of a CLIP_PUSH: id, content type and body. -/
def readClipPush (r : MapReader) : Option (Octets 8 × UInt64 × Bytes) :=
  match r.byteArray 8 SessionKey.clipId, r.u64 SessionKey.contentType, r.bytes SessionKey.body with
  | .ok clipId, .ok ct, .ok body => some (clipId, ct, body)
  | _, _, _ => none

def clipAckMap (clipId : Octets 8) : MapBuilder :=
  (MapBuilder.new.bytes SessionKey.ackClipId clipId.toList).u64 SessionKey.ackStatus 0

def onClipPush (session : Session) (plain : Bytes) : Session × List SessionAction :=
  match MapReader.fromSlice plain with
  | .error _ => session.fail "malformed CLIP_PUSH"
  | .ok r =>
  match readClipPush r with
  | none => session.fail "malformed CLIP_PUSH fields"
  | some (clipId, ct, body) =>
  let createdAtMs := (r.u64 SessionKey.createdAt).toOption.getD 0
  let sourceName := (r.text SessionKey.sourceName).toOption.getD ""
  if session.paused then session.wireError .rateLimited "beaming paused"
  else if maxTextClip < body.length then
    session.wireError .frameTooLarge "clip exceeds MAX_TEXT_CLIP"
  else
  match contentTypeOf ct with
  | none => session.fail "unknown content type"
  | some contentType =>
  match (clipAckMap clipId).toVec with
  | .error _ => session.fail "failed to encode CLIP_ACK"
  | .ok ack =>
  match session.sealFrame .clipAck ack with
  | (.error _, session) => session.fail "failed to seal CLIP_ACK"
  | (.ok ackFrame, session) =>
  (session, [.emit (.clipArrived clipId contentType body sourceName createdAtMs), .send ackFrame])

def onClipAck (session : Session) (plain : Bytes) : Session × List SessionAction :=
  match MapReader.fromSlice plain with
  | .error _ => session.fail "malformed CLIP_ACK"
  | .ok r =>
  match r.byteArray 8 SessionKey.ackClipId with
  | .error _ => session.fail "malformed CLIP_ACK id"
  | .ok clipId =>
  let status := ((r.u64 SessionKey.ackStatus).toOption.getD 0).toUInt8
  (session, [.emit (.clipAcked clipId status)])

def onStageGet (session : Session) (plain : Bytes) : Session × List SessionAction :=
  match MapReader.fromSlice plain with
  | .error _ => session.fail "malformed STAGE_GET"
  | .ok r =>
  match r.byteArray 8 SessionKey.stageId with
  | .error _ => session.fail "malformed STAGE_GET id"
  | .ok stageId => (session, [.emit (.stageItemRequested stageId)])

/-- One entry of a STAGE_LIST; the error is the reason the session closes with. -/
def readStageMeta (v : Value) : Except String StageMeta :=
  match MapReader.fromValue v with
  | .error _ => .error "malformed STAGE_LIST entry"
  | .ok m =>
  match m.byteArray 8 SessionKey.stageMetaId, m.u64 SessionKey.stageMetaType,
    m.text SessionKey.stageMetaPreview, m.u64 SessionKey.stageMetaSize,
    m.u64 SessionKey.stageMetaCopiedAt with
  | .ok stageId, .ok ct, .ok preview, .ok size, .ok copiedAtMs =>
    match contentTypeOf ct with
    | none => .error "unknown content type in STAGE_LIST"
    | some contentType => .ok ⟨stageId, contentType, preview, size.toUInt32, copiedAtMs⟩
  | _, _, _, _, _ => .error "malformed STAGE_LIST entry fields"

def onStageList (session : Session) (plain : Bytes) : Session × List SessionAction :=
  match MapReader.fromSlice plain with
  | .error _ => session.fail "malformed STAGE_LIST"
  | .ok r =>
  match r.array SessionKey.stageItems with
  | .error _ => session.fail "malformed STAGE_LIST array"
  | .ok items =>
  match items.mapM readStageMeta with
  | .error why => session.fail why
  | .ok out => (session, [.emit (.stageList out)])

/-- The fields of a STAGE_ITEM: id, content type and body. -/
def readStageItem (r : MapReader) : Option (Octets 8 × UInt64 × Bytes) :=
  match r.byteArray 8 SessionKey.itemId, r.u64 SessionKey.itemType, r.bytes SessionKey.itemBody with
  | .ok stageId, .ok ct, .ok body => some (stageId, ct, body)
  | _, _, _ => none

def onStageItem (session : Session) (plain : Bytes) : Session × List SessionAction :=
  match MapReader.fromSlice plain with
  | .error _ => session.fail "malformed STAGE_ITEM"
  | .ok r =>
  match readStageItem r with
  | none => session.fail "malformed STAGE_ITEM fields"
  | some (stageId, ct, body) =>
  match contentTypeOf ct with
  | none => session.fail "unknown content type in STAGE_ITEM"
  | some contentType => (session, [.emit (.stageItem stageId contentType body)])

/-- A malformed ERROR still counts as one, with code 0 and no message. -/
def onError (session : Session) (plain : Bytes) : Session × List SessionAction :=
  let (code, msg) :=
    match MapReader.fromSlice plain with
    | .error _ => (0, "")
    | .ok r =>
      (((r.u64 SessionKey.errCode).toOption.getD 0).toUInt16,
        (r.text SessionKey.errMsg).toOption.getD "")
  ({ session with state := .closed }, [.emit (.peerError code msg), .close "peer sent ERROR"])

def onPing (session : Session) : Session × List SessionAction :=
  match session.sealFrame .pong [] with
  | (.ok frame, session) => (session, [.send frame])
  | (.error _, session) => session.fail "failed to seal PONG"

/-- What an opened frame does, by its type. -/
def onPlain (session : Session) (ty : FrameType) (plain : Bytes) : Session × List SessionAction :=
  match ty with
  | .clipPush => session.onClipPush plain
  | .clipAck => session.onClipAck plain
  | .stageListReq => (session, [.emit .stageListRequested])
  | .stageList => session.onStageList plain
  | .stageGet => session.onStageGet plain
  | .stageItem => session.onStageItem plain
  | .ping => session.onPing
  | .pong => (session, [])
  | .error => session.onError plain
  | _ => session.fail "unhandled encrypted frame type"

/-- An open failure covers replay, tampering and reuse under another type. -/
def onEncrypted (session : Session) (frame : Frame) : Session × List SessionAction :=
  match session.channel with
  | none => session.fail "encrypted frame before handshake"
  | some channel =>
    match channel.openPayload frame.ty frame.payload with
    | (.error _, channel) => { session with channel := some channel }.fail "AEAD open failed"
    | (.ok plain, channel) => { session with channel := some channel }.onPlain frame.ty plain

def onFrame (session : Session) (frame : Frame) (nowMs : UInt64) (seed : Option Key32) :
    Session × List SessionAction :=
  if session.state = .closed then (session, [.close "frame after close"])
  else
    let session := { session with lastActivityMs := nowMs }
    match session.state, frame.ty with
    | .awaitingHello, .hello => session.onHello frame nowMs seed
    | .awaitingHelloAck, .helloAck => session.onHelloAck frame
    | .established, ty =>
      if ty.isEncrypted then session.onEncrypted frame
      else session.fail "unexpected frame for session state"
    | _, _ => session.fail "unexpected frame for session state"

end Session

end AirClip
