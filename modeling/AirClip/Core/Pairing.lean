import AirClip.Core.Crypto
import AirClip.Core.CborMap
import AirClip.Foundation.TextEncoding

/-!
# Pairing

Both roles of the pairing exchange, the QR code that starts it and the record it leaves behind.  The
machines are sans-io: `onFrame` returns the actions the caller has to carry out.  The `hex`, `base64`
and `url` crates are parameters, with the laws the proofs rely on; percent encoding and the reading
of queries are those of `Foundation.TextEncoding`.
-/

open Foundation Cbor

namespace AirClip

/-- Pair-token lifetime. -/
def pairTokenTtlMs : UInt64 := 10 * 60 * 1000

def qrScheme : String := "airclip"

/-- What the `url` crate tells about a parsed URL. -/
structure Url where
  scheme : String
  hostStr : Option String
  query : Option String
deriving DecidableEq

namespace Url

/-- `form_urlencoded` applied to the query, which may be missing. -/
def queryPairs (url : Url) : List (String × String) := formParse (utf8 (url.query.getD ""))

end Url

/-- The functions of the text codec crates. -/
class TextCodecs where
  /-- `hex::decode`. -/
  hexDecode : String → Except String Bytes
  /-- `BASE64_URL_SAFE_NO_PAD`. -/
  base64Encode : Bytes → String
  base64Decode : String → Except String Bytes
  urlParse : String → Except String Url

/-- The decoders invert their encoders, base64url keeps to its alphabet, and the query of a pairing
URL is taken as it stands if it has nothing in it but unreserved characters, percent signs and the
two separators. -/
class TextCodecs.Lawful [TextCodecs] : Prop where
  hexDecode_hexEncode : ∀ bytes, TextCodecs.hexDecode (latin1 (hexEncode bytes)) = .ok bytes
  base64Decode_base64Encode : ∀ bytes,
    TextCodecs.base64Decode (TextCodecs.base64Encode bytes) = .ok bytes
  base64Encode_unreserved : ∀ bytes, ∀ byte ∈ utf8 (TextCodecs.base64Encode bytes),
    isUnreserved byte
  urlParse_query : ∀ query : String, (∀ byte ∈ utf8 query, isQuery byte) →
    TextCodecs.urlParse ("airclip://pair?" ++ query) = .ok ⟨"airclip", some "pair", some query⟩

/-! ## CBOR keys -/

namespace PairingKey

def pairToken : UInt64 := 1
def deviceId : UInt64 := 2
def pkId : UInt64 := 3
def displayName : UInt64 := 4
def ephPk : UInt64 := 5
def ackEphPk : UInt64 := 1
def confirmMac : UInt64 := 1

end PairingKey

def DeviceId.hex (id : DeviceId) : String := latin1 (hexEncode id.bytes.toList)

/-! ## Pairing records -/

/-- A persisted pairing: the device id in hex, the public key in base64url. -/
structure PairingRecord where
  deviceId : String
  publicKey : String
  displayName : String
  createdAtMs : UInt64
  lastSeenMs : UInt64
deriving DecidableEq

section Records

variable [TextCodecs]

namespace PairingRecord

def new (deviceId : DeviceId) (pk : Key32) (name : String) (nowMs : UInt64) : PairingRecord :=
  { deviceId := deviceId.hex, publicKey := TextCodecs.base64Encode pk.toList, displayName := name,
    createdAtMs := nowMs, lastSeenMs := nowMs }

def publicKeyBytes (record : PairingRecord) : Except Error Key32 :=
  match TextCodecs.base64Decode record.publicKey with
  | .error _ => .error (.cbor "pairing record: bad base64 public key")
  | .ok raw =>
    match Octets.ofBytes? 32 raw with
    | some pk => .ok pk
    | none => .error (.cbor "pairing record: public key must be 32 bytes")

def deviceIdBytes (record : PairingRecord) : Except Error DeviceId :=
  match TextCodecs.hexDecode record.deviceId with
  | .error _ => .error (.cbor "pairing record: bad hex device id")
  | .ok raw =>
    match Octets.ofBytes? 16 raw with
    | some id => .ok ⟨id⟩
    | none => .error (.cbor "pairing record: device id must be 16 bytes")

variable [TextCodecs.Lawful]

@[simp]
theorem publicKeyBytes_new (deviceId : DeviceId) (pk : Key32) (name : String) (nowMs : UInt64) :
    (new deviceId pk name nowMs).publicKeyBytes = .ok pk := by
  rw [publicKeyBytes, new]
  simp only [TextCodecs.Lawful.base64Decode_base64Encode, Octets.ofBytes?_toList]

@[simp]
theorem deviceIdBytes_new (deviceId : DeviceId) (pk : Key32) (name : String) (nowMs : UInt64) :
    (new deviceId pk name nowMs).deviceIdBytes = .ok deviceId := by
  rw [deviceIdBytes, new, DeviceId.hex]
  simp only [TextCodecs.Lawful.hexDecode_hexEncode, Octets.ofBytes?_toList]

end PairingRecord

end Records

/-! ## QR payloads -/

/-- The contents of a pairing URL. -/
structure QrPayload where
  version : UInt8
  deviceId : DeviceId
  publicKey : Key32
  displayName : String
  /-- `ip:port` candidates, in the order the computer advertised them. -/
  hosts : List String
  pairToken : Octets 16
deriving DecidableEq

/-- Every byte that is not unreserved becomes a percent sign and two upper-case digits. -/
def urlencode (content : String) : String := latin1 (percentEncode (utf8 content))

/-- `str::split(',')` without the empty pieces. -/
def splitComma (content : String) : List String :=
  ((content.toList.splitOn ',').map String.ofList).filter (· ≠ "")

/-- `str::parse::<u8>()`: digits, with an optional plus sign in front, below 256. -/
def parseU8 (content : String) : Option UInt8 :=
  let digits := if content.toList.head? = some '+' then content.toList.tail else content.toList
  if !digits.isEmpty && digits.all Char.isDigit then
    let value := digits.foldl (fun value c ↦ 10 * value + (c.toNat - 48)) 0
    if value < 256 then some (UInt8.ofNat value) else none
  else none

section Qr

variable [TextCodecs]

namespace QrPayload

/-- The field order is that of the protocol document. -/
def toUrl (qr : QrPayload) : String :=
  qrScheme ++ "://pair?v=" ++ toString qr.version.toNat ++ "&id=" ++ qr.deviceId.hex ++
    "&pk=" ++ TextCodecs.base64Encode qr.publicKey.toList ++ "&nm=" ++ urlencode qr.displayName ++
    "&hosts=" ++ urlencode (",".intercalate qr.hosts) ++
    "&tok=" ++ TextCodecs.base64Encode qr.pairToken.toList

/-- What has been read from the query so far. -/
structure Fields where
  version : Option UInt8
  deviceId : Option DeviceId
  publicKey : Option Key32
  displayName : String
  hosts : List String
  pairToken : Option (Octets 16)

/-- The first error of the two: undecodable text, or text of the wrong length. -/
def decodeField (decode : String → Except String Bytes) (width : ℕ) (badText badWidth : String)
    (v : String) : Except Error (Octets width) :=
  match decode v with
  | .error _ => .error (.cbor badText)
  | .ok raw =>
    match Octets.ofBytes? width raw with
    | some array => .ok array
    | none => .error (.cbor badWidth)

/-- One parameter of the query; unknown ones are ignored. -/
def readPair (fields : Fields) (k v : String) : Except Error Fields :=
  match k with
  | "v" => .ok { fields with version := parseU8 v }
  | "id" =>
    (decodeField TextCodecs.hexDecode 16 "QR url: bad id hex" "QR url: id must be 16 bytes" v).map
      fun id ↦ { fields with deviceId := some ⟨id⟩ }
  | "pk" =>
    (decodeField TextCodecs.base64Decode 32 "QR url: bad pk base64" "QR url: pk must be 32 bytes"
      v).map fun pk ↦ { fields with publicKey := some pk }
  | "nm" => .ok { fields with displayName := v }
  | "hosts" => .ok { fields with hosts := splitComma v }
  | "tok" =>
    (decodeField TextCodecs.base64Decode 16 "QR url: bad token base64"
      "QR url: token must be 16 bytes" v).map fun token ↦ { fields with pairToken := some token }
  | _ => .ok fields

/-- The parameters in order; the first error ends the loop. -/
def readPairs : Fields → List (String × String) → Except Error Fields
  | fields, [] => .ok fields
  | fields, (k, v) :: pairs =>
    match readPair fields k v with
    | .error failure => .error failure
    | .ok fields => readPairs fields pairs

variable [Primitives]

/-- The checks behind the loop. -/
def finish (fields : Fields) : Except Error QrPayload :=
  match fields.version with
  | none => .error (.cbor "QR url: missing v")
  | some version =>
  if version ≠ protocolVersion then
    .error (.cbor s!"QR url: unsupported version {version.toNat}")
  else
  match fields.deviceId with
  | none => .error (.cbor "QR url: missing id")
  | some deviceId =>
  match fields.publicKey with
  | none => .error (.cbor "QR url: missing pk")
  | some publicKey =>
  match fields.pairToken with
  | none => .error (.cbor "QR url: missing tok")
  | some pairToken =>
  -- The code carries both; a mismatch means a malformed or tampered one.
  if deviceIdFromPk publicKey ≠ deviceId then .error (.cbor "QR url: id does not match pk")
  else .ok { version, deviceId, publicKey, displayName := fields.displayName,
             hosts := fields.hosts, pairToken }

def parse (url : String) : Except Error QrPayload :=
  match TextCodecs.urlParse url with
  | .error message => .error (.cbor s!"bad QR url: {message}")
  | .ok u =>
    if u.scheme ≠ qrScheme then .error (.cbor "QR url: wrong scheme")
    else if u.hostStr ≠ some "pair" then .error (.cbor "QR url: expected airclip://pair")
    else
      match readPairs ⟨none, none, none, "", [], none⟩ u.queryPairs with
      | .error failure => .error failure
      | .ok fields => finish fields

/-- A code that is accepted carries the device id of its public key. -/
theorem parse_deviceId {url : String} {qr : QrPayload} (h : parse url = .ok qr) :
    qr.deviceId = deviceIdFromPk qr.publicKey := by
  have hfinish : ∀ fields, finish fields = .ok qr → qr.deviceId = deviceIdFromPk qr.publicKey := by
    intro fields hok
    unfold finish at hok
    split at hok
    · cases hok
    split_ifs at hok
    split at hok
    · cases hok
    split at hok
    · cases hok
    split at hok
    · cases hok
    split_ifs at hok with hid
    cases hok
    exact (not_not.mp hid).symm
  unfold parse at h
  split at h
  · cases h
  split_ifs at h
  split at h
  · cases h
  · exact hfinish _ h

end QrPayload

end Qr

/-! ## Actions -/

/-- What the caller must do next. -/
inductive PairingAction where
  | send (frame : Frame)
  /-- Show these emoji and ask the user to compare. -/
  | showSas (emoji : List.Vector String 4)
  /-- Pairing succeeded; persist this record. -/
  | completed (record : PairingRecord)
  | failed (reason : String)
deriving DecidableEq

/-! ## Computer role -/

inductive PcState where
  | awaitingReq
  | awaitingConfirm
  | done
  | failed
deriving DecidableEq

structure PeerHandshake where
  deviceId : DeviceId
  pk : Key32
  displayName : String
deriving DecidableEq

section Machines

variable [Primitives]

/-- Computer side of pairing: displays the QR code, validates the token, shows the SAS, verifies the
confirming MAC. -/
structure PcPairing where
  identity : IdentityKeypair
  displayName : String
  hosts : List String
  token : Octets 16
  issuedMs : UInt64
  ttlMs : UInt64
  tokenUsed : Bool
  state : PcState
  eph : Option EphemeralKeypair
  peer : Option PeerHandshake
  sasInput : Option Bytes
deriving DecidableEq

/-- `u64::saturating_sub`. -/
def saturatingSub (left right : UInt64) : UInt64 := if right ≤ left then left - right else 0

namespace PcPairing

def withToken (identity : IdentityKeypair) (displayName : String) (hosts : List String)
    (token : Octets 16) (nowMs : UInt64) : PcPairing :=
  { identity, displayName, hosts, token, issuedMs := nowMs, ttlMs := pairTokenTtlMs,
    tokenUsed := false, state := .awaitingReq, eph := none, peer := none, sasInput := none }

/-- The token comes from the system's random source, which may fail. -/
def new (identity : IdentityKeypair) (displayName : String) (hosts : List String) (nowMs : UInt64)
    (randomToken : Option (Octets 16)) : Except Error PcPairing :=
  match randomToken with
  | none => .error .crypto
  | some token => .ok (withToken identity displayName hosts token nowMs)

def qrPayload (pairing : PcPairing) : QrPayload :=
  { version := protocolVersion, deviceId := pairing.identity.deviceId,
    publicKey := pairing.identity.publicBytes, displayName := pairing.displayName,
    hosts := pairing.hosts, pairToken := pairing.token }

def qrUrl [TextCodecs] (pairing : PcPairing) : String := pairing.qrPayload.toUrl

def tokenValid (pairing : PcPairing) (presented : Octets 16) (nowMs : UInt64) : Option String :=
  if presented ≠ pairing.token then some "bad pair token"
  else if pairing.tokenUsed then some "pair token already used"
  else if pairing.ttlMs < saturatingSub nowMs pairing.issuedMs then some "pair token expired"
  else none

def fail (pairing : PcPairing) (msg : String) : PcPairing × List PairingAction :=
  ({ pairing with state := .failed }, [.failed msg])

/-- The mandatory fields of a PAIR_REQ. -/
structure ReqFields where
  token : Octets 16
  peerId : Octets 16
  peerPk : Key32
  ephPkI : Key32
deriving DecidableEq

def ReqFields.read (r : MapReader) : Option ReqFields :=
  match r.byteArray 16 PairingKey.pairToken, r.byteArray 16 PairingKey.deviceId,
    r.byteArray 32 PairingKey.pkId, r.byteArray 32 PairingKey.ephPk with
  | .ok token, .ok peerId, .ok peerPk, .ok ephPkI => some ⟨token, peerId, peerPk, ephPkI⟩
  | _, _, _, _ => none

variable [Ciborium]

def onPairReq (pairing : PcPairing) (frame : Frame) (nowMs : UInt64) (seed : Option Key32) :
    PcPairing × List PairingAction :=
  match MapReader.fromSlice frame.payload with
  | .error _ => pairing.fail "malformed PAIR_REQ"
  | .ok r =>
  match ReqFields.read r with
  | none => pairing.fail "malformed PAIR_REQ fields"
  | some req =>
  let peerName := (r.text PairingKey.displayName).toOption.getD "iPhone"
  match pairing.tokenValid req.token nowMs with
  | some reason => pairing.fail reason
  | none =>
  if deviceIdFromPk req.peerPk ≠ ⟨req.peerId⟩ then
    pairing.fail "PAIR_REQ device id does not match public key"
  else
  let pairing := { pairing with tokenUsed := true }
  match Keypair.generate seed with
  | .error _ => pairing.fail "ephemeral keygen failed"
  | .ok eph =>
  let ssEph := eph.dh req.ephPkI
  let input := AirClip.sasInput ssEph req.peerPk pairing.identity.publicBytes pairing.token
  let sas := sasEmoji (sasDigest input)
  match (MapBuilder.new.bytes PairingKey.ackEphPk eph.publicBytes.toList).toVec with
  | .error _ => pairing.fail "failed to encode PAIR_ACK"
  | .ok ack =>
  ({ pairing with
      eph := some eph
      peer := some ⟨⟨req.peerId⟩, req.peerPk, peerName⟩
      sasInput := some input
      state := .awaitingConfirm },
    [.send ⟨.pairAck, ack⟩, .showSas sas])

def onConfirm [TextCodecs] (pairing : PcPairing) (frame : Frame) (nowMs : UInt64) :
    PcPairing × List PairingAction :=
  match MapReader.fromSlice frame.payload with
  | .error _ => pairing.fail "malformed PAIR_CONFIRM"
  | .ok r =>
  match r.byteArray 32 PairingKey.confirmMac with
  | .error _ => pairing.fail "malformed PAIR_CONFIRM mac"
  | .ok mac =>
  match pairing.peer, pairing.sasInput with
  | some peer, some sasInput =>
    -- The mirror of the phone's computation.
    let k := pairing.identity.dh peer.pk
    if !verifyMac k sasInput mac.toList then pairing.fail "PAIR_CONFIRM mac mismatch"
    else
      ({ pairing with state := .done },
        [.completed (.new peer.deviceId peer.pk peer.displayName nowMs)])
  | _, _ => pairing.fail "confirm without request"

def onFrame [TextCodecs] (pairing : PcPairing) (frame : Frame) (nowMs : UInt64)
    (seed : Option Key32) : PcPairing × List PairingAction :=
  match pairing.state, frame.ty with
  | .awaitingReq, .pairReq => pairing.onPairReq frame nowMs seed
  | .awaitingConfirm, .pairConfirm => pairing.onConfirm frame nowMs
  | _, _ => pairing.fail "unexpected frame for pairing state"

def isDone (pairing : PcPairing) : Bool := pairing.state = .done

end PcPairing

/-! ## Phone role -/

inductive PhoneState where
  | awaitingAck
  | awaitingUserConfirm
  | done
  | failed
deriving DecidableEq

/-- Phone side of pairing: scans the QR code, sends PAIR_REQ, shows the SAS, and only after the user
confirms sends PAIR_CONFIRM. -/
structure PhonePairing where
  identity : IdentityKeypair
  displayName : String
  qr : QrPayload
  eph : EphemeralKeypair
  state : PhoneState
  sasInput : Option Bytes
deriving DecidableEq

namespace PhonePairing

variable [Ciborium]

/-- Build the initial PAIR_REQ. -/
def startWithEphemeral (identity : IdentityKeypair) (displayName : String) (qr : QrPayload)
    (eph : EphemeralKeypair) : Except Error (PhonePairing × Frame) :=
  match (((((MapBuilder.new.bytes PairingKey.pairToken qr.pairToken.toList).bytes
    PairingKey.deviceId identity.deviceId.bytes.toList).bytes PairingKey.pkId
    identity.publicBytes.toList).text PairingKey.displayName displayName).bytes PairingKey.ephPk
    eph.publicBytes.toList).toVec with
  | .error failure => .error failure
  | .ok payload =>
    .ok ({ identity, displayName, qr, eph, state := .awaitingAck, sasInput := none },
      ⟨.pairReq, payload⟩)

def start (identity : IdentityKeypair) (displayName : String) (qr : QrPayload)
    (seed : Option Key32) : Except Error (PhonePairing × Frame) :=
  match Keypair.generate seed with
  | .error failure => .error failure
  | .ok eph => startWithEphemeral identity displayName qr eph

omit [Ciborium] in
def fail (pairing : PhonePairing) (msg : String) : PhonePairing × List PairingAction :=
  ({ pairing with state := .failed }, [.failed msg])

def onAck (pairing : PhonePairing) (frame : Frame) : PhonePairing × List PairingAction :=
  match MapReader.fromSlice frame.payload with
  | .error _ => pairing.fail "malformed PAIR_ACK"
  | .ok r =>
  match r.byteArray 32 PairingKey.ackEphPk with
  | .error _ => pairing.fail "malformed PAIR_ACK ephemeral key"
  | .ok ephPkR =>
  let ssEph := pairing.eph.dh ephPkR
  let input := AirClip.sasInput ssEph pairing.identity.publicBytes pairing.qr.publicKey
    pairing.qr.pairToken
  let sas := sasEmoji (sasDigest input)
  ({ pairing with sasInput := some input, state := .awaitingUserConfirm }, [.showSas sas])

def onFrame (pairing : PhonePairing) (frame : Frame) : PhonePairing × List PairingAction :=
  match pairing.state, frame.ty with
  | .awaitingAck, .pairAck => pairing.onAck frame
  | _, _ => pairing.fail "unexpected frame for pairing state"

/-- The user has found the emoji to match; only now does the confirming MAC go out. -/
def confirmSas [TextCodecs] (pairing : PhonePairing) (nowMs : UInt64) :
    PhonePairing × List PairingAction :=
  if pairing.state ≠ .awaitingUserConfirm then (pairing, [.failed "confirm before SAS was shown"])
  else
  match pairing.sasInput with
  | none => (pairing, [.failed "confirm without SAS basis"])
  | some sasInput =>
  let k := pairing.identity.dh pairing.qr.publicKey
  let mac := keyedMac k sasInput
  match (MapBuilder.new.bytes PairingKey.confirmMac mac.toList).toVec with
  | .error _ => pairing.fail "failed to encode PAIR_CONFIRM"
  | .ok payload =>
  let record := PairingRecord.new pairing.qr.deviceId pairing.qr.publicKey pairing.qr.displayName
    nowMs
  ({ pairing with state := .done }, [.send ⟨.pairConfirm, payload⟩, .completed record])

/-- The user has found them to differ; nothing is sent. -/
def rejectSas (pairing : PhonePairing) : PhonePairing × List PairingAction :=
  pairing.fail "user rejected SAS"

def isDone (pairing : PhonePairing) : Bool := pairing.state = .done

end PhonePairing

end Machines

end AirClip
