import AirClip.Core.PairingRun
import AirClip.Core.Handshake

/-!
# An honest pairing and the session after it

What two devices show each other without interference: the code the computer displays reads back as
it was written, each frame of the exchange is read as it was meant, and the records both sides keep
are enough to open a session.
-/

open Foundation Cbor

namespace AirClip

/-! ## The QR code -/

theorem splitComma_intercalate {parts : List String}
    (h : ∀ part ∈ parts, part ≠ "" ∧ ',' ∉ part.toList) : splitComma (",".intercalate parts) = parts := by
  have hpieces : ∀ piece ∈ parts.map String.toList, ',' ∉ piece := by
    intro piece hpiece
    obtain ⟨part, hpart, rfl⟩ := List.mem_map.mp hpiece
    exact (h part hpart).2
  have hkeep : parts.filter (· ≠ "") = parts :=
    List.filter_eq_self.mpr fun part hpart ↦ decide_eq_true (h part hpart).1
  match parts with
  | [] => rfl
  | first :: rest =>
    rw [splitComma, String.toList_intercalate, show ",".toList = [','] by rfl,
      List.splitOn_intercalate _ hpieces (by simp), List.map_map]
    simpa [Function.comp_def] using hkeep

theorem utf8_urlencode (content : String) :
    utf8 (urlencode content) = percentEncode (utf8 content) := by
  apply utf8_latin1
  intro byte hmem
  obtain hplain | rfl := percentEncode_safe _ byte hmem
  · exact (isUnreserved_ascii hplain).1
  · decide

theorem utf8_hex (id : DeviceId) : utf8 id.hex = hexEncode id.bytes.toList :=
  utf8_latin1 fun byte hmem ↦ (isUnreserved_ascii (hexEncode_unreserved _ byte hmem)).1

/-- The first four parts of a URL and a pair of names are plain text; their values need no escape. -/
theorem formEncodePair_unreserved (name : String) {value : String}
    (hname : ∀ byte ∈ utf8 name, isUnreserved byte)
    (hvalue : ∀ byte ∈ utf8 value, isUnreserved byte) :
    formEncodePair (name, value) = utf8 name ++ 0x3D :: utf8 value := by
  rw [formEncodePair, percentEncode_of_unreserved hname, percentEncode_of_unreserved hvalue]

theorem formEncodePair_urlencode (name : String) (hname : ∀ byte ∈ utf8 name, isUnreserved byte)
    (value : String) :
    formEncodePair (name, value) = utf8 name ++ 0x3D :: utf8 (urlencode value) := by
  rw [formEncodePair, percentEncode_of_unreserved hname, utf8_urlencode]

section Qr

variable [TextCodecs]

namespace QrPayload

/-- The parameters of a pairing URL, decoded. -/
def parameters (qr : QrPayload) : List (String × String) :=
  [("v", "1"), ("id", qr.deviceId.hex), ("pk", TextCodecs.base64Encode qr.publicKey.toList),
    ("nm", qr.displayName), ("hosts", ",".intercalate qr.hosts),
    ("tok", TextCodecs.base64Encode qr.pairToken.toList)]

/-- The query of a pairing URL. -/
def query (qr : QrPayload) : String :=
  "v=1&id=" ++ qr.deviceId.hex ++ "&pk=" ++ TextCodecs.base64Encode qr.publicKey.toList ++
    "&nm=" ++ urlencode qr.displayName ++ "&hosts=" ++ urlencode (",".intercalate qr.hosts) ++
    "&tok=" ++ TextCodecs.base64Encode qr.pairToken.toList

theorem toUrl_eq {qr : QrPayload} (hversion : qr.version = protocolVersion) :
    qr.toUrl = "airclip://pair?" ++ qr.query := by
  have hstart : qrScheme ++ "://pair?v=" ++ toString qr.version.toNat ++ "&id=" =
      "airclip://pair?" ++ "v=1&id=" := by
    rw [hversion]
    decide
  unfold toUrl query
  rw [hstart]
  generalize "airclip://pair?" = scheme
  simp only [String.append_assoc]

variable [TextCodecs.Lawful]

theorem utf8_query (qr : QrPayload) :
    utf8 qr.query = [0x26].intercalate (qr.parameters.map formEncodePair) := by
  have hid : ∀ byte ∈ utf8 qr.deviceId.hex, isUnreserved byte := by
    rw [utf8_hex]
    exact hexEncode_unreserved _
  have hpk := TextCodecs.Lawful.base64Encode_unreserved qr.publicKey.toList
  have htok := TextCodecs.Lawful.base64Encode_unreserved qr.pairToken.toList
  simp only [parameters, List.map_cons, List.map_nil]
  rw [formEncodePair_unreserved "v" (by decide +kernel) (by decide +kernel),
    formEncodePair_unreserved "id" (by decide +kernel) hid,
    formEncodePair_unreserved "pk" (by decide +kernel) hpk,
    formEncodePair_urlencode "nm" (by decide +kernel),
    formEncodePair_urlencode "hosts" (by decide +kernel),
    formEncodePair_unreserved "tok" (by decide +kernel) htok]
  unfold query
  simp only [utf8_append, List.intercalate, List.intersperse, List.flatten_cons,
    List.flatten_nil, List.append_assoc, List.cons_append, List.nil_append, List.append_nil]
  rfl

theorem query_isQuery (qr : QrPayload) : ∀ byte ∈ utf8 qr.query, isQuery byte := by
  rw [utf8_query]
  apply intercalate_isQuery
  intro piece hpiece
  obtain ⟨pair, -, rfl⟩ := List.mem_map.mp hpiece
  exact formEncodePair_isQuery pair

theorem queryPairs_query (qr : QrPayload) :
    Url.queryPairs ⟨"airclip", some "pair", some qr.query⟩ = qr.parameters := by
  rw [Url.queryPairs, Option.getD_some, utf8_query, formParse_intercalate]

theorem readPairs_parameters {qr : QrPayload}
    (hhosts : ∀ host ∈ qr.hosts, host ≠ "" ∧ ',' ∉ host.toList) :
    readPairs ⟨none, none, none, "", [], none⟩ qr.parameters = .ok ⟨some 1, some qr.deviceId,
      some qr.publicKey, qr.displayName, qr.hosts, some qr.pairToken⟩ := by
  have hid : TextCodecs.hexDecode qr.deviceId.hex = .ok qr.deviceId.bytes.toList :=
    TextCodecs.Lawful.hexDecode_hexEncode _
  have hversion : parseU8 "1" = some 1 := by decide
  simp only [parameters, readPairs, readPair, hversion, decodeField, hid,
    TextCodecs.Lawful.base64Decode_base64Encode, Octets.ofBytes?_toList, Except.map,
    splitComma_intercalate hhosts]

variable [Primitives]

/-- A pairing URL reads back as the code it was built from. -/
theorem parse_toUrl {qr : QrPayload} (hversion : qr.version = protocolVersion)
    (hid : qr.deviceId = deviceIdFromPk qr.publicKey)
    (hhosts : ∀ host ∈ qr.hosts, host ≠ "" ∧ ',' ∉ host.toList) : parse qr.toUrl = .ok qr := by
  rw [toUrl_eq hversion, parse]
  simp only [TextCodecs.Lawful.urlParse_query _ qr.query_isQuery, queryPairs_query,
    readPairs_parameters hhosts, qrScheme, ne_eq, not_true_eq_false, if_false, finish, hid]
  rw [if_neg (by decide), ← hid]
  cases qr
  cases hversion
  rfl

end QrPayload

end Qr

/-! ## The frames -/

/-- The entries of a PAIR_REQ. -/
def pairReqEntries (token id : Octets 16) (pk : Key32) (name : String) (ephPkI : Key32) :
    List (ℤ × Value) :=
  [(1, .bytes token.toList), (2, .bytes id.toList), (3, .bytes pk.toList), (4, .text name),
    (5, .bytes ephPkI.toList)]

theorem plain_pairReq (token id : Octets 16) (pk : Key32) {name : String} (ephPkI : Key32)
    (hname : (utf8 name).length < 2 ^ 64) :
    Plain 8 (integerMap (pairReqEntries token id pk name ephPkI)) := by
  simp [integerMap, pairReqEntries, Plain]
  omega

/-- PAIR_ACK and PAIR_CONFIRM carry one key. -/
def singleEntries (field : Key32) : List (ℤ × Value) := [(1, .bytes field.toList)]

theorem plain_single (field : Key32) : Plain 8 (integerMap (singleEntries field)) := by
  simp [integerMap, singleEntries, Plain]

section Frames

variable [Ciborium] [Ciborium.Lawful]

theorem single_toVec (field : Key32) : (MapBuilder.new.bytes 1 field.toList).toVec =
    .ok (encode (integerMap (singleEntries field))) :=
  toVec_eq_ok.mpr (Ciborium.Lawful.intoWriter_plain (plain_single field))

theorem fromSlice_single (field : Key32) :
    ∃ r, MapReader.fromSlice (encode (integerMap (singleEntries field))) = .ok r ∧
      r.byteArray 32 1 = .ok field := by
  let r : MapReader := ⟨singleEntries field, by simp [singleEntries]⟩
  exact ⟨r, MapReader.fromSlice_eq_ok.mpr (Ciborium.Lawful.fromReader_encode (plain_single field)),
    r.byteArray_eq_ok.mpr (by simp [r, singleEntries])⟩

theorem fromSlice_pairReq (token id : Octets 16) (pk : Key32) {name : String} (ephPkI : Key32)
    (hname : (utf8 name).length < 2 ^ 64) :
    ∃ r, MapReader.fromSlice (encode (integerMap (pairReqEntries token id pk name ephPkI))) = .ok r ∧
      PcPairing.ReqFields.read r = some ⟨token, id, pk, ephPkI⟩ ∧
      r.text PairingKey.displayName = .ok name := by
  let r : MapReader := ⟨pairReqEntries token id pk name ephPkI, by simp [pairReqEntries]⟩
  refine ⟨r, MapReader.fromSlice_eq_ok.mpr (Ciborium.Lawful.fromReader_encode
    (plain_pairReq token id pk ephPkI hname)), ?_,
    r.text_eq_ok.mpr (by simp [r, pairReqEntries, PairingKey.displayName])⟩
  have htoken : r.byteArray 16 PairingKey.pairToken = .ok token :=
    r.byteArray_eq_ok.mpr (by simp [r, pairReqEntries, PairingKey.pairToken])
  have hid : r.byteArray 16 PairingKey.deviceId = .ok id :=
    r.byteArray_eq_ok.mpr (by simp [r, pairReqEntries, PairingKey.deviceId])
  have hpk : r.byteArray 32 PairingKey.pkId = .ok pk :=
    r.byteArray_eq_ok.mpr (by simp [r, pairReqEntries, PairingKey.pkId])
  have heph : r.byteArray 32 PairingKey.ephPk = .ok ephPkI :=
    r.byteArray_eq_ok.mpr (by simp [r, pairReqEntries, PairingKey.ephPk])
  rw [PcPairing.ReqFields.read, htoken, hid, hpk, heph]

end Frames

section Run

variable [Primitives] [Ciborium]

/-- The PAIR_REQ of a phone that has scanned a code. -/
def pairReqFrame (identity : IdentityKeypair) (name : String) (token : Octets 16)
    (ephPkI : Key32) : Frame :=
  ⟨.pairReq, encode (integerMap (pairReqEntries token identity.deviceId.bytes identity.publicBytes
    name ephPkI))⟩

theorem PhonePairing.start_eq [Ciborium.Lawful] (identity : IdentityKeypair) {name : String}
    (hname : (utf8 name).length < 2 ^ 64) (qr : QrPayload) (seed : Key32) :
    PhonePairing.start identity name qr (some seed) =
      .ok (⟨identity, name, qr, .fromSeed seed, .awaitingAck, none⟩,
        pairReqFrame identity name qr.pairToken (Keypair.fromSeed seed).publicBytes) := by
  have hpayload : (((((MapBuilder.new.bytes PairingKey.pairToken qr.pairToken.toList).bytes
      PairingKey.deviceId identity.deviceId.bytes.toList).bytes PairingKey.pkId
      identity.publicBytes.toList).text PairingKey.displayName name).bytes PairingKey.ephPk
      (Keypair.fromSeed seed).publicBytes.toList).toVec = .ok _ :=
    toVec_eq_ok.mpr (Ciborium.Lawful.intoWriter_plain (plain_pairReq qr.pairToken
      identity.deviceId.bytes identity.publicBytes (Keypair.fromSeed seed).publicBytes hname))
  simp only [PhonePairing.start, Keypair.generate, PhonePairing.startWithEphemeral, hpayload]
  rfl

omit [Primitives] [Ciborium] in
theorem saturatingSub_le_iff {left right window : UInt64} :
    saturatingSub left right ≤ window ↔ left.toNat ≤ right.toNat + window.toNat := by
  unfold saturatingSub
  split_ifs with h
  · rw [UInt64.le_iff_toNat_le, UInt64.toNat_sub_of_le _ _ h]
    rw [UInt64.le_iff_toNat_le] at h
    omega
  · rw [UInt64.le_iff_toNat_le, not_le] at h
    simp only [UInt64.le_iff_toNat_le, UInt64.toNat_zero, Nat.zero_le, true_iff]
    omega

/-- The PAIR_REQ of a phone that has scanned the code of this computer is acceptable in time. -/
theorem PcPairing.withToken_acceptable [Ciborium.Lawful] (pc phone : IdentityKeypair)
    (pcName : String) (hosts : List String) (token : Octets 16) {issuedMs reqMs : UInt64}
    {phoneName : String} (hname : (utf8 phoneName).length < 2 ^ 64) (ephPkI : Key32)
    (hfresh : reqMs.toNat ≤ issuedMs.toNat + 600000) :
    ∃ r, (withToken pc pcName hosts token issuedMs).Acceptable
        (pairReqFrame phone phoneName token ephPkI) reqMs r
        ⟨token, phone.deviceId.bytes, phone.publicBytes, ephPkI⟩ ∧ peerNameOf r = phoneName := by
  obtain ⟨r, hslice, hread, htext⟩ :=
    fromSlice_pairReq token phone.deviceId.bytes phone.publicBytes ephPkI hname
  refine ⟨r, ?_, by rw [peerNameOf, htext]; rfl⟩
  exact {
    state := rfl
    ty := rfl
    slice := hslice
    fields := hread
    token := rfl
    unused := rfl
    fresh := saturatingSub_le_iff.mpr hfresh
    deviceId := rfl }

/-! ## Two devices that pair -/

/-- A phone and a computer, with what they draw and show. -/
structure HonestDevices where
  phone : IdentityKeypair
  pc : IdentityKeypair
  phoneName : String
  /-- No string outgrows the address space. -/
  phoneName_lt : (utf8 phoneName).length < 2 ^ 64
  pcName : String
  hosts : List String
  token : Octets 16
  issuedMs : UInt64
  phoneSeed : Key32
  pcSeed : Key32

/-- What the two machines end with. -/
structure Paired where
  phoneSas : List.Vector String 4
  pcSas : List.Vector String 4
  phone : PhonePairing
  pc : PcPairing
  phoneRecord : PairingRecord
  pcRecord : PairingRecord

/-- What the two sessions end with, and the device each of them has been told it is connected to. -/
structure Connected where
  phone : Session
  pc : Session
  phoneEstablished : DeviceId
  pcEstablished : DeviceId

variable [TextCodecs]

/-- The device a record names. -/
def PairingRecord.peerKey (record : PairingRecord) : Except Error PeerKey :=
  match record.deviceIdBytes, record.publicKeyBytes with
  | .ok deviceId, .ok publicKey => .ok ⟨deviceId, publicKey⟩
  | .error failure, _ => .error failure
  | _, .error failure => .error failure

namespace HonestDevices

/-- The phone scans the code, every frame arrives as it was sent, and the user confirms. -/
def pair (devices : HonestDevices) (reqMs confirmMs completedMs : UInt64) : Option Paired :=
  let pc := PcPairing.withToken devices.pc devices.pcName devices.hosts devices.token devices.issuedMs
  match QrPayload.parse pc.qrUrl with
  | .error _ => none
  | .ok qr =>
  match PhonePairing.start devices.phone devices.phoneName qr (some devices.phoneSeed) with
  | .error _ => none
  | .ok (phone, req) =>
  match pc.onFrame req reqMs (some devices.pcSeed) with
  | (pc, [.send ack, .showSas pcSas]) =>
    match phone.onFrame ack with
    | (phone, [.showSas phoneSas]) =>
      match phone.confirmSas confirmMs with
      | (phone, [.send confirm, .completed phoneRecord]) =>
        match pc.onFrame confirm completedMs none with
        | (pc, [.completed pcRecord]) => some ⟨phoneSas, pcSas, phone, pc, phoneRecord, pcRecord⟩
        | _ => none
      | _ => none
    | _ => none
  | _ => none

theorem pair_of_steps {devices : HonestDevices} {reqMs confirmMs completedMs : UInt64}
    {qr : QrPayload} {phone phone₁ phone₂ : PhonePairing} {pc₁ pc₂ : PcPairing}
    {req ack confirm : Frame} {phoneSas pcSas : List.Vector String 4}
    {phoneRecord pcRecord : PairingRecord}
    (hparse : QrPayload.parse (PcPairing.withToken devices.pc devices.pcName devices.hosts
      devices.token devices.issuedMs).qrUrl = .ok qr)
    (hstart : PhonePairing.start devices.phone devices.phoneName qr (some devices.phoneSeed) =
      .ok (phone, req))
    (hanswer : (PcPairing.withToken devices.pc devices.pcName devices.hosts devices.token
      devices.issuedMs).onFrame req reqMs (some devices.pcSeed) = (pc₁, [.send ack, .showSas pcSas]))
    (hshown : phone.onFrame ack = (phone₁, [.showSas phoneSas]))
    (hconfirm : phone₁.confirmSas confirmMs = (phone₂, [.send confirm, .completed phoneRecord]))
    (hcomplete : pc₁.onFrame confirm completedMs none = (pc₂, [.completed pcRecord])) :
    devices.pair reqMs confirmMs completedMs =
      some ⟨phoneSas, pcSas, phone₂, pc₂, phoneRecord, pcRecord⟩ := by
  simp only [pair, hparse, hstart, hanswer, hshown, hconfirm, hcomplete]

/-- The phone opens a session; both sides know each other from their records only. -/
def connect (devices : HonestDevices) (phoneRecord pcRecord : PairingRecord)
    (helloSeed ackSeed : Key32) (helloMs openedMs receivedMs ackMs : UInt64) : Option Connected :=
  match phoneRecord.peerKey, pcRecord.peerKey with
  | .ok pcPeer, .ok phonePeer =>
    match Session.startPhone devices.phone pcPeer helloMs (some helloSeed) with
    | .error _ => none
    | .ok (phone, hello) =>
    match (Session.newPc devices.pc [phonePeer] openedMs).onFrame hello receivedMs (some ackSeed) with
    | (pc, [.send ack, .emit (.established pcEstablished)]) =>
      match phone.onFrame ack ackMs none with
      | (phone, [.emit (.established phoneEstablished)]) =>
        some ⟨phone, pc, phoneEstablished, pcEstablished⟩
      | _ => none
    | _ => none
  | _, _ => none

theorem connect_of_steps {devices : HonestDevices} {phoneRecord pcRecord : PairingRecord}
    {pcPeer phonePeer : PeerKey} {helloSeed ackSeed : Key32}
    {helloMs openedMs receivedMs ackMs : UInt64} {phone phone₁ pc₁ : Session} {hello ack : Frame}
    {phoneEstablished pcEstablished : DeviceId} (hphone : phoneRecord.peerKey = .ok pcPeer)
    (hpc : pcRecord.peerKey = .ok phonePeer)
    (hstart : Session.startPhone devices.phone pcPeer helloMs (some helloSeed) = .ok (phone, hello))
    (hanswer : (Session.newPc devices.pc [phonePeer] openedMs).onFrame hello receivedMs
      (some ackSeed) = (pc₁, [.send ack, .emit (.established pcEstablished)]))
    (hacknowledge : phone.onFrame ack ackMs none =
      (phone₁, [.emit (.established phoneEstablished)])) :
    devices.connect phoneRecord pcRecord helloSeed ackSeed helloMs openedMs receivedMs ackMs =
      some ⟨phone₁, pc₁, phoneEstablished, pcEstablished⟩ := by
  simp only [connect, hphone, hpc, hstart, hanswer, hacknowledge]

variable [X25519Commutes] [Ciborium.Lawful] [TextCodecs.Lawful]

/-- Without interference the pairing completes on both sides, with the same emoji. -/
theorem pair_eq_some (devices : HonestDevices) {reqMs : UInt64} (confirmMs completedMs : UInt64)
    (hhosts : ∀ host ∈ devices.hosts, host ≠ "" ∧ ',' ∉ host.toList)
    (hfresh : reqMs.toNat ≤ devices.issuedMs.toNat + 600000) :
    ∃ paired, devices.pair reqMs confirmMs completedMs = some paired ∧
      paired.phoneSas = paired.pcSas ∧ paired.phone.isDone ∧ paired.pc.isDone ∧
      paired.phoneRecord = .new devices.pc.deviceId devices.pc.publicBytes devices.pcName confirmMs ∧
      paired.pcRecord =
        .new devices.phone.deviceId devices.phone.publicBytes devices.phoneName completedMs := by
  let pc := PcPairing.withToken devices.pc devices.pcName devices.hosts devices.token devices.issuedMs
  let phoneEph : EphemeralKeypair := .fromSeed devices.phoneSeed
  let pcEph : EphemeralKeypair := .fromSeed devices.pcSeed
  let phone : PhonePairing :=
    ⟨devices.phone, devices.phoneName, pc.qrPayload, phoneEph, .awaitingAck, none⟩
  let input := sasInput (phoneEph.dh pcEph.publicBytes) devices.phone.publicBytes
    devices.pc.publicBytes devices.token
  let mac := keyedMac (devices.phone.dh devices.pc.publicBytes) input
  have hparse : QrPayload.parse pc.qrUrl = .ok pc.qrPayload := QrPayload.parse_toUrl rfl rfl hhosts
  have hstart : PhonePairing.start _ _ _ _ = .ok (phone, _) :=
    PhonePairing.start_eq devices.phone devices.phoneName_lt pc.qrPayload devices.phoneSeed
  obtain ⟨r, hacceptable, hpeerName⟩ := PcPairing.withToken_acceptable devices.pc devices.phone
    devices.pcName devices.hosts devices.token devices.phoneName_lt phoneEph.publicBytes hfresh
  have hanswer := PcPairing.onFrame_acceptable hacceptable
    (rfl : Keypair.generate (some devices.pcSeed) = .ok pcEph) (single_toVec pcEph.publicBytes)
  have hinput : PcPairing.inputFor pc ⟨devices.token, devices.phone.deviceId.bytes,
      devices.phone.publicBytes, phoneEph.publicBytes⟩ pcEph = input := by
    rw [PcPairing.inputFor, Keypair.dh_comm pcEph phoneEph]
    rfl
  have hshown : phone.onFrame ⟨.pairAck, encode (integerMap (singleEntries pcEph.publicBytes))⟩ =
      (phone.acknowledged pcEph.publicBytes, [.showSas (sasEmoji (sasDigest input))]) := by
    obtain ⟨r', hslice, hread⟩ := fromSlice_single pcEph.publicBytes
    exact PhonePairing.onAck_eq_ok hslice hread
  have hconfirm := (phone.acknowledged pcEph.publicBytes).confirmSas_eq confirmMs rfl rfl
    (single_toVec mac)
  obtain ⟨r', hslice, hread⟩ := fromSlice_single mac
  have hverify : keyedMac (devices.pc.dh devices.phone.publicBytes) input = mac := by
    rw [Keypair.dh_comm devices.pc devices.phone]
  have hconfirmed : (pc.answered r ⟨devices.token, devices.phone.deviceId.bytes,
      devices.phone.publicBytes, phoneEph.publicBytes⟩ pcEph).Confirmed
      ⟨.pairConfirm, encode (integerMap (singleEntries mac))⟩ _ input :=
    ⟨rfl, rfl, rfl, congrArg some hinput, r', mac, hslice, hread, hverify⟩
  have hcomplete := PcPairing.onFrame_confirmed hconfirmed completedMs none
  refine ⟨_, pair_of_steps hparse hstart hanswer hshown hconfirm hcomplete, ?_, rfl, rfl, rfl, ?_⟩
  · exact congrArg (fun basis ↦ sasEmoji (sasDigest basis)) hinput.symm
  · exact congrArg (PairingRecord.new _ _ · _) hpeerName

omit [TextCodecs.Lawful] in
/-- Without interference the handshake between two devices that have each other's records completes
on both sides, with mirrored keys. -/
theorem connect_eq_some (devices : HonestDevices) {phoneRecord pcRecord : PairingRecord}
    (hphone : phoneRecord.peerKey = .ok ⟨devices.pc.deviceId, devices.pc.publicBytes⟩)
    (hpc : pcRecord.peerKey = .ok ⟨devices.phone.deviceId, devices.phone.publicBytes⟩)
    (helloSeed ackSeed : Key32) {helloMs receivedMs : UInt64} (openedMs ackMs : UInt64)
    (hfresh : |(helloMs.toNat : ℤ) - receivedMs.toNat| ≤ 120000) :
    ∃ connected, devices.connect phoneRecord pcRecord helloSeed ackSeed helloMs openedMs receivedMs
        ackMs = some connected ∧
      connected.phone.state = .established ∧ connected.pc.state = .established ∧
      connected.phoneEstablished = devices.pc.deviceId ∧
      connected.pcEstablished = devices.phone.deviceId ∧
      connected.phone.peerId = some devices.pc.deviceId ∧
      connected.pc.peerId = some devices.phone.deviceId ∧
      ∃ phoneChannel pcChannel, connected.phone.channel = some phoneChannel ∧
        connected.pc.channel = some pcChannel ∧ phoneChannel.tx.key = pcChannel.rx.key ∧
        phoneChannel.rx.key = pcChannel.tx.key := by
  let phoneEph : EphemeralKeypair := .fromSeed helloSeed
  let pcEph : EphemeralKeypair := .fromSeed ackSeed
  let ssStatic := devices.phone.dh devices.pc.publicBytes
  let pcPeer : PeerKey := ⟨devices.pc.deviceId, devices.pc.publicBytes⟩
  let phonePeer : PeerKey := ⟨devices.phone.deviceId, devices.phone.publicBytes⟩
  let phone := Session.phoneOpened devices.phone pcPeer helloMs phoneEph
  let pc := Session.newPc devices.pc [phonePeer] openedMs
  let hello : Session.HelloFields := ⟨1, devices.phone.deviceId.bytes, phoneEph.publicBytes, helloMs,
    keyedMac ssStatic (Session.helloBasis devices.phone.deviceId phoneEph.publicBytes helloMs)⟩
  have hstatic : devices.pc.dh devices.phone.publicBytes = ssStatic :=
    Keypair.dh_comm devices.pc devices.phone
  have hstart : Session.startPhone devices.phone pcPeer helloMs (some helloSeed) = .ok (phone, _) :=
    Session.startPhone_eq devices.phone pcPeer helloMs phoneEph
  let helloFrame : Frame := ⟨.hello, Session.helloPayload ssStatic devices.phone.deviceId
    phoneEph.publicBytes helloMs⟩
  let ackFrame : Frame := ⟨.helloAck, Session.helloAckPayload
    (devices.pc.dh devices.phone.publicBytes) pcEph.publicBytes phoneEph.publicBytes⟩
  let noted : Session := { pc with lastActivityMs := receivedMs }
  let noted' : Session := { phone with lastActivityMs := ackMs }
  have hgreet : noted.HelloAuthentic helloFrame.payload receivedMs hello phonePeer
      (Session.helloBasis devices.phone.deviceId phoneEph.publicBytes helloMs) :=
    { fields := Session.fromSlice_helloPayload ..
      version := rfl
      fresh := absDiff_le_iff.mpr hfresh
      known := find?_firstKnown.mpr ⟨rfl, [], [], rfl, by simp⟩
      canonical := Session.helloMacBasis_eq ..
      mac := congrArg (keyedMac · _) hstatic }
  have hanswer : pc.onFrame helloFrame receivedMs (some ackSeed) =
      (noted.greeted hello phonePeer pcEph,
        [.send ackFrame, .emit (.established devices.phone.deviceId)]) := by
    rw [show pc.onFrame helloFrame receivedMs (some ackSeed) =
      noted.onHello helloFrame receivedMs (some ackSeed) from rfl]
    exact Session.onHello_authentic hgreet (rfl : Keypair.generate (some ackSeed) = .ok pcEph)
      (Session.ackMap_toVec ..)
  obtain ⟨r, hslice, hread⟩ := Session.fromSlice_helloAckPayload
    (devices.pc.dh devices.phone.publicBytes) pcEph.publicBytes phoneEph.publicBytes
  rw [hstatic] at hread
  have hauth : noted'.HelloAckAuthentic ackFrame.payload pcPeer phoneEph phoneEph.publicBytes
      pcEph.publicBytes :=
    { peer_eq := rfl
      eph_eq := rfl
      ephPkI_eq := rfl
      fields := ⟨r, hslice, hread⟩ }
  have hacknowledge : phone.onFrame ackFrame ackMs none =
      (noted'.acknowledged pcPeer phoneEph pcEph.publicBytes,
        [.emit (.established devices.pc.deviceId)]) := by
    rw [show phone.onFrame ackFrame ackMs none = noted'.onHelloAck ackFrame from rfl]
    exact Session.onHelloAck_authentic hauth
  have hkeys : noted'.phoneKeys pcPeer phoneEph pcEph.publicBytes =
      noted.pcKeys hello phonePeer pcEph := by
    change sessionKeys (phoneEph.dh pcEph.publicBytes) (devices.phone.dh pcEph.publicBytes) ssStatic
        devices.phone.deviceId devices.pc.deviceId =
      sessionKeys (pcEph.dh phoneEph.publicBytes) (pcEph.dh devices.phone.publicBytes)
        (devices.pc.dh devices.phone.publicBytes) devices.phone.deviceId devices.pc.deviceId
    rw [hstatic, Keypair.dh_comm phoneEph, Keypair.dh_comm devices.phone pcEph]
  refine ⟨_, connect_of_steps hphone hpc hstart hanswer hacknowledge, rfl, rfl, rfl, rfl, rfl, rfl,
    _, _, rfl, rfl, congrArg SessionKeys.p2c hkeys, congrArg SessionKeys.c2p hkeys⟩

omit [Primitives] [Ciborium] [X25519Commutes] [Ciborium.Lawful] in
@[simp]
theorem peerKey_new (deviceId : DeviceId) (pk : Key32) (name : String) (nowMs : UInt64) :
    (PairingRecord.new deviceId pk name nowMs).peerKey = .ok ⟨deviceId, pk⟩ := by
  simp [PairingRecord.peerKey]

/-- An honest pairing always leads to a working session: both sides show the same emoji and complete,
and the two records alone are enough for a handshake after which each session names the other device
and the keys are mirrored. -/
theorem honest_pairing_leads_to_session (devices : HonestDevices)
    {reqMs : UInt64} (confirmMs completedMs : UInt64)
    (hhosts : ∀ host ∈ devices.hosts, host ≠ "" ∧ ',' ∉ host.toList)
    (hfresh : reqMs.toNat ≤ devices.issuedMs.toNat + 600000) :
    ∃ paired, devices.pair reqMs confirmMs completedMs = some paired ∧
      paired.phoneSas = paired.pcSas ∧ paired.phone.isDone ∧ paired.pc.isDone ∧
      ∀ (helloSeed ackSeed : Key32) (helloMs openedMs receivedMs ackMs : UInt64),
        |(helloMs.toNat : ℤ) - receivedMs.toNat| ≤ 120000 →
        ∃ connected, devices.connect paired.phoneRecord paired.pcRecord helloSeed ackSeed helloMs
            openedMs receivedMs ackMs = some connected ∧
          connected.phone.state = .established ∧ connected.pc.state = .established ∧
          connected.phoneEstablished = devices.pc.deviceId ∧
          connected.pcEstablished = devices.phone.deviceId ∧
          connected.phone.peerId = some devices.pc.deviceId ∧
          connected.pc.peerId = some devices.phone.deviceId ∧
          ∃ phoneChannel pcChannel, connected.phone.channel = some phoneChannel ∧
            connected.pc.channel = some pcChannel ∧ phoneChannel.tx.key = pcChannel.rx.key ∧
            phoneChannel.rx.key = pcChannel.tx.key := by
  obtain ⟨paired, hpaired, hsas, hphone, hpc, hphoneRecord, hpcRecord⟩ :=
    devices.pair_eq_some confirmMs completedMs hhosts hfresh
  refine ⟨paired, hpaired, hsas, hphone, hpc, fun helloSeed ackSeed helloMs openedMs receivedMs ackMs
    hhello ↦ ?_⟩
  exact devices.connect_eq_some (by rw [hphoneRecord, peerKey_new]) (by rw [hpcRecord, peerKey_new])
    helloSeed ackSeed openedMs ackMs hhello

end HonestDevices

end Run

namespace Reference

/-- A phone and a computer with names and hosts that need escapes. -/
def devices : HonestDevices where
  phone := phoneIdentity
  pc := pcIdentity
  phoneName := "Zoë's iPhone"
  phoneName_lt := by decide
  pcName := "PC & co #1"
  hosts := ["192.168.4.20:49517", "[fe80::1]:49517"]
  token := pad 16 [0x5A]
  issuedMs := 1000
  phoneSeed := pad 32 [17]
  pcSeed := pad 32 [19]

/-! The machine of the computer, and the frames of their exchange. -/

def pairing : PcPairing :=
  .withToken devices.pc devices.pcName devices.hosts devices.token devices.issuedMs

def pairReq : Frame :=
  pairReqFrame devices.phone devices.phoneName devices.token
    (Primitives.x25519Base devices.phoneSeed)

def pairAck : Frame :=
  ⟨.pairAck, Cbor.encode (integerMap (singleEntries (Primitives.x25519Base devices.pcSeed)))⟩

def pairingInput : Bytes :=
  sasInput ((Keypair.fromSeed devices.pcSeed).dh (Primitives.x25519Base devices.phoneSeed))
    devices.phone.publicBytes devices.pc.publicBytes devices.token

def pairConfirm : Frame :=
  ⟨.pairConfirm, Cbor.encode (integerMap (singleEntries
    (keyedMac (devices.phone.dh devices.pc.publicBytes) pairingInput)))⟩

end Reference

open Reference in
theorem honest_pairing_leads_to_session_two_devices :
    ∃ paired, devices.pair 601000 5 7 = some paired ∧ paired.phoneSas = paired.pcSas ∧
      ∃ connected, devices.connect paired.phoneRecord paired.pcRecord (pad 32 [23]) (pad 32 [29])
          120000 0 0 9 = some connected ∧
        connected.phone.state = .established ∧ connected.pc.state = .established := by
  obtain ⟨paired, hpaired, hsas, -, -, hsession⟩ :=
    devices.honest_pairing_leads_to_session 5 7 (by decide)
      (by decide : (601000 : UInt64).toNat ≤ devices.issuedMs.toNat + 600000)
  obtain ⟨connected, hconnected, hphone, hpc, -⟩ :=
    hsession (pad 32 [23]) (pad 32 [29]) 120000 0 0 9 (by decide)
  exact ⟨paired, hpaired, hsas, connected, hconnected, hphone, hpc⟩

end AirClip
