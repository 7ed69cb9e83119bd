import AirClip.Agent.Clipboard
import AirClip.Agent.Keystore
import AirClip.Core.Client
import AirClip.Core.HonestPairing

/-!
# The core handle

The one object the app on the phone holds: its identity, the stored pairings, the addresses it has been
told of, and the pairing under way.  The commands of the app either change this state or use the network;
what the network does, the clock and random draws are part of their input.
-/

open Foundation

namespace AirClip

/-! ## Addresses -/

/-- The addresses of the standard library. -/
class NetAddresses where
  IpAddr : Type
  SocketAddr : Type
  decEq : DecidableEq SocketAddr
  /-- `str::parse::<IpAddr>`. -/
  ipAddrParse : String → Option IpAddr
  /-- `SocketAddr::new`. -/
  socketAddr : IpAddr → UInt16 → SocketAddr
  /-- `str::parse::<SocketAddr>`. -/
  socketAddrParse : String → Option SocketAddr

export NetAddresses (SocketAddr)

instance [NetAddresses] : DecidableEq SocketAddr := NetAddresses.decEq

/-- Hosts that are no literal address are dropped. -/
def resolveHosts [NetAddresses] (hosts : List String) : List SocketAddr :=
  hosts.filterMap NetAddresses.socketAddrParse

/-- The addresses behind the ones known already, each once. -/
def addHints [NetAddresses] (hints addrs : List SocketAddr) : List SocketAddr :=
  addrs.foldl (fun hints addr ↦ if addr ∈ hints then hints else hints ++ [addr]) hints

theorem mem_addHints [NetAddresses] {hints addrs : List SocketAddr} {addr : SocketAddr} :
    addr ∈ addHints hints addrs ↔ addr ∈ hints ∨ addr ∈ addrs := by
  induction addrs generalizing hints with
  | nil => simp [addHints]
  | cons first addrs ih =>
    have hcons : addHints hints (first :: addrs) =
        addHints (if first ∈ hints then hints else hints ++ [first]) addrs := rfl
    rw [hcons, ih]
    split_ifs with hknown
    · rw [List.mem_cons]
      constructor
      · rintro (hmem | hmem)
        · exact .inl hmem
        · exact .inr (.inr hmem)
      · rintro (hmem | rfl | hmem)
        · exact .inl hmem
        · exact .inl hknown
        · exact .inr hmem
    · rw [List.mem_append, List.mem_singleton, List.mem_cons, or_assoc]

/-! ## Errors and events -/

/-- The `Debug` rendering of action lists, which occurs in error texts. -/
class DebugText where
  pairingActions : List PairingAction → String
  sessionActions : List SessionAction → String

/-- The `Debug` rendering of a frame type. -/
def FrameType.debug : FrameType → String
  | .hello => "Hello"
  | .helloAck => "HelloAck"
  | .pairReq => "PairReq"
  | .pairAck => "PairAck"
  | .pairConfirm => "PairConfirm"
  | .clipPush => "ClipPush"
  | .clipAck => "ClipAck"
  | .stageListReq => "StageListReq"
  | .stageList => "StageList"
  | .stageGet => "StageGet"
  | .stageItem => "StageItem"
  | .ping => "Ping"
  | .pong => "Pong"
  | .error => "Error"

def ClientError.display : ClientError → String
  | .unreachable => "PC not reachable on this network"
  | .timedOut => "PC did not respond in time"
  | .rejected reason => s!"rejected: {reason}"
  | .tooLarge maxBytes => s!"clip exceeds {maxBytes} bytes"
  | .protocol reason => s!"protocol error: {reason}"

/-- Failures the app tells apart. -/
inductive FfiError where
  | notPaired
  | unreachable
  | timedOut
  | tooLarge
  | rejected (reason : String)
  | internal (reason : String)
deriving DecidableEq

def FfiError.ofClient : ClientError → FfiError
  | .unreachable => .unreachable
  | .timedOut => .timedOut
  | .tooLarge _ => .tooLarge
  | .rejected reason => .rejected reason
  | .protocol reason => .internal reason

/-- Outcome of a beam. -/
inductive BeamResult where
  | sent (clipId : String)
  | notPaired
  | unreachable
  | timedOut
  | tooLarge (maxBytes : UInt32)
  | failed (reason : String)
deriving DecidableEq

inductive CoreEvent where
  | pairingSas (emoji : List String)
  | paired (deviceId displayName : String)
  | pairingFailed (reason : String)
  | peerUnreachable
deriving DecidableEq

/-- What a command does besides changing the state. -/
inductive Effect where
  | storeIdentitySeed (seed : Bytes)
  | storePairings (json : Bytes)
  | event (event : CoreEvent)
deriving DecidableEq

/-! ## The network -/

section Operations

variable [Primitives] [NetAddresses]

/-- What the network, the clock and the random source do during a pairing. -/
structure PairingEnvironment where
  /-- The addresses that accept a connection in time. -/
  accepts : SocketAddr → Bool
  seed : Option Key32
  /-- Whether the PAIR_REQ is written, or the text of the I/O error. -/
  sent : Except String Unit
  /-- What waiting for the PAIR_ACK comes to. -/
  ack : Except ClientError Frame
  nowMs : UInt64

/-- What the network, the clock and the random source do during an operation on a connection. -/
structure OperationEnvironment where
  accepts : SocketAddr → Bool
  seed : Option Key32
  helloMs : UInt64
  helloSent : Except String Unit
  ack : Except ClientError Frame
  ackMs : UInt64
  requestMs : UInt64
  randomId : Option (Octets 8)
  requestSent : Except String Unit
  replies : List (Except ClientError Frame × UInt64)

omit [Primitives] in
/-- One of the addresses has to accept; none does if there are none. -/
def dial (addrs : List SocketAddr) (accepts : SocketAddr → Bool) : Except ClientError Unit :=
  if addrs.any accepts then .ok () else .error .unreachable

/-- An exchange that has got as far as the emoji. -/
structure PendingPairing where
  record : PairingRecord
  sas : List.Vector String 4
  confirmFrame : Option Frame
deriving DecidableEq

omit [Primitives] [NetAddresses] in
/-- Send PAIR_CONFIRM; the record is then to be stored. -/
def PendingPairing.confirm (pending : PendingPairing) (sent : Except String Unit) :
    Except ClientError PairingRecord :=
  match pending.confirmFrame with
  | none => .error (.protocol "nothing to confirm")
  | some _ =>
    match sent with
    | .error text => .error (.protocol text)
    | .ok () => .ok pending.record

variable [Ciborium] [TextCodecs] [DebugText]

/-- Pair up to the emoji.  The confirmation is built but not sent. -/
def beginPairing (identity : IdentityKeypair) (displayName : String) (qr : QrPayload)
    (network : PairingEnvironment) : Except ClientError PendingPairing :=
  match dial (resolveHosts qr.hosts) network.accepts with
  | .error failure => .error failure
  | .ok () =>
  match PhonePairing.start identity displayName qr network.seed with
  | .error failure => .error (.ofError failure)
  | .ok (fsm, _) =>
  match network.sent with
  | .error text => .error (.protocol text)
  | .ok () =>
  match network.ack with
  | .error failure => .error failure
  | .ok ack =>
  if ack.ty ≠ .pairAck then .error (.protocol s!"expected PAIR_ACK, got {ack.ty.debug}")
  else
  match fsm.onFrame ack with
  | (fsm, [.showSas sas]) =>
    match (fsm.confirmSas network.nowMs).2 with
    | [.send frame, .completed record] => .ok ⟨record, sas, some frame⟩
    | other =>
      .error (.protocol s!"unexpected confirm state: {DebugText.pairingActions other}")
  | (_, [.failed reason]) => .error (.rejected reason)
  | (_, other) => .error (.protocol s!"unexpected pairing state: {DebugText.pairingActions other}")

omit [TextCodecs] in
/-- Dial and complete the handshake. -/
def Connection.openSession (identity : IdentityKeypair) (peer : PeerKey) (addrs : List SocketAddr)
    (network : OperationEnvironment) : Except ClientError Session :=
  match dial addrs network.accepts with
  | .error failure => .error failure
  | .ok () =>
  match Session.startPhone identity peer network.helloMs network.seed with
  | .error failure => .error (.ofError failure)
  | .ok (session, _) =>
  match network.helloSent with
  | .error text => .error (.protocol text)
  | .ok () =>
  match network.ack with
  | .error failure => .error failure
  | .ok ack =>
  match session.onFrame ack network.ackMs none with
  | (session, [.emit (.established _)]) => .ok session
  | (_, [.close why]) => .error (.rejected why)
  | (_, other) => .error (.protocol s!"handshake failed: {DebugText.sessionActions other}")

omit [NetAddresses] [Ciborium] [TextCodecs] [DebugText] in
/-- Every wait for a frame is bounded, so an operation ends when no more frames come in. -/
def Exchange.outcome {α : Type} (exchange : Exchange α) : Except ClientError α :=
  exchange.result.getD (.error .timedOut)

/-! ## State and commands -/

structure CoreState where
  identity : IdentityKeypair
  peers : List PairingRecord
  hints : List SocketAddr
  /-- Live pairing exchange, waiting for the user's comparison. -/
  pending : Option PendingPairing
  /-- Addresses carried by the QR code that is being paired against. -/
  pendingHosts : List SocketAddr

namespace CoreState

/-- What a command returns, the state it leaves and its effects. -/
structure Outcome (α : Type) where
  result : α
  state : CoreState
  effects : List Effect

/-- A handle right after its start. -/
def opened (identity : IdentityKeypair) (peers : List PairingRecord) : CoreState :=
  ⟨identity, peers, [], none, []⟩

omit [Ciborium] [TextCodecs] [DebugText] in
/-- Load or create the identity and restore the stored pairings, if there are any that can be read. -/
def new [SerdeJson] (identitySeed pairings : Option Bytes) (random : Option Key32) :
    Except FfiError (CoreState × List Effect) :=
  let peers := (pairings.bind fun json ↦ (SerdeJson.fromSlice json).toOption).getD []
  match identitySeed.bind (Octets.ofBytes? 32) with
  | some seed => .ok (opened (.fromSeed seed) peers, [])
  | none =>
    match Keypair.generate random with
    | .error failure => .error (.internal failure.display)
    | .ok identity => .ok (opened identity peers, [.storeIdentitySeed identity.secret.toList])

def isPaired (state : CoreState) : Bool := !state.peers.isEmpty

/-- An address discovered, or entered by the user; literals only. -/
def addPeerHint (state : CoreState) (host : String) (port : UInt16) : CoreState :=
  match NetAddresses.ipAddrParse host with
  | none => state
  | some ip => { state with hints := addHints state.hints [NetAddresses.socketAddr ip port] }

def clearPeerHints (state : CoreState) : CoreState := { state with hints := [] }

def startPairing (state : CoreState) (qrUrl displayName : String) (network : PairingEnvironment) :
    Outcome (Except FfiError Unit) :=
  match QrPayload.parse qrUrl with
  | .error failure => ⟨.error (.rejected failure.display), state, []⟩
  | .ok qr =>
    let state := { state with pendingHosts := resolveHosts qr.hosts }
    match beginPairing state.identity displayName qr network with
    | .error failure =>
      ⟨.error (.ofClient failure), state,
        (if failure = .unreachable then [.event .peerUnreachable] else []) ++
          [.event (.pairingFailed failure.display)]⟩
    | .ok pending =>
      ⟨.ok (), { state with pending := some pending }, [.event (.pairingSas pending.sas.toList)]⟩

/-- The pairings as they are handed to the keystore. -/
def storePairings [SerdeJson] (peers : List PairingRecord) : List Effect :=
  match SerdeJson.toVec peers with
  | .ok json => [.storePairings json]
  | .error _ => []

/-- The user has found the emoji to match. -/
def confirmSas [SerdeJson] (state : CoreState) (sent : Except String Unit) :
    Outcome (Except FfiError Unit) :=
  match state.pending with
  | none => ⟨.error (.internal "no pairing in progress"), state, []⟩
  | some pending =>
    let state := { state with pending := none }
    match pending.confirm sent with
    | .error failure => ⟨.error (.ofClient failure), state, []⟩
    | .ok record =>
      let peers := state.peers.filter (fun peer ↦ peer.deviceId ≠ record.deviceId) ++ [record]
      ⟨.ok (), { state with peers, hints := addHints state.hints state.pendingHosts,
                            pendingHosts := [] },
        storePairings peers ++ [.event (.paired record.deviceId record.displayName)]⟩

/-- The user has found the emoji to differ; the connection is dropped. -/
def cancelPairing (state : CoreState) : CoreState :=
  { state with pending := none, pendingHosts := [] }

def forgetPeer [SerdeJson] (state : CoreState) (deviceId : String) : CoreState × List Effect :=
  let peers := state.peers.filter fun peer ↦ peer.deviceId ≠ deviceId
  ({ state with peers }, storePairings peers)

/-- What a connection needs, or why there can be none. -/
def connectionParams (state : CoreState) :
    Except FfiError (IdentityKeypair × PeerKey × List SocketAddr) :=
  match state.peers with
  | [] => .error .notPaired
  | record :: _ =>
    match record.peerKey with
    | .error failure => .error (.internal failure.display)
    | .ok peer =>
      if state.hints = [] then .error .unreachable else .ok (state.identity, peer, state.hints)

/-- Beam text to the paired computer and wait for its acknowledgement. -/
def beamTextAwait (state : CoreState) (text : String) (network : OperationEnvironment) :
    BeamResult × List Effect :=
  match state.connectionParams with
  | .error _ => (.notPaired, [])
  | .ok (identity, peer, addrs) =>
    let result : Except ClientError (Octets 8) :=
      match Connection.openSession identity peer addrs network with
      | .error failure => .error failure
      | .ok session =>
        (Connection.beam session (classify text) (utf8 text) "iPhone" network.requestMs
          network.randomId network.requestSent network.replies).outcome
    match result with
    | .ok clipId => (.sent (latin1 (hexEncode clipId.toList)), [])
    | .error .unreachable => (.unreachable, [.event .peerUnreachable])
    | .error .timedOut => (.timedOut, [])
    | .error (.tooLarge maxBytes) => (.tooLarge maxBytes, [])
    | .error failure => (.failed failure.display, [])

/-- Metadata of one staged clip, its id in hex. -/
structure FfiStageItem where
  stageId : String
  contentType : ContentType
  preview : String
  size : UInt32
  copiedAtMs : UInt64
deriving DecidableEq

/-- Fetch the metadata of the staged clips. -/
def fetchStageListAwait (state : CoreState) (network : OperationEnvironment) :
    Except FfiError (List FfiStageItem) :=
  match state.connectionParams with
  | .error failure => .error failure
  | .ok (identity, peer, addrs) =>
    let items : Except ClientError (List StageMeta) :=
      match Connection.openSession identity peer addrs network with
      | .error failure => .error failure
      | .ok session =>
        (Connection.stageList session network.requestSent network.replies).outcome
    match items with
    | .error failure => .error (.ofClient failure)
    | .ok items => .ok (items.map fun item ↦
        ⟨latin1 (hexEncode item.stageId.toList), item.contentType, item.preview, item.size,
          item.copiedAtMs⟩)

/-- Fetch one staged body. -/
def fetchStageItemAwait (state : CoreState) (stageId : String) (network : OperationEnvironment) :
    Except FfiError String :=
  match (TextCodecs.hexDecode stageId).toOption.bind (Octets.ofBytes? 8) with
  | none => .error (.internal "malformed stage id")
  | some raw =>
    match state.connectionParams with
    | .error failure => .error failure
    | .ok (identity, peer, addrs) =>
      let item : Except ClientError (ContentType × Bytes) :=
        match Connection.openSession identity peer addrs network with
        | .error failure => .error failure
        | .ok session =>
          (Connection.stageItem session raw network.requestSent network.replies).outcome
      match item with
      | .error failure => .error (.ofClient failure)
      | .ok (_, body) => .ok (fromUtf8Lossy body)

/-! ## Why an operation cannot start -/

omit [Ciborium] [DebugText] in
theorem connectionParams_notPaired (state : CoreState) :
    state.connectionParams = .error .notPaired ↔ state.peers = [] := by
  unfold connectionParams
  split
  · next hpeers => exact iff_of_true rfl hpeers
  · next hpeers =>
    rw [hpeers]
    refine iff_of_false ?_ (List.cons_ne_nil _ _)
    split
    · simp
    · split_ifs <;> simp

omit [Primitives] [NetAddresses] [Ciborium] [TextCodecs] [DebugText] in
theorem ofClient_ne_notPaired (failure : ClientError) : FfiError.ofClient failure ≠ .notPaired := by
  cases failure <;> simp [FfiError.ofClient]

/-- An operation that cannot start fails for the reason there is; one that starts never fails for want
of a pairing. -/
theorem fetchStageListAwait_notPaired (state : CoreState) (network : OperationEnvironment) :
    state.fetchStageListAwait network = .error .notPaired ↔ state.peers = [] := by
  rw [← connectionParams_notPaired]
  unfold fetchStageListAwait
  split
  · next hparams => rw [hparams, Except.error.injEq, Except.error.injEq]
  · next hparams =>
    rw [hparams]
    refine iff_of_false ?_ (by simp)
    dsimp only
    split
    · next failure _ => simpa using ofClient_ne_notPaired failure
    · simp

theorem beamTextAwait_notPaired (state : CoreState) (text : String) (network : OperationEnvironment) :
    (state.beamTextAwait text network).1 = .notPaired ↔
      ∃ failure, state.connectionParams = .error failure := by
  unfold beamTextAwait
  split
  · next failure hparams => exact iff_of_true rfl ⟨failure, hparams⟩
  · next hparams =>
    rw [hparams]
    refine iff_of_false ?_ (by simp)
    dsimp only
    split <;> simp

/-- The pairing to connect with can be read, and there is an address to dial. -/
def Dialable (state : CoreState) : Prop :=
  (∃ record ∈ state.peers.head?, ∃ peer, record.peerKey = .ok peer) ∧ state.hints ≠ []

omit [Ciborium] [DebugText] in
theorem exists_connectionParams (state : CoreState) :
    (∃ params, state.connectionParams = .ok params) ↔ state.Dialable := by
  unfold connectionParams Dialable
  split
  · next hpeers => simp [hpeers]
  · next record rest hpeers =>
    rw [hpeers]
    split
    · next hkey => simp [hkey]
    · next peer hkey =>
      split_ifs with hhints
      · simp [hhints]
      · simp [hkey, hhints]

/-- The operations agree on why they cannot start. -/
structure Agree (state : CoreState) (text stageId : String) (network : OperationEnvironment) : Prop where
  beam_notPaired : (state.beamTextAwait text network).1 = .notPaired ↔ state.peers = []
  fetch_notPaired : state.fetchStageListAwait network = .error .notPaired ↔ state.peers = []
  beam_unreachable : state.peers ≠ [] → state.hints = [] →
    (state.beamTextAwait text network).1 = .unreachable
  fetch_unreachable : state.peers ≠ [] → state.hints = [] →
    state.fetchStageListAwait network = .error .unreachable ∧
      ((TextCodecs.hexDecode stageId).toOption.bind (Octets.ofBytes? 8) ≠ none →
        state.fetchStageItemAwait stageId network = .error .unreachable)

theorem agree_iff (state : CoreState) (text stageId : String) (network : OperationEnvironment) :
    state.Agree text stageId network ↔ state.peers = [] ∨ state.Dialable := by
  rw [← exists_connectionParams]
  constructor
  · intro h
    cases hparams : state.connectionParams with
    | ok params => exact .inr ⟨params, rfl⟩
    | error failure =>
      have hbeam := (state.beamTextAwait_notPaired text network).mpr ⟨failure, hparams⟩
      exact .inl (h.beam_notPaired.mp hbeam)
  · rintro (hpeers | ⟨params, hparams⟩)
    · have hparams := state.connectionParams_notPaired.mpr hpeers
      exact {
        beam_notPaired :=
          iff_of_true ((state.beamTextAwait_notPaired text network).mpr ⟨_, hparams⟩) hpeers
        fetch_notPaired := state.fetchStageListAwait_notPaired network
        beam_unreachable := fun hne ↦ absurd hpeers hne
        fetch_unreachable := fun hne ↦ absurd hpeers hne }
    · have hdialable := state.exists_connectionParams.mp ⟨params, hparams⟩
      have hpeers : state.peers ≠ [] := by
        rw [ne_eq, ← connectionParams_notPaired, hparams]
        simp
      have hbeam : (state.beamTextAwait text network).1 ≠ .notPaired := by
        rw [ne_eq, beamTextAwait_notPaired, hparams]
        simp
      exact {
        beam_notPaired := iff_of_false hbeam hpeers
        fetch_notPaired := state.fetchStageListAwait_notPaired network
        beam_unreachable := fun _ hhints ↦ absurd hhints hdialable.2
        fetch_unreachable := fun _ hhints ↦ absurd hhints hdialable.2 }

/-! ## Runs -/

/-- A call that can change the state. -/
inductive Call where
  | startPairing (qrUrl displayName : String) (network : PairingEnvironment)
  | confirmSas (sent : Except String Unit)
  | cancelPairing
  | forgetPeer (deviceId : String)
  | addPeerHint (host : String) (port : UInt16)
  | clearPeerHints

variable [SerdeJson]

def perform (state : CoreState) : Call → CoreState
  | .startPairing qrUrl displayName network => (state.startPairing qrUrl displayName network).state
  | .confirmSas sent => (state.confirmSas sent).state
  | .cancelPairing => state.cancelPairing
  | .forgetPeer deviceId => (state.forgetPeer deviceId).1
  | .addPeerHint host port => state.addPeerHint host port
  | .clearPeerHints => state.clearPeerHints

def after (state : CoreState) (calls : List Call) : CoreState := calls.foldl perform state

/-- Whatever pairings have been stored and whatever has been called, the operations agree exactly if
nothing is paired, or the pairing can be read and an address is known. -/
theorem operations_agree_iff (identity : IdentityKeypair) (stored : List PairingRecord)
    (calls : List Call) (text stageId : String) (network : OperationEnvironment) :
    ((opened identity stored).after calls).Agree text stageId network ↔
      ((opened identity stored).after calls).peers = [] ∨
        ((opened identity stored).after calls).Dialable :=
  agree_iff _ text stageId network

end CoreState

end Operations

namespace Reference

/-- A number in decimal digits, without leading zeros and below a bound. -/
def decimal (bound : ℕ) (digits : List Char) : Option ℕ :=
  let value := digits.foldl (fun value c ↦ 10 * value + (c.toNat - 48)) 0
  if digits.all Char.isDigit && (digits.length = 1 || digits.head? != some '0') && digits ≠ [] &&
    value < bound then some value
  else none

/-- Four numbers between dots. -/
def ipv4Parse (text : List Char) : Option (List ℕ) :=
  match (text.splitOn '.').mapM (decimal 256) with
  | some [a, b, c, d] => some [a, b, c, d]
  | _ => none

/-- Addresses of version 4 alone. -/
scoped instance netAddresses : NetAddresses where
  IpAddr := List ℕ
  SocketAddr := List ℕ × UInt16
  decEq := inferInstance
  ipAddrParse text := ipv4Parse text.toList
  socketAddr ip port := (ip, port)
  socketAddrParse text :=
    match text.toList.splitOn ':' with
    | [ip, port] =>
      match ipv4Parse ip, decimal (2 ^ 16) port with
      | some ip, some port => some (ip, UInt16.ofNat port)
      | _, _ => none
    | _ => none

scoped instance debugText : DebugText where
  pairingActions _ := "[]"
  sessionActions _ := "[]"

/-- A handle that has been started again after a pairing. -/
def relaunched : CoreState := .opened phoneIdentity
  [.new pcIdentity.deviceId pcIdentity.publicBytes "PC" 0]

/-- Nothing answers. -/
def silentNetwork : OperationEnvironment :=
  ⟨fun _ ↦ false, none, 0, .ok (), .error .timedOut, 0, 0, none, .ok (), []⟩

end Reference

open Reference in
/-- After a relaunch a beam says that nothing is paired, and a fetch that nothing can be reached. -/
theorem relaunched_beam_not_paired :
    relaunched.isPaired ∧ (relaunched.beamTextAwait "hello" silentNetwork).1 = .notPaired ∧
      relaunched.fetchStageListAwait silentNetwork = .error .unreachable ∧
      ¬ ((CoreState.opened phoneIdentity relaunched.peers).after []).Agree "hello" "" silentNetwork := by
  have hbeam : (relaunched.beamTextAwait "hello" silentNetwork).1 = .notPaired := by decide +kernel
  refine ⟨rfl, hbeam, by decide +kernel, ?_⟩
  intro h
  exact List.cons_ne_nil _ _ (h.beam_notPaired.mp hbeam)

end AirClip
