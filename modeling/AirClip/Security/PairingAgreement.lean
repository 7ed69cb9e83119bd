import AirClip.Core.HonestPairing
import AirClip.Core.Nonces

/-!
# Agreement on a pairing

A computer in a pairing exchange, and a phone that scans any number of codes and opens any number of
sessions under the same identity key, all over a network that delivers what it likes.  One static
secret authenticates HELLO, HELLO_ACK and PAIR_CONFIRM, but over messages of different lengths.  So
a confirmation that verifies under the secret of the two devices is one the phone has sent, and the
SAS input it covers tells all that the two have agreed on.
-/

open Foundation

namespace AirClip

section Agreement

variable [Primitives] [Ciborium] [TextCodecs]

/-- Two devices.  `E` numbers the codes the phone scans, `S` and `T` the sessions of the phone and
of the computer, with each other or with anyone else. -/
structure PairingDevices (E S T : Type) where
  phone : IdentityKeypair
  phoneName : String
  pc : IdentityKeypair
  url : E → String
  qr : E → QrPayload
  scans : ∀ e, QrPayload.parse (url e) = .ok (qr e)
  exchangeSeed : E → Key32
  exchange : E → PhonePairing
  pairReq : E → Frame
  starts : ∀ e, PhonePairing.start phone phoneName (qr e) (some (exchangeSeed e)) =
    .ok (exchange e, pairReq e)
  sessionPeer : S → PeerKey
  sessionSeed : S → Key32
  sessionMs : S → UInt64
  phoneSession : S → Session
  hello : S → Frame
  opens : ∀ s, Session.startPhone phone (sessionPeer s) (sessionMs s) (some (sessionSeed s)) =
    .ok (phoneSession s, hello s)
  knownPeers : T → List PeerKey
  pcSessionMs : T → UInt64

/-- All that goes on beside the computer's pairing. -/
structure Activity (E S T : Type) where
  exchange : E → PhoneExchange
  phoneSession : S → Endpoint
  pcSession : T → Endpoint

namespace Activity

variable {E S T : Type}

/-- A frame or a tap of the user in an exchange, or a call on a session. -/
inductive Call (E S T : Type) where
  | exchange (e : E) (call : PhonePairing.Call)
  | phoneSession (s : S) (call : Session.Call)
  | pcSession (t : T) (call : Session.Call)

def call [DecidableEq E] [DecidableEq S] [DecidableEq T] (activity : Activity E S T) :
    Call E S T → Activity E S T
  | .exchange e call => { activity with
      exchange := Function.update activity.exchange e ((activity.exchange e).call call) }
  | .phoneSession s call => { activity with
      phoneSession := Function.update activity.phoneSession s ((activity.phoneSession s).call call) }
  | .pcSession t call => { activity with
      pcSession := Function.update activity.pcSession t ((activity.pcSession t).call call) }

end Activity

namespace PairingDevices

variable {E S T : Type} (devices : PairingDevices E S T)

def ssStatic : Key32 := devices.phone.dh devices.pc.publicBytes

def initial : Activity E S T where
  exchange e := ⟨devices.exchange e, []⟩
  phoneSession s := .opening (devices.phoneSession s) [devices.hello s]
  pcSession t := .opening (Session.newPc devices.pc (devices.knownPeers t) (devices.pcSessionMs t)) []

/-- The messages the two devices have authenticated, and the keys they have done it with: the HELLOs
and confirmations of the phone and the HELLO_ACKs of the computer. -/
inductive Authenticated (activity : Activity E S T) : Key32 → Bytes → Prop
  | hello {s : S} {basis : Bytes} (hbasis : helloMacBasis devices.phone.deviceId
      (Keypair.fromSeed (devices.sessionSeed s)).publicBytes (devices.sessionMs s) = .ok basis) :
      Authenticated activity (devices.phone.dh (devices.sessionPeer s).publicKey) basis
  | helloAck {t : T} {hello : Session.HelloFields} {peer : PeerKey} {eph : EphemeralKeypair}
      (hgreeting : (activity.pcSession t).greeting = some hello)
      (hpeer : (activity.pcSession t).session.peer = some peer)
      (heph : (activity.pcSession t).session.eph = some eph) :
      Authenticated activity (devices.pc.dh peer.publicKey)
        (ackMacBasis eph.publicBytes hello.ephPkI)
  | confirm {e : E} {input : Bytes} (hconfirmed : (activity.exchange e).Confirmed input) :
      Authenticated activity (devices.phone.dh (devices.qr e).publicKey) input

/-- The message and MAC a frame makes a pairing check. -/
def Presents (pairing : PcPairing) (frame : Frame) (message : Bytes) (mac : Key32) : Prop :=
  pairing.state = .awaitingConfirm ∧ frame.ty = .pairConfirm ∧ pairing.sasInput = some message ∧
    ∃ r, MapReader.fromSlice frame.payload = .ok r ∧ r.byteArray 32 PairingKey.confirmMac = .ok mac

/-- A MAC that verifies under the static secret is over a message one of the two devices has
authenticated with it. -/
def MacUnforgeable (activity : Activity E S T) (pairing : PcPairing) (frame : Frame) : Prop :=
  ∀ message mac, Presents pairing frame message mac → keyedMac devices.ssStatic message = mac →
    devices.Authenticated activity devices.ssStatic message

/-- Every exchange of the phone is accounted for. -/
def Accounted (activity : Activity E S T) : Prop :=
  ∀ e, PhoneExchange.Accounted devices.phone (devices.qr e) (activity.exchange e)

variable {devices}

theorem initial_accounted : devices.Accounted devices.initial :=
  fun e ↦ PhoneExchange.start_accounted (devices.starts e)

section Calls

variable [DecidableEq E] [DecidableEq S] [DecidableEq T]

theorem Accounted.call {activity : Activity E S T} (h : devices.Accounted activity)
    (call : Activity.Call E S T) : devices.Accounted (activity.call call) := by
  cases call with
  | exchange e call =>
    intro e'
    by_cases he : e' = e
    · subst he
      simp only [Activity.call, Function.update_self]
      exact (h e').call call
    · simp only [Activity.call, Function.update_of_ne he]
      exact h e'
  | phoneSession | pcSession => exact h

theorem confirmed_call {activity : Activity E S T} (haccounted : devices.Accounted activity) {e : E}
    {input : Bytes} (h : (activity.exchange e).Confirmed input) (call : Activity.Call E S T) :
    ((activity.call call).exchange e).Confirmed input := by
  cases call with
  | exchange e' call =>
    by_cases he : e = e'
    · subst he
      simp only [Activity.call, Function.update_self]
      exact h.call (haccounted e) call
    · simp only [Activity.call, Function.update_of_ne he]
      exact h
  | phoneSession | pcSession => exact h

end Calls

/-- A SAS input is too long to be authenticated by anything but a confirmation. -/
theorem Authenticated.confirmed [Ciborium.Lawful] {activity : Activity E S T} {key ssEph pk pk' : Key32}
    {token : Octets 16}
    (h : devices.Authenticated activity key (sasInput ssEph pk pk' token)) :
    ∃ e, (activity.exchange e).Confirmed (sasInput ssEph pk pk' token) := by
  generalize hmessage : sasInput ssEph pk pk' token = message at h
  have hlength := congrArg List.length hmessage
  rw [sasInput_length] at hlength
  cases h with
  | @hello s _ hbasis =>
    have hmem := Session.helloBasis_length_mem devices.phone.deviceId
      (Keypair.fromSeed (devices.sessionSeed s)).publicBytes (devices.sessionMs s)
    rw [Session.helloMacBasis_eq, Except.ok.injEq] at hbasis
    simp [hbasis, ← hlength] at hmem
  | helloAck => simp [ackMacBasis] at hlength
  | confirm hconfirmed => exact ⟨_, hconfirmed⟩

/-! ## One pairing of the computer -/

/-- The computer's pairing machine, everything it has told its caller to do, and the rest. -/
structure World (E S T : Type) where
  pairing : PcPairing
  actions : List PairingAction
  activity : Activity E S T

namespace World

/-- Hand a frame to the pairing. -/
def onFrame (world : World E S T) (frame : Frame) (nowMs : UInt64) (seed : Option Key32) :
    World E S T :=
  let result := world.pairing.onFrame frame nowMs seed
  ⟨result.1, world.actions ++ result.2, world.activity⟩

def call [DecidableEq E] [DecidableEq S] [DecidableEq T] (world : World E S T)
    (call : Activity.Call E S T) : World E S T :=
  { world with activity := world.activity.call call }

end World

variable (devices)

/-- What the pairing of `displayName`, `hosts` and `token` can lead to: any frame the MAC allows, at any
time, with or without a working random source, and anything else the devices do in between. -/
inductive Reachable [DecidableEq E] [DecidableEq S] [DecidableEq T] (displayName : String)
    (hosts : List String) (token : Octets 16) (issuedMs : UInt64) : World E S T → Prop
  | start : Reachable displayName hosts token issuedMs
      ⟨.withToken devices.pc displayName hosts token issuedMs, [], devices.initial⟩
  | frame {world : World E S T} (hreach : Reachable displayName hosts token issuedMs world)
      (frame : Frame) (nowMs : UInt64) (seed : Option Key32)
      (hmac : devices.MacUnforgeable world.activity world.pairing frame) :
      Reachable displayName hosts token issuedMs (world.onFrame frame nowMs seed)
  | call {world : World E S T} (hreach : Reachable displayName hosts token issuedMs world)
      (call : Activity.Call E S T) : Reachable displayName hosts token issuedMs (world.call call)

/-- What holds in every run of a pairing. -/
structure Inv (token : Octets 16) (world : World E S T) : Prop where
  identity_eq : world.pairing.identity = devices.pc
  token_eq : world.pairing.token = token
  coherent : world.pairing.Coherent
  accounted : devices.Accounted world.activity
  shown : ∀ {input}, world.pairing.sasInput = some input →
    .showSas (sasEmoji (sasDigest input)) ∈ world.actions
  completed : ∀ {record : PairingRecord}, .completed record ∈ world.actions →
    ∃ peer input nowMs, world.pairing.peer = some peer ∧ world.pairing.sasInput = some input ∧
      record = .new peer.deviceId peer.pk peer.displayName nowMs ∧
      (peer.pk = devices.phone.publicBytes → ∃ e, (world.activity.exchange e).Confirmed input)

variable {devices}

/-- The MAC check of a completing confirmation, under the static secret of the two devices. -/
theorem confirmed_of_unforgeable [X25519Commutes] [Ciborium.Lawful] {activity : Activity E S T}
    {pairing : PcPairing} {frame : Frame} {peer : PeerHandshake} {input : Bytes}
    (hidentity : pairing.identity = devices.pc) (hcoherent : pairing.Coherent)
    (hmac : devices.MacUnforgeable activity pairing frame)
    (hconfirmed : pairing.Confirmed frame peer input) (hpeer : peer.pk = devices.phone.publicBytes) :
    ∃ e, (activity.exchange e).Confirmed input := by
  obtain ⟨r, mac, hslice, hread, hverify⟩ := hconfirmed.fields
  obtain ⟨_, eph, ephPkI, -, -, -, hinput⟩ := hcoherent.basis hconfirmed.sasInput_eq
  have hstatic : pairing.identity.dh peer.pk = devices.ssStatic := by
    rw [hidentity, hpeer, ssStatic, Keypair.dh_comm]
  rw [hstatic] at hverify
  have hauthenticated := hmac input mac
    ⟨hconfirmed.state, hconfirmed.ty, hconfirmed.sasInput_eq, r, hslice, hread⟩ hverify
  rw [hinput] at hauthenticated ⊢
  exact hauthenticated.confirmed

theorem Inv.frame [X25519Commutes] [Ciborium.Lawful] {token : Octets 16} {world : World E S T}
    (h : devices.Inv token world) {frame : Frame} (nowMs : UInt64) (seed : Option Key32)
    (hmac : devices.MacUnforgeable world.activity world.pairing frame) :
    devices.Inv token (world.onFrame frame nowMs seed) := by
  obtain ⟨hidentity, htoken⟩ := world.pairing.onFrame_identity frame nowMs seed
  have hcoherent := h.coherent.onFrame frame nowMs seed
  have hcases := world.pairing.onFrame_cases frame nowMs seed
  unfold World.onFrame
  generalize world.pairing.onFrame frame nowMs seed = result at hidentity htoken hcoherent hcases
  refine ⟨hidentity.trans h.identity_eq, htoken.trans h.token_eq, hcoherent, h.accounted,
    fun hinput ↦ ?_, fun hrecord ↦ ?_⟩
  · cases hcases with
    | refused | confirmed => exact List.mem_append_left _ (h.shown hinput)
    | answered =>
      cases hinput
      exact List.mem_append_right _ (List.mem_cons_of_mem _ (List.mem_singleton_self _))
  · cases hcases with
    | refused => exact h.completed (by simpa using hrecord)
    | answered hacceptable =>
      obtain ⟨peer, -, -, hpeer, -⟩ := h.completed (by simpa [PcPairing.answer] using hrecord)
      rw [(h.coherent.fresh hacceptable.state).1] at hpeer
      cases hpeer
    | confirmed hconfirmed =>
      obtain hearlier | hnow := List.mem_append.mp hrecord
      · exact h.completed hearlier
      · cases List.mem_singleton.mp hnow
        exact ⟨_, _, nowMs, hconfirmed.peer_eq, hconfirmed.sasInput_eq, rfl,
          confirmed_of_unforgeable h.identity_eq h.coherent hmac hconfirmed⟩

section Run

variable [DecidableEq E] [DecidableEq S] [DecidableEq T]

theorem Reachable.inv [X25519Commutes] [Ciborium.Lawful] {displayName : String} {hosts : List String}
    {token : Octets 16} {issuedMs : UInt64} {world : World E S T}
    (hreach : devices.Reachable displayName hosts token issuedMs world) : devices.Inv token world := by
  induction hreach with
  | start =>
    exact ⟨rfl, rfl, PcPairing.withToken_coherent .., initial_accounted, fun h ↦ (nomatch h),
      fun h ↦ nomatch h⟩
  | frame _ frame nowMs seed hmac ih => exact ih.frame nowMs seed hmac
  | call _ call ih =>
    refine ⟨ih.identity_eq, ih.token_eq, ih.coherent, ih.accounted.call call, ih.shown,
      fun hrecord ↦ ?_⟩
    obtain ⟨peer, input, nowMs, hpeer, hinput, hrecord, hphone⟩ := ih.completed hrecord
    refine ⟨peer, input, nowMs, hpeer, hinput, hrecord, fun hpk ↦ ?_⟩
    obtain ⟨e, he⟩ := hphone hpk
    exact ⟨e, confirmed_call ih.accounted he call⟩

end Run

/-- What an exchange of the phone and a pairing of the computer agree on. -/
structure Agrees (devices : PairingDevices E S T) (pairing : PcPairing) (actions : List PairingAction)
    (e : E) (exchange : PhoneExchange) : Prop where
  /-- The phone has sent its confirmation, over the SAS input of the computer. -/
  confirmed : ∃ input, pairing.sasInput = some input ∧ exchange.Confirmed input
  /-- Both sides have computed one ephemeral secret, and mean the same keys and token. -/
  secret : ∃ eph ephPkI ephPkR, pairing.eph = some eph ∧ eph.dh ephPkI = exchange.pairing.eph.dh ephPkR ∧
    pairing.sasInput = some (sasInput (eph.dh ephPkI) devices.phone.publicBytes
      devices.pc.publicBytes pairing.token)
  publicKey : (devices.qr e).publicKey = devices.pc.publicBytes
  pairToken : (devices.qr e).pairToken = pairing.token
  /-- Both have shown the emoji of that input. -/
  emoji : ∃ input, pairing.sasInput = some input ∧
    .showSas (sasEmoji (sasDigest input)) ∈ actions ∧
    .showSas (sasEmoji (sasDigest input)) ∈ exchange.actions
  /-- The phone has kept a record of this computer. -/
  record : ∃ record, .completed record ∈ exchange.actions ∧
    record.publicKeyBytes = .ok devices.pc.publicBytes ∧ record.deviceIdBytes = .ok devices.pc.deviceId

theorem agrees_of_confirmed [TextCodecs.Lawful] {activity : Activity E S T} {pairing : PcPairing}
    {actions : List PairingAction} {e : E} {peer : PeerHandshake} {input : Bytes}
    (haccounted : devices.Accounted activity) (hidentity : pairing.identity = devices.pc)
    (hcoherent : pairing.Coherent) (hpeer : pairing.peer = some peer)
    (hphone : peer.pk = devices.phone.publicBytes) (hinput : pairing.sasInput = some input)
    (hshown : .showSas (sasEmoji (sasDigest input)) ∈ actions)
    (hconfirmed : (activity.exchange e).Confirmed input) :
    devices.Agrees pairing actions e (activity.exchange e) := by
  obtain ⟨peer', eph, ephPkI, hpeer', heph, -, hbasis⟩ := hcoherent.basis hinput
  cases hpeer.symm.trans hpeer'
  rw [hidentity, hphone] at hbasis
  obtain ⟨hphoneInput, payload, hsent⟩ := hconfirmed
  obtain ⟨⟨ephPkR, hphoneBasis⟩, hphoneShown⟩ := (haccounted e).shown hphoneInput
  obtain ⟨hsecret, -, hpublicKey, htoken⟩ := sasInput_inj (hbasis.symm.trans hphoneBasis)
  obtain ⟨-, nowMs, hrecord⟩ := (haccounted e).confirmed hsent
  have hid : (devices.qr e).deviceId = devices.pc.deviceId := by
    rw [QrPayload.parse_deviceId (devices.scans e), ← hpublicKey]
    rfl
  exact {
    confirmed := ⟨input, hinput, hphoneInput, payload, hsent⟩
    secret := ⟨eph, ephPkI, ephPkR, heph, hsecret, by rw [hinput, hbasis]⟩
    publicKey := hpublicKey.symm
    pairToken := htoken.symm
    emoji := ⟨input, hinput, hshown, hphoneShown⟩
    record := ⟨_, hrecord, by rw [PairingRecord.publicKeyBytes_new, hpublicKey],
      by rw [PairingRecord.deviceIdBytes_new, hid]⟩ }

/-- Whatever the network does, a computer that completes with a record of the phone has found the
phone's agreement: the phone has confirmed the very SAS input of the computer, after showing the same
emoji, and keeps a record of this computer. -/
theorem completed_agrees [X25519Commutes] [Ciborium.Lawful] [TextCodecs.Lawful] [DecidableEq E]
    [DecidableEq S] [DecidableEq T] {displayName : String} {hosts : List String} {token : Octets 16}
    {issuedMs : UInt64} {world : World E S T}
    (hreach : devices.Reachable displayName hosts token issuedMs world) {record : PairingRecord}
    (hcompleted : .completed record ∈ world.actions)
    (hrecord : record.publicKeyBytes = .ok devices.phone.publicBytes) :
    world.pairing.token = token ∧
      ∃ e, devices.Agrees world.pairing world.actions e (world.activity.exchange e) := by
  have hinv := hreach.inv
  obtain ⟨peer, input, nowMs, hpeer, hinput, rfl, hconfirmed⟩ := hinv.completed hcompleted
  rw [PairingRecord.publicKeyBytes_new, Except.ok.injEq] at hrecord
  obtain ⟨e, he⟩ := hconfirmed hrecord
  exact ⟨hinv.token_eq, e, agrees_of_confirmed hinv.accounted hinv.identity_eq hinv.coherent hpeer
    hrecord hinput (hinv.shown hinput) he⟩

end PairingDevices

end Agreement

namespace Reference

/-- The phone scans the code of the computer, and no session is open. -/
def pairingDevices : PairingDevices Unit Empty Empty where
  phone := devices.phone
  phoneName := devices.phoneName
  pc := devices.pc
  url _ := pairing.qrUrl
  qr _ := pairing.qrPayload
  scans _ := QrPayload.parse_toUrl rfl rfl (by decide)
  exchangeSeed _ := devices.phoneSeed
  exchange _ := ⟨devices.phone, devices.phoneName, pairing.qrPayload, .fromSeed devices.phoneSeed,
    .awaitingAck, none⟩
  pairReq _ := pairReq
  starts _ := PhonePairing.start_eq devices.phone devices.phoneName_lt pairing.qrPayload devices.phoneSeed
  sessionPeer := nofun
  sessionSeed := nofun
  sessionMs := nofun
  phoneSession := nofun
  hello := nofun
  opens := nofun
  knownPeers := nofun
  pcSessionMs := nofun

/-- The computer has received the PAIR_REQ of the phone. -/
def requested : PairingDevices.World Unit Empty Empty :=
  PairingDevices.World.onFrame ⟨pairing, [], pairingDevices.initial⟩ pairReq 1000
    (some devices.pcSeed)

/-- The phone has received the answer, and its user has confirmed the emoji. -/
def confirmed : PairingDevices.World Unit Empty Empty :=
  (requested.call (.exchange () (.onFrame pairAck))).call (.exchange () (.confirmSas 5))

def completed : PairingDevices.World Unit Empty Empty := confirmed.onFrame pairConfirm 7 none

theorem completed_reachable : pairingDevices.Reachable devices.pcName devices.hosts devices.token
    devices.issuedMs completed := by
  have hrequested : pairingDevices.Reachable devices.pcName devices.hosts devices.token
      devices.issuedMs requested :=
    .frame .start _ 1000 _ fun message mac hpresents ↦ nomatch hpresents.1
  have hconfirmed : pairingDevices.Reachable devices.pcName devices.hosts devices.token
      devices.issuedMs confirmed :=
    .call (.call hrequested (.exchange () (.onFrame pairAck))) (.exchange () (.confirmSas 5))
  refine .frame hconfirmed pairConfirm 7 none fun message mac hpresents _ ↦ ?_
  obtain ⟨-, -, hinput, -⟩ := hpresents
  have hsame : confirmed.pairing.sasInput = (confirmed.activity.exchange ()).pairing.sasInput := by
    decide +kernel
  have hsent : .send pairConfirm ∈ (confirmed.activity.exchange ()).actions := by decide +kernel
  exact .confirm ⟨hsame.symm.trans hinput, _, hsent⟩

end Reference

open Reference in
theorem completed_agrees_two_devices :
    ∃ e, pairingDevices.Agrees completed.pairing completed.actions e
      (completed.activity.exchange e) := by
  have hrecord : .completed (.new devices.phone.deviceId devices.phone.publicBytes devices.phoneName 7) ∈
      completed.actions := by decide +kernel
  exact (PairingDevices.completed_agrees completed_reachable hrecord
    (PairingRecord.publicKeyBytes_new ..)).2

end AirClip
