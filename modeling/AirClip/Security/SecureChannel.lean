import AirClip.Security.Link

/-!
# The secure channel over all sessions

Any number of sessions between one phone and one computer run side by side, and the network decides
which frame reaches which of them.  The primitives are ideal in the run: a frame whose MAC verifies
under the static secret of the two devices carries a message one of them has authenticated, and a
ciphertext that opens has been sealed under that very key, nonce and associated data.  Every session
draws its own ephemerals, so its two keys belong to it alone.

The invariant says who holds which keys.  Each established end is linked to at most one other end,
and accepts from it as a lossy ordered channel delivers.
-/

open Foundation

namespace AirClip

section Ideal

variable [Primitives] [Ciborium]

/-- Two devices and the sessions they open: `I` numbers those of the phone and `J` those of the
computer.  All random draws are fixed in advance, a session using at most one. -/
structure Setup (I J : Type) where
  phone : IdentityKeypair
  pc : IdentityKeypair
  /-- The devices the computer is paired with. -/
  knownPeers : List PeerKey
  phoneSeed : I → Key32
  phoneOpenedMs : I → UInt64
  pcSeed : J → Key32
  pcOpenedMs : J → UInt64
  phoneSession : I → Session
  hello : I → Frame
  opens : ∀ i, Session.startPhone phone ⟨pc.deviceId, pc.publicBytes⟩ (phoneOpenedMs i)
    (some (phoneSeed i)) = .ok (phoneSession i, hello i)

namespace Setup

variable {I J : Type} (setup : Setup I J)

/-- The phone as the computer knows it. -/
def phonePeer : PeerKey := ⟨setup.phone.deviceId, setup.phone.publicBytes⟩

/-- The computer as the phone knows it. -/
def pcPeer : PeerKey := ⟨setup.pc.deviceId, setup.pc.publicBytes⟩

def ssStatic : Key32 := setup.phone.dh setup.pc.publicBytes

def phoneEph (i : I) : EphemeralKeypair := .fromSeed (setup.phoneSeed i)

def pcEph (j : J) : EphemeralKeypair := .fromSeed (setup.pcSeed j)

def keys (i : I) (j : J) : SessionKeys :=
  sessionKeys ((setup.pcEph j).dh (setup.phoneEph i).publicBytes)
    ((setup.pcEph j).dh setup.phone.publicBytes) setup.ssStatic setup.phone.deviceId
    setup.pc.deviceId

/-- The key under which one role transmits in the session of these two ephemerals. -/
def key (i : I) (j : J) : Role → Key32
  | .phone => (setup.keys i j).p2c
  | .pc => (setup.keys i j).c2p

/-- Keys derived from different ephemerals or for different directions are different. -/
def KeysDiffer : Prop :=
  ∀ {i i' : I} {j j' : J} {role role' : Role}, setup.key i j role = setup.key i' j' role' →
    i = i' ∧ j = j' ∧ role = role'

/-- The endpoints of all sessions. -/
abbrev World (I J : Type) := I ⊕ J → Endpoint

def initial : World I J
  | .inl i => .opening (setup.phoneSession i) [setup.hello i]
  | .inr j => .opening (Session.newPc setup.pc setup.knownPeers (setup.pcOpenedMs j)) []

/-- The endpoint has a session of the two devices.  Another device may have opened that of a
computer. -/
def Between (world : World I J) : I ⊕ J → Prop
  | .inl _ => True
  | .inr j => (world (.inr j)).session.peer = some setup.phonePeer

/-! ## The ideal primitives -/

/-- The messages the two devices have authenticated under their static secret: the HELLOs of the
phone, the HELLO_ACKs of the computer, and pairing confirmations. -/
inductive Maced (world : World I J) : Bytes → Prop
  | hello {i : I} {basis : Bytes} (hbasis : helloMacBasis setup.phone.deviceId
      (setup.phoneEph i).publicBytes (setup.phoneOpenedMs i) = .ok basis) : Maced world basis
  | ack {j : J} {hello : Session.HelloFields}
      (hgreeting : (world (.inr j)).greeting = some hello)
      (hbetween : setup.Between world (.inr j)) :
      Maced world (ackMacBasis (setup.pcEph j).publicBytes hello.ephPkI)
  | confirm (ssEph pkIdPhone pkIdPc : Key32) (pairToken : Octets 16) :
      Maced world (sasInput ssEph pkIdPhone pkIdPc pairToken)

/-- The message and MAC a handshake frame makes a session check. -/
inductive Presents (session : Session) (frame : Frame) : Bytes → Key32 → Prop
  | hello {r : MapReader} {hello : Session.HelloFields} {basis : Bytes} (hty : frame.ty = .hello)
      (hslice : MapReader.fromSlice frame.payload = .ok r)
      (hread : Session.HelloFields.read r = some hello)
      (hbasis : helloMacBasis ⟨hello.id⟩ hello.ephPkI hello.ts = .ok basis) :
      Presents session frame basis hello.mac
  | helloAck {r : MapReader} {ephPkI ephPkR mac : Key32} (hty : frame.ty = .helloAck)
      (hephPkI : session.ephPkI = some ephPkI)
      (hslice : MapReader.fromSlice frame.payload = .ok r)
      (hread : Session.readHelloAck r = some (ephPkR, mac)) :
      Presents session frame (ackMacBasis ephPkR ephPkI) mac

/-- A MAC that verifies under the static secret is over a message one of the two devices has
authenticated. -/
def MacUnforgeable (world : World I J) (e : I ⊕ J) (frame : Frame) : Prop :=
  ∀ message mac, Presents (world e).session frame message mac →
    keyedMac setup.ssStatic message = mac → setup.Maced world message

/-- The endpoint has sealed this ciphertext under this key, nonce and associated data. -/
def HasSealed (endpoint : Endpoint) (key : Key32) (nonce : Octets 12) (aad ct : Bytes) : Prop :=
  ∃ channel, endpoint.session.channel = some channel ∧ channel.tx.key = key ∧
    ∃ sent ∈ ciphertexts endpoint.sent, AeadChannel.nonceFor (counterOf sent) = nonce ∧
      AeadChannel.aadFor sent.ty = aad ∧ sent.payload.drop 8 = ct

/-- A ciphertext that opens in a session of the two devices has been sealed under exactly that key,
nonce and associated data. -/
def AeadUnforgeable (world : World I J) (e : I ⊕ J) (frame : Frame) : Prop :=
  setup.Between world e → ∀ channel plain, (world e).session.channel = some channel →
    Primitives.aeadDecrypt channel.rx.key (AeadChannel.nonceFor (counterOf frame))
      (frame.payload.drop 8) (AeadChannel.aadFor frame.ty) = some plain →
    ∃ m, HasSealed (world m) channel.rx.key (AeadChannel.nonceFor (counterOf frame))
      (AeadChannel.aadFor frame.ty) (frame.payload.drop 8)

/-- Any outbound call may be made at any time.  A frame may be any the ideal primitives allow, and the
computer's random source, if it works, gives the draw of that session. -/
def Admissible (world : World I J) (e : I ⊕ J) : Session.Call → Prop
  | .onFrame frame _ seed => setup.MacUnforgeable world e frame ∧
      setup.AeadUnforgeable world e frame ∧ ∀ j, e = .inr j → ∀ s, seed = some s → s = setup.pcSeed j
  | _ => True

/-- A session the computer has with another device transmits under a key of its own. -/
def OthersDiffer (world : World I J) : Prop :=
  ∀ j channel, (world (.inr j)).session.channel = some channel →
    ¬ setup.Between world (.inr j) → ∀ i j' role, channel.tx.key ≠ setup.key i j' role

/-- The worlds that calls and deliveries lead to, in any order. -/
inductive Reachable [DecidableEq I] [DecidableEq J] : World I J → Prop
  | start : Reachable setup.initial
  | call {world : World I J} (hreach : Reachable world) (e : I ⊕ J) (call : Session.Call)
      (hadmissible : setup.Admissible world e call)
      (hothers : setup.OthersDiffer (Function.update world e ((world e).call call))) :
      Reachable (Function.update world e ((world e).call call))

/-! ## Who holds which keys -/

/-- The endpoint is the end of its role in the session of these two ephemerals. -/
def Holds (world : World I J) : I ⊕ J → I → J → Prop
  | .inl i', i, j => i' = i ∧ ∃ channel, (world (.inl i')).session.channel = some channel ∧
      channel.tx.key = setup.key i j .phone ∧ channel.rx.key = setup.key i j .pc
  | .inr j', i, j => j' = j ∧ ∃ channel, (world (.inr j')).session.channel = some channel ∧
      channel.tx.key = setup.key i j .pc ∧ channel.rx.key = setup.key i j .phone

/-- The invariant of a run, endpoint by endpoint. -/
structure EndInv (world : World I J) (e : I ⊕ J) : Prop where
  accounted : (world e).Accounted
  party : (setup.initial e).session.SameParty (world e).session
  /-- Before the handshake nothing has happened. -/
  fresh : (world e).session.channel = none →
    (world e).accepted = [] ∧ (world e).session.peer = (setup.initial e).session.peer
  holds : setup.Between world e → ∀ channel, (world e).session.channel = some channel →
    ∃ i j, setup.Holds world e i j
  linked : setup.Between world e → (world e).Unread ∨ ∃ m, Link (world m) (world e)

/-- The invariant of a run. -/
structure Inv (world : World I J) : Prop where
  ends : ∀ e, setup.EndInv world e
  others : setup.OthersDiffer world

variable {setup}

theorem holds_congr {world world' : World I J} {e : I ⊕ J} {i : I} {j : J}
    (h : world' e = world e) : setup.Holds world' e i j ↔ setup.Holds world e i j := by
  cases e <;> simp only [Holds, h]

theorem between_congr {world world' : World I J} {e : I ⊕ J} (h : world' e = world e) :
    setup.Between world' e ↔ setup.Between world e := by
  cases e <;> simp only [Between, h]

/-- The end of one role in the session of two ephemerals. -/
def side (i : I) (j : J) : Role → I ⊕ J
  | .phone => .inl i
  | .pc => .inr j

/-- The role at the far end of a session. -/
def farRole : Role → Role
  | .phone => .pc
  | .pc => .phone

omit [Primitives] [Ciborium] in
@[simp]
theorem farRole_farRole (role : Role) : farRole (farRole role) = role := by cases role <;> rfl

omit [Primitives] [Ciborium] in
theorem isLeft_side_ne (i : I) (j : J) (role : Role) :
    (side i j role).isLeft ≠ (side i j (farRole role)).isLeft := by
  cases role <;> simp [side, farRole]

theorem Holds.exists_side {world : World I J} {e : I ⊕ J} {i : I} {j : J}
    (h : setup.Holds world e i j) : ∃ role, e = side i j role := by
  cases e with
  | inl =>
    obtain ⟨rfl, -⟩ := h
    exact ⟨.phone, rfl⟩
  | inr =>
    obtain ⟨rfl, -⟩ := h
    exact ⟨.pc, rfl⟩

/-- The end of a role transmits with the key of that role and receives with that of the other. -/
theorem Holds.keys {world : World I J} {role : Role} {channel : AeadChannel} {i : I} {j : J}
    (h : setup.Holds world (side i j role) i j)
    (hchannel : (world (side i j role)).session.channel = some channel) :
    channel.tx.key = setup.key i j role ∧ channel.rx.key = setup.key i j (farRole role) := by
  cases role with
  | phone | pc =>
    obtain ⟨-, channel', hchannel', htx, hrx⟩ := h
    cases hchannel.symm.trans hchannel'
    exact ⟨htx, hrx⟩

/-- A key is transmitted with at one place only. -/
theorem Inv.end_of_key {world : World I J} (hinv : setup.Inv world) (hkeys : setup.KeysDiffer)
    {m : I ⊕ J} {channel : AeadChannel} {i : I} {j : J} {role : Role}
    (hchannel : (world m).session.channel = some channel)
    (hkey : channel.tx.key = setup.key i j role) : m = side i j role ∧ setup.Holds world m i j := by
  have hbetween : setup.Between world m := by
    by_contra hnot
    cases m with
    | inl i' => exact hnot trivial
    | inr j' => exact hinv.others j' channel hchannel hnot i j role hkey
  obtain ⟨i', j', hholds⟩ := (hinv.ends m).holds hbetween channel hchannel
  obtain ⟨role', rfl⟩ := hholds.exists_side
  obtain ⟨rfl, rfl, rfl⟩ := hkeys ((hholds.keys hchannel).1.symm.trans hkey)
  exact ⟨rfl, hholds⟩

/-! ## Handshakes in a run -/

theorem phoneSession_eq (i : I) : setup.phoneSession i =
    Session.phoneOpened setup.phone setup.pcPeer (setup.phoneOpenedMs i) (setup.phoneEph i) := by
  obtain ⟨eph, heph, hopen⟩ := Session.startPhone_opens (setup.opens i)
  cases heph
  exact Session.startPhone_session hopen

theorem ssStatic_comm [X25519Commutes] : setup.pc.dh setup.phone.publicBytes = setup.ssStatic :=
  Keypair.dh_comm _ _

/-- A computer that accepts a HELLO of the phone derives the keys of one of its sessions. -/
theorem Inv.greeted_keys [X25519Commutes] [Ciborium.Lawful] {world : World I J}
    (hinv : setup.Inv world) {j : J} {frame : Frame} {nowMs : UInt64} {seed : Option Key32}
    {hello : Session.HelloFields} {basis : Bytes} {eph : EphemeralKeypair}
    (hty : frame.ty = .hello)
    (hauth : (world (.inr j)).session.HelloAuthentic frame.payload nowMs hello setup.phonePeer basis)
    (heph : Keypair.generate seed = .ok eph)
    (hadmissible : setup.Admissible world (.inr j) (.onFrame frame nowMs seed)) :
    ∃ i, hello.ephPkI = (setup.phoneEph i).publicBytes ∧
      (world (.inr j)).session.pcKeys hello setup.phonePeer eph = setup.keys i j := by
  obtain ⟨hmac, -, hseed⟩ := hadmissible
  have hidentity : (world (.inr j)).session.identity = setup.pc := (hinv.ends (.inr j)).party.identity
  have hpeph : eph = setup.pcEph j := by
    cases seed with
    | none => cases heph
    | some s =>
      cases heph
      rw [hseed j rfl s rfl, pcEph]
  obtain ⟨r, hslice, hread⟩ := hauth.fields
  have hverified : keyedMac setup.ssStatic basis = hello.mac := by
    rw [← hauth.mac, hidentity, phonePeer, ssStatic_comm]
  have hid : (⟨hello.id⟩ : DeviceId) = setup.phone.deviceId := by
    have hfound := List.find?_some hauth.known
    exact (of_decide_eq_true hfound).symm
  have hcanonical := hauth.canonical
  rw [Session.helloMacBasis_eq, Except.ok.injEq] at hcanonical
  cases hmac basis hello.mac (.hello hty hslice hread hauth.canonical) hverified with
  | @hello i _ hbasis =>
    rw [Session.helloMacBasis_eq, Except.ok.injEq, ← hcanonical] at hbasis
    obtain ⟨-, hephPkI, -⟩ := Session.helloBasis_inj hbasis
    refine ⟨i, hephPkI.symm, ?_⟩
    rw [Session.pcKeys, hidentity, hid, hpeph, ← hephPkI, phonePeer, ssStatic_comm, keys]
  | ack hgreeting hbetween =>
    have hlength := Session.helloBasis_length_mem ⟨hello.id⟩ hello.ephPkI hello.ts
    simp [hcanonical, ackMacBasis] at hlength
  | confirm =>
    have hlength := Session.helloBasis_length_mem ⟨hello.id⟩ hello.ephPkI hello.ts
    simp [hcanonical, sasInput_length] at hlength

/-- A phone that accepts a HELLO_ACK derives the keys of one of the computer's sessions. -/
theorem Inv.acknowledged_keys [X25519Commutes] [Ciborium.Lawful] {world : World I J}
    (hinv : setup.Inv world) {i : I} {frame : Frame} {nowMs : UInt64} {seed : Option Key32}
    {peer : PeerKey} {eph : EphemeralKeypair} {ephPkI ephPkR : Key32} (hty : frame.ty = .helloAck)
    (hauth : (world (.inl i)).session.HelloAckAuthentic frame.payload peer eph ephPkI ephPkR)
    (hadmissible : setup.Admissible world (.inl i) (.onFrame frame nowMs seed)) :
    ∃ j, (world (.inl i)).session.phoneKeys peer eph ephPkR = setup.keys i j := by
  have hparty := (hinv.ends (.inl i)).party
  have hsession : (setup.initial (.inl i)).session = setup.phoneSession i := rfl
  rw [hsession, phoneSession_eq] at hparty
  obtain ⟨hpeer, heph⟩ := hparty.phone rfl
  have hidentity : (world (.inl i)).session.identity = setup.phone := hparty.identity
  cases hauth.peer_eq.symm.trans hpeer
  cases hauth.eph_eq.symm.trans heph
  cases hauth.ephPkI_eq.symm.trans hparty.ephPkI
  obtain ⟨r, hslice, hread⟩ := hauth.fields
  rw [hidentity] at hread
  have hmaced := hadmissible.1 _ _ (.helloAck hty hparty.ephPkI hslice hread) rfl
  generalize hmessage : ackMacBasis ephPkR (setup.phoneEph i).publicBytes = message at hmaced
  have hlength := congrArg List.length hmessage
  cases hmaced with
  | @hello i' basis hbasis =>
    have hmem := Session.helloBasis_length_mem setup.phone.deviceId (setup.phoneEph i').publicBytes
      (setup.phoneOpenedMs i')
    rw [Session.helloMacBasis_eq, Except.ok.injEq] at hbasis
    simp [hbasis, ← hlength, ackMacBasis] at hmem
  | @ack j hello hgreeting hbetween =>
    obtain ⟨hephPkR, -⟩ := List.append_inj hmessage (by simp)
    refine ⟨j, ?_⟩
    rw [Session.phoneKeys, hidentity, Octets.toList_inj.mp hephPkR]
    change sessionKeys ((setup.phoneEph i).dh (setup.pcEph j).publicBytes)
      (setup.phone.dh (setup.pcEph j).publicBytes) setup.ssStatic setup.phone.deviceId
      setup.pc.deviceId = _
    rw [Keypair.dh_comm (setup.phoneEph i), Keypair.dh_comm setup.phone, keys]
  | confirm => simp [ackMacBasis, sasInput_length] at hlength

/-! ## One call -/

/-- Every frame an end of the two devices accepts has been sealed by an end that transmits with the
key it receives with. -/
theorem accepts_genuine {world : World I J} {e : I ⊕ J} {call : Session.Call} {rx : AeadChannel}
    (hinv : setup.Inv world) (hadmissible : setup.Admissible world e call)
    (hbetween : setup.Between world e) (hrx : (world e).session.channel = some rx) :
    ∀ item ∈ (world e).session.accepts call, ∃ m tx, (world m).session.channel = some tx ∧
      tx.tx.key = rx.rx.key ∧ item.1 ∈ ciphertexts (world m).sent := by
  intro item hitem
  have haccounted := (hinv.ends e).accounted
  obtain ⟨opened, -, -, hopening, -⟩ := Session.perform_channel haccounted.coherent hrx call
  generalize (world e).session.accepts call = accepted at hopening hitem
  cases hopening with
  | idle => cases hitem
  | @frame frame nowMs seed plain opened hencrypted hopen =>
    cases List.mem_singleton.mp hitem
    obtain ⟨hlength, -, hdecrypt, -⟩ := AeadChannel.openPayload_eq_ok hopen
    obtain ⟨m, tx, htx, hkey, sent, hsent, hnonce, haad, hct⟩ :=
      hadmissible.2.1 hbetween rx plain hrx hdecrypt
    have hlong := (hinv.ends m).accounted.long hsent
    have hframe : sent = frame := frame_ext_of_seal hlong hlength hnonce haad hct
    exact ⟨m, tx, htx, hkey, hframe ▸ hsent⟩

/-- An end that accepts nothing in a call has still accepted nothing. -/
theorem unread_call {endpoint : Endpoint} {call : Session.Call} {rx : AeadChannel}
    (haccounted : endpoint.Accounted) (hunread : endpoint.Unread)
    (hrx : endpoint.session.channel = some rx) (haccepts : endpoint.session.accepts call = []) :
    (endpoint.call call).Unread := by
  obtain ⟨opened, items, later, hopening, hsealing, hlater, -⟩ :=
    Session.perform_channel haccounted.coherent hrx call
  rw [haccepts] at hopening
  cases hopening
  obtain ⟨later, rfl, hside, -⟩ := hsealing.sides
  refine ⟨?_, fun channel hchannel ↦ ?_⟩
  · rw [Endpoint.call, hunread.1, haccepts]
    rfl
  · cases hlater.symm.trans hchannel
    rw [hside]
    exact hunread.2 rx hrx

/-- The receiving end of a call stays unread or linked to the one end it accepts from. -/
theorem linked_call [AeadCorrect] {world : World I J} {e : I ⊕ J} {call : Session.Call}
    {rx : AeadChannel} (hinv : setup.Inv world) (hkeys : setup.KeysDiffer)
    (hadmissible : setup.Admissible world e call) (hbetween : setup.Between world e)
    (hrx : (world e).session.channel = some rx) :
    ((world e).call call).Unread ∨ ∃ m, m ≠ e ∧ Link (world m) ((world e).call call) := by
  have hgenuine := accepts_genuine hinv hadmissible hbetween hrx
  have haccounted := (hinv.ends e).accounted
  obtain ⟨i, j, hholds⟩ := (hinv.ends e).holds hbetween rx hrx
  obtain ⟨role, rfl⟩ := hholds.exists_side
  have hne : side i j role ≠ side i j (farRole role) := by
    intro hside
    exact isLeft_side_ne i j role (congrArg Sum.isLeft hside)
  have hunique {m : I ⊕ J} {tx : AeadChannel} (htx : (world m).session.channel = some tx)
      (hkey : tx.tx.key = rx.rx.key) : m = side i j (farRole role) :=
    (hinv.end_of_key hkeys htx (hkey.trans (hholds.keys hrx).2)).1
  obtain hunread | ⟨m, hlink⟩ := (hinv.ends _).linked hbetween
  · match haccepts : (world (side i j role)).session.accepts call with
    | [] => exact .inl (unread_call haccounted hunread hrx haccepts)
    | item :: rest =>
      obtain ⟨m, tx, htx, hkey, -⟩ := hgenuine item (by simp [haccepts])
      have hlink := Link.start (hinv.ends m).accounted hunread htx hrx hkey
      refine .inr ⟨m, ?_, hlink.receiver_call haccounted call fun item hitem ↦ ?_⟩
      · rw [hunique htx hkey]
        exact hne.symm
      · obtain ⟨m', tx', htx', hkey', hsent⟩ := hgenuine item hitem
        rwa [hunique htx' hkey', ← hunique htx hkey] at hsent
  · obtain ⟨tx, rx', fifo, hlinked⟩ := hlink
    cases hrx.symm.trans hlinked.receiver_channel
    have hm := hunique hlinked.sender_channel hlinked.key
    refine .inr ⟨m, hm ▸ hne.symm, Link.receiver_call ⟨tx, rx, fifo, hlinked⟩ haccounted call
      fun item hitem ↦ ?_⟩
    obtain ⟨m', tx', htx', hkey', hsent⟩ := hgenuine item hitem
    rwa [hunique htx' hkey', ← hm] at hsent

/-- A call with a channel keeps its keys and the peer. -/
theorem holds_call {world world' : World I J} {e : I ⊕ J} {call : Session.Call} {rx : AeadChannel}
    (hinv : setup.Inv world) (hworld' : world' e = (world e).call call)
    (hrx : (world e).session.channel = some rx) :
    (∃ later, (world' e).session.channel = some later) ∧
      (setup.Between world' e ↔ setup.Between world e) ∧
      ∀ i j, setup.Holds world e i j → setup.Holds world' e i j := by
  obtain ⟨opened, items, later, hopening, hsealing, hlater, -, hpeer⟩ :=
    Session.perform_channel (hinv.ends e).accounted.coherent hrx call
  obtain ⟨later, rfl, hrxSide, htxKey⟩ := hsealing.sides
  have hrxKey : later.rx.key = rx.rx.key := by
    rw [hrxSide]
    generalize (world e).session.accepts call = accepted at hopening
    cases hopening with
    | idle => rfl
    | frame _ hopen => exact AeadChannel.openPayload_rx_key hopen
  rw [hopening.tx_eq] at htxKey
  have hchannel : (world' e).session.channel = some later := by rw [hworld']; exact hlater
  have hpeer' : (world' e).session.peer = (world e).session.peer := by rw [hworld']; exact hpeer
  refine ⟨⟨later, hchannel⟩, ?_, fun i j hholds ↦ ?_⟩
  · cases e with
    | inl => exact Iff.rfl
    | inr => rw [Between, Between, hpeer']
  · cases e with
    | inl | inr =>
      obtain ⟨rfl, channel, hsome, htx, hside⟩ := hholds
      cases hrx.symm.trans hsome
      exact ⟨rfl, later, hchannel, htxKey.trans htx, hrxKey.trans hside⟩

/-- A handshake that completes leaves a fresh channel under the keys of one session. -/
theorem established_call [X25519Commutes] [Ciborium.Lawful] {world world' : World I J} {e : I ⊕ J}
    {call : Session.Call} (hinv : setup.Inv world) (hadmissible : setup.Admissible world e call)
    (hworld' : world' e = (world e).call call) (hnone : (world e).session.channel = none) :
    (world' e).Unread ∧
      ((world' e).session.channel = none → (world' e).session.peer = (world e).session.peer) ∧
      (setup.Between world' e → ∀ channel, (world' e).session.channel = some channel →
        ∃ i j, setup.Holds world' e i j) := by
  have hend := hinv.ends e
  obtain ⟨haccepts, -, hestablishing⟩ :=
    Session.perform_no_channel hend.accounted.coherent hnone call
  have haccepted : (world' e).accepted = [] := by
    rw [hworld', Endpoint.call, (hend.fresh hnone).1, haccepts]
    rfl
  have hsession : (world' e).session = ((world e).session.perform call).1 := by
    rw [hworld', Endpoint.call]
  rw [← hsession] at hestablishing
  generalize hlater : (world' e).session = later at hestablishing
  generalize (world e).session.greeting call = greeting at hestablishing
  cases hestablishing with
  | still hchannel hpeer =>
    refine ⟨⟨haccepted, fun channel hsome ↦ ?_⟩, fun _ ↦ hpeer, fun _ channel hsome ↦ ?_⟩
    · rw [hlater, hchannel] at hsome
      cases hsome
    · rw [hchannel] at hsome
      cases hsome
  | @greeted frame nowMs seed hello peer basis eph hstate hty hauth heph =>
    have hchannel : (world' e).session.channel = some (.new _ _) := congrArg Session.channel hlater
    refine ⟨⟨haccepted, fun channel hsome ↦ ?_⟩, fun hnone' ↦ ?_, fun hbetween channel hsome ↦ ?_⟩
    · cases hchannel.symm.trans hsome
      rfl
    · exact absurd hnone' (by simp [Session.greeted])
    · cases e with
      | inl i =>
        have hrole : (world (.inl i)).session.role = .phone := by
          rw [hend.party.role]
          exact congrArg Session.role (phoneSession_eq i)
        exact absurd hstate (hend.accounted.coherent.phone hrole)
      | inr j =>
        have hpeer : peer = setup.phonePeer := by
          rw [Between, hlater] at hbetween
          exact Option.some.inj hbetween
        subst hpeer
        obtain ⟨i, -, hkeys⟩ := hinv.greeted_keys hty hauth heph hadmissible
        exact ⟨i, j, rfl, _, hchannel, congrArg SessionKeys.c2p hkeys,
          congrArg SessionKeys.p2c hkeys⟩
  | @acknowledged frame nowMs seed peer eph ephPkI ephPkR hstate hty hauth =>
    have hchannel : (world' e).session.channel = some (.new _ _) := congrArg Session.channel hlater
    refine ⟨⟨haccepted, fun channel hsome ↦ ?_⟩, fun hnone' ↦ ?_, fun hbetween channel hsome ↦ ?_⟩
    · cases hchannel.symm.trans hsome
      rfl
    · exact absurd hnone' (by simp [Session.acknowledged])
    · cases e with
      | inl i =>
        obtain ⟨j, hkeys⟩ := hinv.acknowledged_keys hty hauth hadmissible
        exact ⟨i, j, rfl, _, hchannel, congrArg SessionKeys.p2c hkeys,
          congrArg SessionKeys.c2p hkeys⟩
      | inr j => exact absurd hstate (hend.accounted.coherent.pc hend.party.role)

/-! ## Runs -/

theorem inv_initial : setup.Inv setup.initial := by
  refine ⟨fun e ↦ ?_, fun j channel hchannel ↦ by cases hchannel⟩
  have hchannel : (setup.initial e).session.channel = none := by
    cases e with
    | inl i => exact congrArg Session.channel (phoneSession_eq i)
    | inr j => rfl
  have hunread : (setup.initial e).accepted = [] := by cases e <;> rfl
  refine ⟨?_, .refl _, fun _ ↦ ⟨hunread, rfl⟩, fun _ channel hsome ↦ ?_,
    fun _ ↦ .inl ⟨hunread, fun channel hsome ↦ ?_⟩⟩
  · cases e with
    | inl i => exact Endpoint.startPhone_accounted (setup.opens i)
    | inr j => exact Endpoint.newPc_accounted _ _ _
  all_goals
    rw [hchannel] at hsome
    cases hsome

section Run

variable [DecidableEq I] [DecidableEq J]

theorem Inv.call [X25519Commutes] [AeadCorrect] [Ciborium.Lawful] {world : World I J}
    (hinv : setup.Inv world) (hkeys : setup.KeysDiffer) {e : I ⊕ J} {call : Session.Call}
    (hadmissible : setup.Admissible world e call)
    (hothers : setup.OthersDiffer (Function.update world e ((world e).call call))) :
    setup.Inv (Function.update world e ((world e).call call)) := by
  refine ⟨fun m ↦ ?_, hothers⟩
  generalize hworld' : Function.update world e ((world e).call call) = world'
  have hself : world' e = (world e).call call := by rw [← hworld', Function.update_self]
  have hother {m : I ⊕ J} (hm : m ≠ e) : world' m = world m := by
    rw [← hworld', Function.update_of_ne hm]
  have hend := hinv.ends m
  by_cases hm : m = e
  · subst hm
    have hparty := hend.party.trans (Session.perform_sameParty hend.accounted.coherent call)
    have haccounted : (world' m).Accounted := hself ▸ hend.accounted.call call
    rw [show (((world m).session.perform call).1) = (world' m).session by rw [hself]; rfl] at hparty
    match hchannel : (world m).session.channel with
    | none =>
      obtain ⟨hunread, hpeer, hholds⟩ := established_call hinv hadmissible hself hchannel
      exact ⟨haccounted, hparty,
        fun hnone ↦ ⟨hunread.1, (hpeer hnone).trans (hend.fresh hchannel).2⟩, hholds,
        fun _ ↦ .inl hunread⟩
    | some rx =>
      obtain ⟨⟨later, hlater⟩, hbetween, hholds⟩ := holds_call hinv hself hchannel
      refine ⟨haccounted, hparty, fun hnone ↦ ?_, fun hb channel _ ↦ ?_, fun hb ↦ ?_⟩
      · rw [hlater] at hnone
        cases hnone
      · obtain ⟨i, j, h⟩ := hend.holds (hbetween.mp hb) rx hchannel
        exact ⟨i, j, hholds i j h⟩
      · rw [hself]
        obtain hunread | ⟨m', hne, hlink⟩ :=
          linked_call hinv hkeys hadmissible (hbetween.mp hb) hchannel
        · exact .inl hunread
        · exact .inr ⟨m', by rwa [hother hne]⟩
  · have hsame := hother hm
    refine ⟨hsame ▸ hend.accounted, hsame ▸ hend.party, fun h ↦ ?_, fun hb channel hchannel ↦ ?_,
      fun hb ↦ ?_⟩
    · rw [hsame] at h ⊢
      exact hend.fresh h
    · rw [hsame] at hchannel
      obtain ⟨i, j, h⟩ := hend.holds ((between_congr hsame).mp hb) channel hchannel
      exact ⟨i, j, (holds_congr hsame).mpr h⟩
    · rw [hsame]
      obtain hunread | ⟨m', hlink⟩ := hend.linked ((between_congr hsame).mp hb)
      · exact .inl hunread
      · refine .inr ⟨m', ?_⟩
        by_cases hm' : m' = e
        · subst hm'
          rw [hself]
          exact hlink.sender_call (hinv.ends m').accounted call
        · rwa [hother hm']

theorem Reachable.inv [X25519Commutes] [AeadCorrect] [Ciborium.Lawful] {world : World I J}
    (hreach : setup.Reachable world) (hkeys : setup.KeysDiffer) : setup.Inv world := by
  induction hreach with
  | start => exact inv_initial
  | call _ e call hadmissible hothers ih => exact ih.call hkeys hadmissible hothers

end Run

/-! ## What an end accepts -/

/-- The two endpoints are the ends of one session: each transmits with the key the other receives
with. -/
def Mirrors (world : World I J) (m e : I ⊕ J) : Prop :=
  m.isLeft ≠ e.isLeft ∧ ∃ left right, (world m).session.channel = some left ∧
    (world e).session.channel = some right ∧ left.tx.key = right.rx.key ∧
    left.rx.key = right.tx.key

/-- Frame types and plaintexts. -/
def typedPlaintexts (items : List (Frame × Bytes)) : List (FrameType × Bytes) :=
  items.map fun item ↦ (item.1.ty, item.2)

/-- An end that has been linked is linked to the other end of its session. -/
theorem Inv.mirrors_of_link {world : World I J} (hinv : setup.Inv world)
    (hkeys : setup.KeysDiffer) {m e : I ⊕ J} (hbetween : setup.Between world e)
    (hlink : Link (world m) (world e)) : Mirrors world m e := by
  obtain ⟨tx, rx, fifo, hlinked⟩ := hlink
  obtain ⟨i, j, hholds⟩ := (hinv.ends e).holds hbetween rx hlinked.receiver_channel
  obtain ⟨role, rfl⟩ := hholds.exists_side
  obtain ⟨htx, hrx⟩ := hholds.keys hlinked.receiver_channel
  obtain ⟨rfl, hholds'⟩ :=
    hinv.end_of_key hkeys hlinked.sender_channel (hlinked.key.trans hrx)
  obtain ⟨-, hrx'⟩ := hholds'.keys hlinked.sender_channel
  rw [farRole_farRole] at hrx'
  exact ⟨(isLeft_side_ne i j role).symm, tx, rx, hlinked.sender_channel,
    hlinked.receiver_channel, hlinked.key, hrx'.trans htx.symm⟩

/-- A session of the two devices has no second end to either of its ends. -/
theorem Inv.mirrors_unique {world : World I J} (hinv : setup.Inv world) (hkeys : setup.KeysDiffer)
    {m e e' : I ⊕ J} (hbetween : setup.Between world e) (h : Mirrors world m e)
    (h' : Mirrors world m e') : e = e' := by
  obtain ⟨-, left, right, hleft, hright, -, htx⟩ := h
  obtain ⟨-, left', right', hleft', hright', -, htx'⟩ := h'
  cases hleft.symm.trans hleft'
  obtain ⟨i, j, hholds⟩ := (hinv.ends e).holds hbetween right hright
  obtain ⟨role, rfl⟩ := hholds.exists_side
  have hkey := (hholds.keys hright).1
  exact (hinv.end_of_key hkeys hright' (htx'.symm.trans (htx.trans hkey))).1.symm

/-- An end that has accepted a frame has got it from the other end of its session. -/
theorem Inv.accepted_from {world : World I J} (hinv : setup.Inv world) (hkeys : setup.KeysDiffer)
    {e : I ⊕ J} (hbetween : setup.Between world e) :
    (world e).accepted = [] ∨ ∃ m channel items, Mirrors world m e ∧
      (world m).session.channel = some channel ∧ Sealed channel.tx.key items ∧
      items.map Prod.fst = ciphertexts (world m).sent ∧ (world e).accepted.Sublist items := by
  obtain hunread | ⟨m, hlink⟩ := (hinv.ends e).linked hbetween
  · exact .inl hunread.1
  · obtain ⟨channel, items, hchannel, hsealed, hsent, hsublist⟩ := hlink.accepted_sublist
    exact .inr ⟨m, channel, items, hinv.mirrors_of_link hkeys hbetween hlink, hchannel, hsealed,
      hsent, hsublist⟩

/-- In every world a run leads to, whatever the network does, an end accepts a subsequence of what
the other end of its session has sealed, with the frame types it was sealed under; no frame is
accepted twice in a session, no endpoint is the other end of two sessions, and a frame accepted in
two sessions has been sealed in both. -/
theorem accepted_sublist_sealed_by_peer [X25519Commutes] [AeadCorrect] [Ciborium.Lawful]
    [DecidableEq I] [DecidableEq J] (hkeys : setup.KeysDiffer) {world : World I J}
    (hreach : setup.Reachable world) :
    (∀ e, setup.Between world e → ((world e).accepted = [] ∨
      ∃ m channel items, Mirrors world m e ∧ (world m).session.channel = some channel ∧
        Sealed channel.tx.key items ∧ items.map Prod.fst = ciphertexts (world m).sent ∧
        (world e).accepted.Sublist items ∧
        (typedPlaintexts (world e).accepted).Sublist (typedPlaintexts items))) ∧
    (∀ e, setup.Between world e → ((world e).accepted.map Prod.fst).Nodup) ∧
    (∀ m e e', setup.Between world e → Mirrors world m e → Mirrors world m e' → e = e') ∧
    ∀ e e' frame, setup.Between world e → setup.Between world e' → e ≠ e' →
      frame ∈ (world e).accepted.map Prod.fst → frame ∈ (world e').accepted.map Prod.fst →
      ∃ m m', m ≠ m' ∧ Mirrors world m e ∧ Mirrors world m' e' ∧
        frame ∈ ciphertexts (world m).sent ∧ frame ∈ ciphertexts (world m').sent := by
  have hinv := hreach.inv hkeys
  have hsource {e : I ⊕ J} {frame : Frame} (hbetween : setup.Between world e)
      (hframe : frame ∈ (world e).accepted.map Prod.fst) :
      ∃ m, Mirrors world m e ∧ frame ∈ ciphertexts (world m).sent := by
    obtain hnone | ⟨m, -, items, hmirrors, -, -, hsent, hsublist⟩ :=
      hinv.accepted_from hkeys hbetween
    · simp [hnone] at hframe
    · exact ⟨m, hmirrors, hsent ▸ (hsublist.map Prod.fst).subset hframe⟩
  refine ⟨fun e hbetween ↦ ?_, fun e hbetween ↦ ?_, fun m e e' hbetween h h' ↦
    hinv.mirrors_unique hkeys hbetween h h', fun e e' frame hbetween hbetween' hne hframe hframe' ↦ ?_⟩
  · obtain hnone | ⟨m, channel, items, hmirrors, hchannel, hsealed, hsent, hsublist⟩ :=
      hinv.accepted_from hkeys hbetween
    · exact .inl hnone
    · exact .inr ⟨m, channel, items, hmirrors, hchannel, hsealed, hsent, hsublist, hsublist.map _⟩
  · obtain hnone | ⟨m, channel, items, -, -, hsealed, -, hsublist⟩ :=
      hinv.accepted_from hkeys hbetween
    · rw [hnone]
      exact List.nodup_nil
    · exact (hsublist.map Prod.fst).nodup hsealed.frames_nodup
  · obtain ⟨m, hmirrors, hsent⟩ := hsource hbetween hframe
    obtain ⟨m', hmirrors', hsent'⟩ := hsource hbetween' hframe'
    refine ⟨m, m', ?_, hmirrors, hmirrors', hsent, hsent'⟩
    rintro rfl
    exact hne (hinv.mirrors_unique hkeys hbetween hmirrors hmirrors')

/-! ## Honest deliveries -/

theorem hello_eq [Ciborium.Lawful] (i : I) : setup.hello i = ⟨.hello,
    Session.helloPayload setup.ssStatic setup.phone.deviceId (setup.phoneEph i).publicBytes
      (setup.phoneOpenedMs i)⟩ := by
  obtain ⟨eph, heph, hopen⟩ := Session.startPhone_opens (setup.opens i)
  cases heph
  rw [Session.startPhone_eq, Except.ok.injEq, Prod.mk.injEq] at hopen
  exact hopen.2.symm

/-- A HELLO of the phone may be delivered, and replayed, everywhere. -/
theorem hello_macUnforgeable [Ciborium.Lawful] (world : World I J) (e : I ⊕ J) (i : I) :
    setup.MacUnforgeable world e (setup.hello i) := by
  obtain ⟨r', hslice', hread'⟩ := Session.fromSlice_helloPayload setup.ssStatic
    setup.phone.deviceId (setup.phoneEph i).publicBytes (setup.phoneOpenedMs i)
  intro message mac hpresents hverified
  rw [hello_eq i] at hpresents
  cases hpresents with
  | hello hty hslice hread hbasis =>
    cases hslice'.symm.trans hslice
    cases hread'.symm.trans hread
    exact .hello hbasis
  | helloAck hty => cases hty

/-- The HELLO_ACK of a computer that has accepted the HELLO of a phone's session may be delivered to
it. -/
theorem helloAck_macUnforgeable [Ciborium.Lawful] {world : World I J} {i : I} {j : J}
    {hello : Session.HelloFields} (hgreeting : (world (.inr j)).greeting = some hello)
    (hbetween : setup.Between world (.inr j))
    (hephPkI : (world (.inl i)).session.ephPkI = some hello.ephPkI) :
    setup.MacUnforgeable world (.inl i) ⟨.helloAck,
      Session.helloAckPayload setup.ssStatic (setup.pcEph j).publicBytes hello.ephPkI⟩ := by
  obtain ⟨r', hslice', hread'⟩ := Session.fromSlice_helloAckPayload setup.ssStatic
    (setup.pcEph j).publicBytes hello.ephPkI
  intro message mac hpresents hverified
  cases hpresents with
  | hello hty => cases hty
  | helloAck hty hsession hslice hread =>
    cases hslice'.symm.trans hslice
    cases hread'.symm.trans hread
    cases hephPkI.symm.trans hsession
    exact .ack hgreeting hbetween

/-- An encrypted frame presents no MAC. -/
theorem encrypted_macUnforgeable (world : World I J) (e : I ⊕ J) {frame : Frame}
    (hencrypted : frame.ty.isEncrypted) : setup.MacUnforgeable world e frame := by
  intro message mac hpresents hverified
  cases hpresents with
  | hello hty | helloAck hty =>
    rw [hty] at hencrypted
    cases hencrypted

/-- A frame the other end has sealed may be delivered. -/
theorem sealed_aeadUnforgeable {world : World I J} {m e : I ⊕ J} {frame : Frame}
    (hmirrors : Mirrors world m e) (hsent : frame ∈ ciphertexts (world m).sent) :
    setup.AeadUnforgeable world e frame := by
  obtain ⟨-, left, right, hleft, hright, hkey, -⟩ := hmirrors
  intro _ channel plain hchannel _
  cases hright.symm.trans hchannel
  exact ⟨m, left, hleft, hkey, frame, hsent, rfl, rfl, rfl⟩

/-- Before the handshake no frame opens. -/
theorem unestablished_aeadUnforgeable {world : World I J} {e : I ⊕ J} (frame : Frame)
    (hnone : (world e).session.channel = none) : setup.AeadUnforgeable world e frame := by
  intro _ channel plain hchannel
  rw [hnone] at hchannel
  cases hchannel

theorem othersDiffer_of_between {world : World I J}
    (h : ∀ j, (world (.inr j)).session.channel = none ∨
      (world (.inr j)).session.peer = some setup.phonePeer) : setup.OthersDiffer world := by
  intro j channel hchannel hother
  obtain hnone | hpeer := h j
  · rw [hnone] at hchannel
    cases hchannel
  · exact absurd hpeer hother

end Setup

end Ideal

namespace Reference

/-- One session of the phone and two of the computer. -/
def setup : Setup Unit Bool where
  phone := phoneIdentity
  pc := pcIdentity
  knownPeers := [phonePeer]
  phoneSeed _ := pad 32 [7]
  phoneOpenedMs _ := 0
  pcSeed j := if j then pad 32 [13] else pad 32 [11]
  pcOpenedMs _ := 0
  phoneSession _ := Session.phoneOpened phoneIdentity pcPeer 0 (.fromSeed (pad 32 [7]))
  hello _ := helloFrame
  opens _ := Session.startPhone_eq phoneIdentity pcPeer 0 (.fromSeed (pad 32 [7]))

theorem setup_keysDiffer : setup.KeysDiffer := by
  have hkeys : ∀ (j j' : Bool) (phone phone' : Bool),
      setup.key () j (if phone then .phone else .pc) =
        setup.key () j' (if phone' then .phone else .pc) → j = j' ∧ phone = phone' := by
    decide +kernel
  intro i i' j j' role role' h
  have hrole (role : Role) : ∃ phone : Bool, role = if phone then .phone else .pc := by
    cases role
    · exact ⟨true, rfl⟩
    · exact ⟨false, rfl⟩
  obtain ⟨phone, rfl⟩ := hrole role
  obtain ⟨phone', rfl⟩ := hrole role'
  obtain ⟨rfl, rfl⟩ := hkeys j j' phone phone' h
  exact ⟨rfl, rfl, rfl⟩

/-- The HELLO reaches the first session of the computer. -/
def greetedOnce : Setup.World Unit Bool := Function.update setup.initial (.inr false)
  ((setup.initial (.inr false)).call (.onFrame helloFrame 0 (some (pad 32 [11]))))

/-- It is replayed to the second one. -/
def greetedTwice : Setup.World Unit Bool := Function.update greetedOnce (.inr true)
  ((greetedOnce (.inr true)).call (.onFrame helloFrame 0 (some (pad 32 [13]))))

/-- The first answer reaches the phone. -/
def acknowledged : Setup.World Unit Bool := Function.update greetedTwice (.inl ())
  ((greetedTwice (.inl ())).call (.onFrame helloAckFrame 0 none))

def pinged : Setup.World Unit Bool := Function.update acknowledged (.inl ())
  ((acknowledged (.inl ())).call .ping)

def pingFrame : Frame := ⟨.ping, le64 0 ++ aeadHeader (setup.key () false .phone)
  (AeadChannel.nonceFor 0) (AeadChannel.aadFor .ping)⟩

/-- The phone's PING reaches the first session. -/
def pingDelivered : Setup.World Unit Bool := Function.update pinged (.inr false)
  ((pinged (.inr false)).call (.onFrame pingFrame 0 none))

theorem greetedTwice_reachable : setup.Reachable greetedTwice := by
  have h1 : setup.Reachable greetedOnce := by
    refine .call .start (.inr false) _ ⟨Setup.hello_macUnforgeable _ _ (),
      Setup.unestablished_aeadUnforgeable _ rfl, ?_⟩
      (Setup.othersDiffer_of_between (by decide +kernel))
    rintro j ⟨⟩ s ⟨⟩
    rfl
  refine .call h1 (.inr true) _ ⟨Setup.hello_macUnforgeable _ _ (),
    Setup.unestablished_aeadUnforgeable _ (by decide +kernel), ?_⟩
    (Setup.othersDiffer_of_between (by decide +kernel))
  rintro j ⟨⟩ s ⟨⟩
  rfl

theorem helloAckFrame_macUnforgeable :
    setup.MacUnforgeable greetedTwice (.inl ()) helloAckFrame := by
  have hgreeted : (greetedTwice (.inr false)).greeting.map (·.ephPkI) =
      some (Primitives.x25519Base (pad 32 [7])) := by decide +kernel
  obtain ⟨hello, hgreeting, hephPkI⟩ := Option.map_eq_some_iff.mp hgreeted
  have hbetween : setup.Between greetedTwice (.inr false) := by
    change (greetedTwice (.inr false)).session.peer = some phonePeer
    decide +kernel
  have hdelivered := Setup.helloAck_macUnforgeable (i := ()) hgreeting hbetween
    (by rw [hephPkI]; decide +kernel)
  rwa [hephPkI] at hdelivered

theorem pinged_mirrors : Setup.Mirrors pinged (.inl ()) (.inr false) := by
  have hkeys : (pinged (.inl ())).session.channel.map (fun c ↦ (c.tx.key, c.rx.key)) =
      some (setup.key () false .phone, setup.key () false .pc) := by decide +kernel
  have hkeys' : (pinged (.inr false)).session.channel.map (fun c ↦ (c.tx.key, c.rx.key)) =
      some (setup.key () false .pc, setup.key () false .phone) := by decide +kernel
  obtain ⟨left, hleft, hl⟩ := Option.map_eq_some_iff.mp hkeys
  obtain ⟨right, hright, hr⟩ := Option.map_eq_some_iff.mp hkeys'
  rw [Prod.mk.injEq] at hl hr
  exact ⟨by decide, left, right, hleft, hright, hl.1.trans hr.2.symm, hl.2.trans hr.1.symm⟩

theorem pingDelivered_reachable : setup.Reachable pingDelivered := by
  have h3 : setup.Reachable acknowledged := by
    refine .call greetedTwice_reachable (.inl ()) _ ⟨helloAckFrame_macUnforgeable,
      Setup.unestablished_aeadUnforgeable _ (by decide +kernel), ?_⟩
      (Setup.othersDiffer_of_between (by decide +kernel))
    rintro j ⟨⟩
  have h4 : setup.Reachable pinged :=
    .call h3 (.inl ()) .ping trivial (Setup.othersDiffer_of_between (by decide +kernel))
  refine .call h4 (.inr false) _ ⟨Setup.encrypted_macUnforgeable _ _ (by decide),
    Setup.sealed_aeadUnforgeable pinged_mirrors (by decide +kernel), ?_⟩
    (Setup.othersDiffer_of_between (by decide +kernel))
  rintro j ⟨⟩ s ⟨⟩

end Reference

open Reference in
theorem accepted_sublist_sealed_by_peer_ping :
    (pingDelivered (.inr false)).accepted.map Prod.fst = [pingFrame] ∧
    (∃ m, Setup.Mirrors pingDelivered m (.inr false) ∧ pingFrame ∈ ciphertexts (pingDelivered m).sent) ∧
    ((pingDelivered (.inr false)).accepted.map Prod.fst).Nodup := by
  have haccepted : (pingDelivered (.inr false)).accepted.map Prod.fst = [pingFrame] := by
    decide +kernel
  have hbetween : setup.Between pingDelivered (.inr false) := by
    change (pingDelivered (.inr false)).session.peer = some phonePeer
    decide +kernel
  obtain ⟨hsource, hnodup, -, -⟩ :=
    Setup.accepted_sublist_sealed_by_peer setup_keysDiffer pingDelivered_reachable
  refine ⟨haccepted, ?_, hnodup _ hbetween⟩
  obtain hnone | ⟨m, channel, items, hmirrors, -, -, hsent, hsublist, -⟩ := hsource _ hbetween
  · rw [hnone] at haccepted
    cases haccepted
  · refine ⟨m, hmirrors, hsent ▸ (hsublist.map Prod.fst).subset ?_⟩
    rw [haccepted]
    exact List.mem_singleton_self _

end AirClip
