import AirClip.Agent.PairingServer
import AirClip.Security.PairingAgreement

/-!
# Authenticity of pairings

The agent of the computer with all its connections, next to a phone that scans codes and confirms
emoji, over a network that reads every frame and delivers what it likes.  The computer commits to a
record when a MAC verifies, and the key of that MAC is derived from the identity key that came with
the PAIR_REQ.  So the records it persists are authentic as long as every such MAC is checked under
the key of the phone, and a single MAC that verifies under another key is enough to persist a record
of somebody else, without the phone or its user.
-/

open Foundation Cbor

namespace AirClip

section Authenticity

variable [Primitives] [Ciborium] [TextCodecs] {C E S T : Type}

/-! ## Records and tasks -/

/-- A record is of the phone, and the phone has confirmed the SAS input it was made from. -/
structure Authentic (devices : PairingDevices E S T) (activity : Activity E S T) (pairing : PcPairing)
    (record : PairingRecord) : Prop where
  publicKey : record.publicKeyBytes = .ok devices.phone.publicBytes
  deviceId : record.deviceIdBytes = .ok devices.phone.deviceId
  confirmed : ∃ e input, pairing.sasInput = some input ∧ (activity.exchange e).Confirmed input

/-- A machine belongs to this computer and remembers what it has answered. -/
structure PcPairing.Owned (devices : PairingDevices E S T) (pairing : PcPairing) : Prop where
  identity : pairing.identity = devices.pc
  coherent : pairing.Coherent

/-- The machine of a task is the computer's, and what the task is about to persist is authentic. -/
def Task.Sound (devices : PairingDevices E S T) (activity : Activity E S T) : Task → Prop
  | .received _ pairing _ => pairing.Owned devices
  | .acting _ pairing actions => pairing.Owned devices ∧
      ∀ record, .completed record ∈ actions → Authentic devices activity pairing record
  | .accepted | .handed _ | .storing .. | .closing _ | .ended => True

section Preservation

variable {devices : PairingDevices E S T} {activity : Activity E S T}

theorem PcPairing.Owned.onFrame {pairing : PcPairing} (h : pairing.Owned devices) (frame : Frame)
    (nowMs : UInt64) (seed : Option Key32) : (pairing.onFrame frame nowMs seed).1.Owned devices :=
  ⟨(pairing.onFrame_identity frame nowMs seed).1.trans h.identity, h.coherent.onFrame frame nowMs seed⟩

theorem Task.Sound.moves {agent : Agent C} {task task' : Task} (hidentity : agent.identity = devices.pc)
    (h : agent.Moves task task') (hsound : task.Sound devices activity) :
    task'.Sound devices activity := by
  cases h with
  | read frame window offer => exact ⟨hidentity, PcPairing.withToken_coherent ..⟩
  | act window pairing action rest =>
    exact ⟨hsound.1, fun record hmem ↦ hsound.2 record (List.mem_cons_of_mem _ hmem)⟩
  | receive => exact hsound.1
  | hand | close | finish => trivial

/-- A confirmation under the phone's key makes an authentic record. -/
theorem authentic_of_confirmed [X25519Commutes] [Ciborium.Lawful] [TextCodecs.Lawful]
    {pairing : PcPairing} {frame : Frame} {peer : PeerHandshake} {input : Bytes}
    (howned : pairing.Owned devices) (hmac : devices.MacUnforgeable activity pairing frame)
    (hconfirmed : pairing.Confirmed frame peer input) (hpeer : peer.pk = devices.phone.publicBytes)
    (nowMs : UInt64) : Authentic devices activity { pairing with state := .done }
      (.new peer.deviceId peer.pk peer.displayName nowMs) := by
  obtain ⟨e, he⟩ := PairingDevices.confirmed_of_unforgeable howned.identity howned.coherent hmac
    hconfirmed hpeer
  obtain ⟨peer', -, -, hpeer', -, hid, -⟩ := howned.coherent.basis hconfirmed.sasInput_eq
  cases hconfirmed.peer_eq.symm.trans hpeer'
  exact {
    publicKey := by rw [PairingRecord.publicKeyBytes_new, hpeer]
    deviceId := by
      rw [PairingRecord.deviceIdBytes_new, ← hid, hpeer]
      rfl
    confirmed := ⟨e, input, hconfirmed.sasInput_eq, he⟩ }

/-- Handing a frame to a machine keeps its task sound, unless it confirms another key. -/
theorem Task.Sound.onFrame [X25519Commutes] [Ciborium.Lawful] [TextCodecs.Lawful]
    {pairing : PcPairing} {frame : Frame} (howned : pairing.Owned devices)
    (hmac : devices.MacUnforgeable activity pairing frame)
    (hphone : ∀ peer input, pairing.Confirmed frame peer input → peer.pk = devices.phone.publicBytes)
    (window : ℕ) (nowMs : UInt64) (seed : Option Key32) :
    Task.Sound devices activity (.acting window (pairing.onFrame frame nowMs seed).1
      (pairing.onFrame frame nowMs seed).2) := by
  refine ⟨howned.onFrame frame nowMs seed, ?_⟩
  have hcases := pairing.onFrame_cases frame nowMs seed
  generalize pairing.onFrame frame nowMs seed = result at hcases
  intro record hrecord
  cases hcases with
  | refused => simp at hrecord
  | answered => simp [PcPairing.answer] at hrecord
  | confirmed hconfirmed =>
    cases List.mem_singleton.mp hrecord
    exact authentic_of_confirmed howned hmac hconfirmed (hphone _ _ hconfirmed) nowMs

section Calls

variable [DecidableEq E] [DecidableEq S] [DecidableEq T]

theorem Authentic.call (haccounted : devices.Accounted activity) {pairing : PcPairing}
    {record : PairingRecord} (h : Authentic devices activity pairing record)
    (call : Activity.Call E S T) : Authentic devices (activity.call call) pairing record := by
  obtain ⟨e, input, hinput, hconfirmed⟩ := h.confirmed
  exact ⟨h.publicKey, h.deviceId, e, input, hinput,
    PairingDevices.confirmed_call haccounted hconfirmed call⟩

theorem Task.Sound.call (haccounted : devices.Accounted activity) {task : Task}
    (h : task.Sound devices activity) (call : Activity.Call E S T) :
    task.Sound devices (activity.call call) := by
  cases task with
  | received => exact h
  | acting => exact ⟨h.1, fun record hmem ↦ (h.2 record hmem).call haccounted call⟩
  | accepted | handed | storing | closing | ended => trivial

end Calls

end Preservation

/-! ## Runs -/

/-- The agent with its connections, and everything else the two devices do. -/
structure PairingNetwork (C E S T : Type) where
  agent : Agent C
  activity : Activity E S T

namespace PairingNetwork

/-- The input hands this frame to this machine. -/
def Hands (network : PairingNetwork C E S T) (input : Agent.Input C) (pairing : PcPairing)
    (frame : Frame) : Prop :=
  ∃ c window nowMs seed, input = .onFrame c nowMs seed ∧
    network.agent.tasks c = .received window pairing frame

/-- A confirmation verifies under a key that is not the phone's: the PAIR_REQ on that connection has
named a key of its own. -/
def ForeignConfirmation (devices : PairingDevices E S T) (network : PairingNetwork C E S T)
    (input : Agent.Input C) : Prop :=
  ∃ pairing frame peer sas, network.Hands input pairing frame ∧ pairing.Confirmed frame peer sas ∧
    peer.pk ≠ devices.phone.publicBytes

/-- What the computer has persisted is authentic. -/
def AllAuthentic (devices : PairingDevices E S T) (network : PairingNetwork C E S T) : Prop :=
  ∀ saved ∈ network.agent.persisted, Authentic devices network.activity saved.1 saved.2

/-- What holds in every run. -/
structure Inv (devices : PairingDevices E S T) (network : PairingNetwork C E S T) : Prop where
  identity : network.agent.identity = devices.pc
  accounted : devices.Accounted network.activity
  tasks : ∀ c, (network.agent.tasks c).Sound devices network.activity
  persisted : network.AllAuthentic devices

section Step

variable [DecidableEq C] {devices : PairingDevices E S T} {network : PairingNetwork C E S T}

def step (network : PairingNetwork C E S T) (input : Agent.Input C) : PairingNetwork C E S T :=
  { network with agent := network.agent.step input }

/-- One task has a new state, and the others keep theirs. -/
theorem Inv.update (h : network.Inv devices) {c : C} {task : Task}
    (htask : task.Sound devices network.activity) (c' : C) :
    (Function.update network.agent.tasks c task c').Sound devices network.activity := by
  by_cases hc : c' = c
  · rw [hc, Function.update_self]
    exact htask
  · rw [Function.update_of_ne hc]
    exact h.tasks c'

theorem Inv.step [X25519Commutes] [Ciborium.Lawful] [TextCodecs.Lawful] (h : network.Inv devices)
    {input : Agent.Input C} (hmac : ∀ pairing frame, network.Hands input pairing frame →
      devices.MacUnforgeable network.activity pairing frame)
    (hallowed : ¬ network.ForeignConfirmation devices input) : (network.step input).Inv devices := by
  have hstepped := network.agent.step_cases input
  unfold PairingNetwork.step
  generalize network.agent.step input = agent at hstepped
  cases hstepped with
  | still hsame htasks =>
    exact ⟨hsame.identity.trans h.identity, h.accounted, htasks ▸ h.tasks,
      fun saved hmem ↦ h.persisted saved (hsame.persisted ▸ hmem)⟩
  | @moved _ _ c task hsame hmoves htasks =>
    refine ⟨hsame.identity.trans h.identity, h.accounted, fun c' ↦ ?_,
      fun saved hmem ↦ h.persisted saved (hsame.persisted ▸ hmem)⟩
    rw [htasks]
    exact h.update ((h.tasks c).moves h.identity hmoves) c'
  | @called c nowMs seed window pairing frame htask =>
    have howned := h.tasks c
    rw [htask] at howned
    have hhands : network.Hands (.onFrame c nowMs seed) pairing frame :=
      ⟨c, window, nowMs, seed, rfl, htask⟩
    refine ⟨h.identity, h.accounted, h.update ?_, h.persisted⟩
    refine Task.Sound.onFrame howned (hmac pairing frame hhands) (fun peer sas hconfirmed ↦ ?_) window
      nowMs seed
    by_contra hpeer
    exact hallowed ⟨pairing, frame, peer, sas, hhands, hconfirmed, hpeer⟩
  | @saved c _ _ window pairing record rest all _ htask hidentity hhandled hpersisted htasks =>
    have hsound := h.tasks c
    rw [htask] at hsound
    have hstoring : Task.Sound devices network.activity (.storing record all) := trivial
    refine ⟨hidentity.trans h.identity, h.accounted, fun c' ↦ ?_, fun saved hmem ↦ ?_⟩
    · rw [htasks]
      exact h.update hstoring c'
    · rw [hpersisted] at hmem
      obtain hearlier | hnow := List.mem_append.mp hmem
      · exact h.persisted saved hearlier
      · cases List.mem_singleton.mp hnow
        exact hsound.2 record (List.mem_cons_self ..)

/-- After a foreign confirmation, a disk that works is enough to persist a record that is not the
phone's. -/
theorem ForeignConfirmation.breaks [TextCodecs.Lawful] {input : Agent.Input C}
    (h : network.ForeignConfirmation devices input) :
    ∃ save, ¬ ((network.step input).step save).AllAuthentic devices := by
  obtain ⟨pairing, frame, peer, sas, ⟨c, window, nowMs, seed, rfl, htask⟩, hconfirmed, hpeer⟩ := h
  refine ⟨.act c true true, fun hall ↦ hpeer ?_⟩
  have hresult := PcPairing.onFrame_confirmed hconfirmed nowMs seed
  have hcalled : network.agent.step (.onFrame c nowMs seed) =
      network.agent.handle c window pairing frame nowMs seed := by
    rw [Agent.step, htask]
  have hacting : (network.agent.handle c window pairing frame nowMs seed).tasks c =
      .acting window { pairing with state := .done }
        [.completed (.new peer.deviceId peer.pk peer.displayName nowMs)] := by
    unfold Agent.handle
    rw [hresult]
    exact Function.update_self ..
  have hmem : ({ pairing with state := .done }, .new peer.deviceId peer.pk peer.displayName nowMs) ∈
      ((network.step (.onFrame c nowMs seed)).step (.act c true true)).agent.persisted := by
    unfold PairingNetwork.step
    dsimp only
    rw [hcalled, Agent.step, hacting]
    exact List.mem_append_right _ (List.mem_singleton_self _)
  have hauthentic := (hall _ hmem).publicKey
  rwa [PairingRecord.publicKeyBytes_new, Except.ok.injEq] at hauthentic

end Step

section Run

variable [DecidableEq E] [DecidableEq S] [DecidableEq T]

def call (network : PairingNetwork C E S T) (call : Activity.Call E S T) : PairingNetwork C E S T :=
  { network with activity := network.activity.call call }

theorem Inv.call {devices : PairingDevices E S T} {network : PairingNetwork C E S T}
    (h : network.Inv devices) (call : Activity.Call E S T) :
    (network.call call).Inv devices :=
  ⟨h.identity, h.accounted.call call, fun c ↦ (h.tasks c).call h.accounted call,
    fun saved hmem ↦ (h.persisted saved hmem).call h.accounted call⟩

variable [DecidableEq C]

/-- What the network and the devices can do, in any order of steps that are all allowed. -/
inductive Reachable (devices : PairingDevices E S T)
    (Allowed : PairingNetwork C E S T → Agent.Input C → Prop) : PairingNetwork C E S T → Prop
  | start (displayName : String) (stored : List PairingRecord) :
      Reachable devices Allowed ⟨.start devices.pc displayName stored, devices.initial⟩
  | step {network : PairingNetwork C E S T} (hreach : Reachable devices Allowed network)
      {input : Agent.Input C} (hmac : ∀ pairing frame, network.Hands input pairing frame →
        devices.MacUnforgeable network.activity pairing frame) (hallowed : Allowed network input) :
      Reachable devices Allowed (network.step input)
  | call {network : PairingNetwork C E S T} (hreach : Reachable devices Allowed network)
      (call : Activity.Call E S T) : Reachable devices Allowed (network.call call)

/-- In a run without foreign confirmations the invariant holds. -/
theorem Reachable.inv [X25519Commutes] [Ciborium.Lawful] [TextCodecs.Lawful]
    {devices : PairingDevices E S T} {network : PairingNetwork C E S T}
    (hreach : Reachable devices (fun network input ↦ ¬ network.ForeignConfirmation devices input)
      network) : network.Inv devices := by
  induction hreach with
  | start displayName stored =>
    exact ⟨rfl, PairingDevices.initial_accounted, fun c ↦ trivial, fun saved hmem ↦ nomatch hmem⟩
  | step _ hmac hallowed ih => exact ih.step hmac hallowed
  | call _ call ih => exact ih.call call

/-- Whatever the network does in whatever order, all that the computer persists is of the phone, over
a SAS input the phone has confirmed, as long as no confirmation verifies under a key other than the
phone's; and any one that does lets the computer persist a record that is not the phone's. -/
theorem authentic_without_foreign_confirmation [X25519Commutes] [Ciborium.Lawful] [TextCodecs.Lawful]
    (devices : PairingDevices E S T) :
    (∀ network : PairingNetwork C E S T, Reachable devices
        (fun network input ↦ ¬ network.ForeignConfirmation devices input) network →
      network.AllAuthentic devices) ∧
    ∀ (network : PairingNetwork C E S T) (input : Agent.Input C),
      network.ForeignConfirmation devices input →
        ∃ save, ¬ ((network.step input).step save).AllAuthentic devices :=
  ⟨fun _ hreach ↦ hreach.inv.persisted, fun _ _ h ↦ h.breaks⟩

/-- An input that hands nothing to a machine that awaits a confirmation meets every condition. -/
def Idle (network : PairingNetwork C E S T) (input : Agent.Input C) : Prop :=
  ∀ pairing frame, network.Hands input pairing frame → pairing.state = .awaitingReq

omit [DecidableEq C] [DecidableEq E] [DecidableEq S] [DecidableEq T] in
theorem Idle.not_foreign {devices : PairingDevices E S T} {network : PairingNetwork C E S T}
    {input : Agent.Input C} (h : network.Idle input) : ¬ network.ForeignConfirmation devices input := by
  rintro ⟨pairing, frame, peer, sas, hhands, hconfirmed, -⟩
  exact absurd ((h pairing frame hhands).symm.trans hconfirmed.state) (by decide)

theorem Reachable.idle {devices : PairingDevices E S T}
    {Allowed : PairingNetwork C E S T → Agent.Input C → Prop} {network : PairingNetwork C E S T}
    (hreach : Reachable devices Allowed network) {input : Agent.Input C} (hidle : network.Idle input)
    (hallowed : Allowed network input) : Reachable devices Allowed (network.step input) :=
  hreach.step (fun pairing frame hhands message mac hpresents ↦
    absurd ((hidle pairing frame hhands).symm.trans hpresents.1) (by decide)) hallowed

/-- Neither does an input that hands nothing to any machine. -/
theorem Reachable.quiet {devices : PairingDevices E S T}
    {Allowed : PairingNetwork C E S T → Agent.Input C → Prop}
    (hallowed : ∀ network input, network.Idle input → Allowed network input)
    {network : PairingNetwork C E S T} (hreach : Reachable devices Allowed network)
    {input : Agent.Input C} (hquiet : ∀ c nowMs seed, input ≠ .onFrame c nowMs seed) :
    Reachable devices Allowed (network.step input) := by
  have hidle : network.Idle input := by
    rintro pairing frame ⟨c, window, nowMs, seed, hinput, -⟩
    exact absurd hinput (hquiet c nowMs seed)
  exact hreach.idle hidle (hallowed network input hidle)

end Run

end PairingNetwork

end Authenticity

namespace Reference

abbrev Network : Type := PairingNetwork Unit Unit Empty Empty

def windowOpened : Network :=
  PairingNetwork.step ⟨.start devices.pc devices.pcName [], pairingDevices.initial⟩
    (.openPairingWindow (some devices.token) devices.hosts devices.issuedMs)

/-- A connection has been accepted, and its task has this request in its hands. -/
def requestReceived (req : Frame) : Network :=
  (windowOpened.step (.firstFrame () req)).step (.readOffer ())

/-- The computer has answered, and received another frame. -/
def nextReceived (network : Network) (next : Frame) : Network :=
  ((network.step (.act () true true)).step (.act () true true)).step (.nextFrame () (some next))

/-- A frame handed to the one connection. -/
def handing (nowMs : UInt64) : Agent.Input Unit := .onFrame () nowMs (some devices.pcSeed)

/-! The attack: read the token off the PAIR_REQ of the phone, and pair under another identity. -/

def attacker : IdentityKeypair := .fromSeed (pad 32 [7])

def attackerEph : EphemeralKeypair := .fromSeed (pad 32 [31])

/-- The token of a PAIR_REQ on the wire. -/
def overheard (req : Frame) : Octets 16 :=
  match MapReader.fromSlice req.payload with
  | .error _ => pad 16 []
  | .ok r => (r.byteArray 16 PairingKey.pairToken).toOption.getD (pad 16 [])

def attackReq : Frame :=
  pairReqFrame attacker "iPhone" (overheard (pairingDevices.pairReq ())) attackerEph.publicBytes

/-- The ephemeral key of the computer is in the PAIR_ACK it has sent. -/
def attackInput : Bytes :=
  sasInput (attackerEph.dh (Primitives.x25519Base devices.pcSeed)) attacker.publicBytes
    devices.pc.publicBytes (overheard (pairingDevices.pairReq ()))

def attackMac : Key32 := keyedMac (attacker.dh devices.pc.publicBytes) attackInput

def attackConfirm : Frame :=
  ⟨.pairConfirm, Cbor.encode (integerMap (singleEntries attackMac))⟩

def attacked : Network :=
  nextReceived ((requestReceived attackReq).step (handing 1500)) attackConfirm

/-! The exchange of the two devices. -/

def phoneConfirmed : Network :=
  (((requestReceived pairReq).step (handing 1000)).call (.exchange () (.onFrame pairAck))).call
    (.exchange () (.confirmSas 5))

def paired : Network :=
  ((nextReceived phoneConfirmed pairConfirm).step (handing 7)).step (.act () true true)

theorem hands_handing {network : Network} {nowMs : UInt64} {window : ℕ} {pairing pairing' : PcPairing}
    {frame frame' : Frame} (htask : network.agent.tasks () = .received window pairing frame)
    (h : network.Hands (handing nowMs) pairing' frame') : pairing' = pairing ∧ frame' = frame := by
  obtain ⟨c, window', nowMs', seed, -, htask'⟩ := h
  cases htask.symm.trans htask'
  exact ⟨rfl, rfl⟩

section Reach

variable {Allowed : Network → Agent.Input Unit → Prop}
  (hallowed : ∀ network input, network.Idle input → Allowed network input)

include hallowed

/-- The computer answers a request it has received. -/
theorem answered_reachable {req : Frame} (nowMs : UInt64)
    (htask : (requestReceived req).agent.tasks () = .received 0 pairing req) :
    PairingNetwork.Reachable pairingDevices Allowed ((requestReceived req).step (handing nowMs)) := by
  have hreceived : PairingNetwork.Reachable pairingDevices Allowed (requestReceived req) :=
    .quiet hallowed (.quiet hallowed (.quiet hallowed (.start devices.pcName []) (by simp)) (by simp))
      (by simp)
  have hidle : (requestReceived req).Idle (handing nowMs) := by
    intro pairing' frame hhands
    rw [(hands_handing htask hhands).1]
    rfl
  exact hreceived.idle hidle (hallowed _ _ hidle)

theorem nextReceived_reachable {network : Network}
    (hreach : PairingNetwork.Reachable pairingDevices Allowed network) (next : Frame) :
    PairingNetwork.Reachable pairingDevices Allowed (nextReceived network next) :=
  .quiet hallowed (.quiet hallowed (.quiet hallowed hreach (by simp)) (by simp)) (by simp)

end Reach

/-- The machine of the computer behind its answer. -/
def answeredTo (req : Frame) (nowMs : UInt64) : PcPairing :=
  (pairing.onFrame req nowMs (some devices.pcSeed)).1

theorem attacked_task :
    attacked.agent.tasks () = .received 0 (answeredTo attackReq 1500) attackConfirm := by
  decide +kernel

theorem attacked_sasInput : (answeredTo attackReq 1500).sasInput = some attackInput := by
  decide +kernel

/-- The confirmation of the attacker does not verify under the secret of the two devices. -/
theorem attacked_reachable : PairingNetwork.Reachable pairingDevices (fun _ _ ↦ True)
    (attacked.step (handing 2000)) := by
  have hreach : PairingNetwork.Reachable pairingDevices (fun _ _ ↦ True) attacked :=
    nextReceived_reachable (fun _ _ _ ↦ trivial)
      (answered_reachable (fun _ _ _ ↦ trivial) 1500 (by decide +kernel)) attackConfirm
  refine hreach.step (fun pairing' frame hhands message mac hpresents hverify ↦ ?_) trivial
  obtain ⟨hpairing, hframe⟩ := hands_handing attacked_task hhands
  obtain ⟨-, -, hinput, r, hslice, hread⟩ := hpresents
  rw [hpairing] at hinput
  rw [hframe] at hslice
  obtain ⟨r', hslice', hread'⟩ := fromSlice_single attackMac
  have hr := Except.ok.inj (hslice.symm.trans hslice')
  have hmessage := Option.some.inj (attacked_sasInput.symm.trans hinput)
  have hmac := Except.ok.inj (hread'.symm.trans (hr ▸ hread))
  rw [← hmessage, ← hmac] at hverify
  exact absurd hverify (by decide +kernel)

/-- It verifies under the key that came with the attacker's request. -/
theorem attacked_foreign : attacked.ForeignConfirmation pairingDevices (handing 2000) := by
  obtain ⟨r, hslice, hread⟩ := fromSlice_single attackMac
  refine ⟨answeredTo attackReq 1500, attackConfirm,
    ⟨attacker.deviceId, attacker.publicBytes, "iPhone"⟩, attackInput,
    ⟨(), 0, 2000, some devices.pcSeed, rfl, attacked_task⟩, ?_, by decide +kernel⟩
  exact {
    state := by decide +kernel
    ty := rfl
    peer_eq := by decide +kernel
    sasInput_eq := attacked_sasInput
    fields := ⟨r, attackMac, hslice, hread, by decide +kernel⟩ }

/-- The phone has confirmed, so the last confirmation is one it has sent. -/
theorem paired_reachable : PairingNetwork.Reachable pairingDevices
    (fun network input ↦ ¬ network.ForeignConfirmation pairingDevices input) paired := by
  have hidle (network : Network) (input : Agent.Input Unit) (h : network.Idle input) :
      ¬ network.ForeignConfirmation pairingDevices input := h.not_foreign
  have hanswered := answered_reachable hidle 1000
    (by decide +kernel : (requestReceived pairReq).agent.tasks () = .received 0 pairing pairReq)
  have hreceived := nextReceived_reachable hidle
    ((hanswered.call (.exchange () (.onFrame pairAck))).call (.exchange () (.confirmSas 5))) pairConfirm
  have htask : (nextReceived phoneConfirmed pairConfirm).agent.tasks () =
      .received 0 (answeredTo pairReq 1000) pairConfirm := by decide +kernel
  refine .quiet hidle (hreceived.step ?_ ?_) (by simp)
  · intro pairing' frame hhands message mac hpresents _
    obtain ⟨-, -, hinput, -⟩ := hpresents
    rw [(hands_handing htask hhands).1] at hinput
    have hsame : (answeredTo pairReq 1000).sasInput =
        ((nextReceived phoneConfirmed pairConfirm).activity.exchange ()).pairing.sasInput := by
      decide +kernel
    have hsent : .send pairConfirm ∈
        ((nextReceived phoneConfirmed pairConfirm).activity.exchange ()).actions := by decide +kernel
    exact .confirm ⟨hsame.symm.trans hinput, _, hsent⟩
  · rintro ⟨pairing', frame, peer, sas, hhands, hforeign, hpeer⟩
    have hforeign' := hforeign.peer_eq
    rw [(hands_handing htask hhands).1] at hforeign'
    have hphone : (answeredTo pairReq 1000).peer =
        some ⟨devices.phone.deviceId, devices.phone.publicBytes, devices.phoneName⟩ := by
      decide +kernel
    exact hpeer (congrArg PeerHandshake.pk (Option.some.inj (hforeign'.symm.trans hphone)))

end Reference

open Reference in
theorem authentic_without_foreign_confirmation_two_devices :
    paired.agent.persisted ≠ [] ∧ paired.AllAuthentic pairingDevices ∧
      ∃ save, ¬ ((attacked.step (handing 2000)).step save).AllAuthentic pairingDevices :=
  ⟨by decide +kernel,
    (PairingNetwork.authentic_without_foreign_confirmation pairingDevices).1 paired paired_reachable,
    (PairingNetwork.authentic_without_foreign_confirmation pairingDevices).2 attacked _
      attacked_foreign⟩

open Reference in
/-- An attacker that has read the token of the phone's PAIR_REQ is persisted as the phone. -/
theorem attacker_is_persisted : ¬ ∀ network : Network,
    PairingNetwork.Reachable pairingDevices (fun _ _ ↦ True) network →
      network.AllAuthentic pairingDevices := by
  intro hall
  have hsaved : PairingNetwork.Reachable pairingDevices (fun _ _ ↦ True)
      ((attacked.step (handing 2000)).step (.act () true true)) :=
    .quiet (fun _ _ _ ↦ trivial) attacked_reachable (by simp)
  have hmem : ({ answeredTo attackReq 1500 with state := .done },
      .new attacker.deviceId attacker.publicBytes "iPhone" 2000) ∈
      ((attacked.step (handing 2000)).step (.act () true true)).agent.persisted := by decide +kernel
  have hphone := (hall _ hsaved _ hmem).publicKey
  rw [PairingRecord.publicKeyBytes_new, Except.ok.injEq] at hphone
  exact absurd hphone (by decide +kernel)

end AirClip
