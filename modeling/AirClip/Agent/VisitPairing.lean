import AirClip.Agent.SimulatedPeer
import AirClip.Core.HonestExchange

/-!
# A visit of the simulated peer

The parties and the clocks of a check, and its first connection: what the task of the agent does there
with the frames that are under way, from the PAIR_REQ to the record of the phone.
-/

open Foundation

namespace AirClip

section Visits

variable [Primitives]

/-- The parties of a check, the offer it meets, its connections, and the clocks. -/
structure Visit (Ip C : Type) extends Links C where
  idSeed : Key32
  phoneSeed : Key32
  pc : IdentityKeypair
  pcName : String
  window : ℕ
  offer : PairingOffer
  ip : Ip
  /-- When the limiter is asked about the two connections. -/
  pairingMs : UInt64
  sessionMs : UInt64
  earliest : UInt64
  latest : UInt64
  ordered : earliest.toNat ≤ latest.toNat
  /-- A HELLO is no older than that. -/
  brief : latest.toNat ≤ earliest.toNat + 120000
  /-- The token lives as long. -/
  alive : latest.toNat ≤ offer.issuedMs.toNat + 600000

namespace Visit

variable {Ip C : Type} (visit : Visit Ip C)

def phone : IdentityKeypair := .fromSeed visit.idSeed

def phoneKey : PeerKey := ⟨visit.phone.deviceId, visit.phone.publicBytes⟩

/-- The machine that the agent makes for the offer. -/
def machine : PcPairing :=
  .withToken visit.pc visit.pcName visit.offer.hosts visit.offer.token visit.offer.issuedMs

/-- The phone that has sent its PAIR_REQ. -/
def fsm : PhonePairing :=
  ⟨visit.phone, simulatedName, visit.machine.qrPayload, .fromSeed visit.phoneSeed, .awaitingAck, none⟩

def req : Frame :=
  pairReqFrame visit.phone simulatedName visit.offer.token (Keypair.fromSeed visit.phoneSeed).publicBytes

def Clock (nowMs : UInt64) : Prop :=
  visit.earliest.toNat ≤ nowMs.toNat ∧ nowMs.toNat ≤ visit.latest.toNat

variable [TextCodecs]

/-- No record in the list names the phone. -/
def Stranger (records : List PairingRecord) : Prop :=
  ∀ record ∈ records, record.deviceIdBytes ≠ .ok visit.phone.deviceId

/-- The record of a phone that has paired. -/
def record (nowMs : UInt64) : PairingRecord :=
  .new visit.phone.deviceId visit.phone.publicBytes simulatedName nowMs

/-- One record names the phone, and it is that of the check. -/
def Introduced (records : List PairingRecord) : Prop :=
  ∃ nowMs, visit.record nowMs ∈ records ∧
    ∀ record ∈ records, record = visit.record nowMs ∨ record.deviceIdBytes ≠ .ok visit.phone.deviceId

/-- The code that the pairing window shows. -/
def url : String :=
  pairingUrl visit.pc.deviceId visit.pc.publicBytes visit.pcName visit.offer.hosts visit.offer.token

end Visit

/-! ## The pairing exchange -/

/-- A bound on the steps that are left of an exchange. -/
def PairingAction.weight : PairingAction → ℕ
  | .completed _ => 3
  | .send _ | .showSas _ | .failed _ => 1

def Task.left : Task → ℕ
  | .accepted | .ended => 0
  | .handed _ => 5
  | .received .. => 4
  | .acting _ _ actions => (actions.map PairingAction.weight).sum
  | .storing .. => 2
  | .closing _ => 1

namespace Agent

variable {C : Type} [DecidableEq C]

/-- One task has moved, and has sent some frames. -/
structure Shift (agent : Agent C) (c : C) (task : Task) (frames : List Frame) (agent' : Agent C) :
    Prop where
  identity : agent'.identity = agent.identity
  displayName : agent'.displayName = agent.displayName
  tasks : agent'.tasks = Function.update agent.tasks c task
  sent : agent'.sent = agent.sent ++ frames.map fun frame ↦ (c, frame)
  events : agent.events ⊆ agent'.events

theorem Shift.refl {agent : Agent C} {c : C} {task : Task} (htask : agent.tasks c = task) :
    agent.Shift c task [] agent where
  identity := rfl
  displayName := rfl
  tasks := by rw [← htask, Function.update_eq_self]
  sent := (List.append_nil _).symm
  events := List.Subset.refl _

end Agent

section Exchange

variable {Ip C : Type} [Ciborium] [TextCodecs] (visit : Visit Ip C)

/-- The phone has confirmed the emoji, and printed them and the record of the computer. -/
structure Visit.Confirmed (peer : SimulatedPeer) (sas : List.Vector String 4) : Prop where
  phase : ∀ fsm, peer.phase ≠ .pairAck fsm
  sas : peer.transcript.sas = some sas
  record : ∃ nowMs, peer.transcript.record =
    some (.new visit.pc.deviceId visit.pc.publicBytes visit.pcName nowMs)

/-- Where the exchange stands: the task of the agent, and the frames under way in both directions. -/
inductive Visit.Exchanging (peer : SimulatedPeer) (agent : Agent C) :
    Task → List Frame → List Frame → Prop
  | handed (hphase : peer.phase = .pairAck visit.fsm)
      (hoffer : agent.pairing = some (visit.window, visit.offer))
      (hpeers : visit.Stranger agent.peers) (hkeystore : visit.Stranger agent.keystore) :
      Exchanging peer agent (.handed visit.req) [] []
  | received (hphase : peer.phase = .pairAck visit.fsm)
      (hpeers : visit.Stranger agent.peers) (hkeystore : visit.Stranger agent.keystore) :
      Exchanging peer agent (.received visit.window visit.machine visit.req) [] []
  | answering {machine : PcPairing} {ack : Frame} {sas : List.Vector String 4}
      (hphase : peer.phase = .pairAck visit.fsm)
      (hanswer : PairingAnswer visit.phone visit.pc simulatedName visit.pcName visit.fsm machine ack sas)
      (hpeers : visit.Stranger agent.peers) (hkeystore : visit.Stranger agent.keystore) :
      Exchanging peer agent (.acting visit.window machine [.send ack, .showSas sas]) [] []
  | answered {machine : PcPairing} {ack : Frame} {sas : List.Vector String 4}
      {rest : List PairingAction} (hphase : peer.phase = .pairAck visit.fsm)
      (hanswer : PairingAnswer visit.phone visit.pc simulatedName visit.pcName visit.fsm machine ack sas)
      (hrest : rest = [.showSas sas] ∨ rest = [] ∧ .pairingSas sas ∈ agent.events)
      (hpeers : visit.Stranger agent.peers) (hkeystore : visit.Stranger agent.keystore) :
      Exchanging peer agent (.acting visit.window machine rest) [] [ack]
  | confirmed {machine : PcPairing} {confirm : Frame} {sas : List.Vector String 4}
      {rest : List PairingAction} (hpast : visit.Confirmed peer sas)
      (hconfirms : ∀ nowMs seed, (machine.onFrame confirm nowMs seed).2 =
        [.completed (visit.record nowMs)])
      (hrest : rest = [.showSas sas] ∨ rest = [] ∧ .pairingSas sas ∈ agent.events)
      (hpeers : visit.Stranger agent.peers) (hkeystore : visit.Stranger agent.keystore) :
      Exchanging peer agent (.acting visit.window machine rest) [confirm] []
  | checking {machine : PcPairing} {confirm : Frame} {sas : List.Vector String 4}
      (hpast : visit.Confirmed peer sas)
      (hconfirms : ∀ nowMs seed, (machine.onFrame confirm nowMs seed).2 =
        [.completed (visit.record nowMs)])
      (hsas : .pairingSas sas ∈ agent.events)
      (hpeers : visit.Stranger agent.peers) (hkeystore : visit.Stranger agent.keystore) :
      Exchanging peer agent (.received visit.window machine confirm) [] []
  | completing {machine : PcPairing} {sas : List.Vector String 4} (hpast : visit.Confirmed peer sas)
      (nowMs : UInt64) (hsas : .pairingSas sas ∈ agent.events)
      (hpeers : visit.Stranger agent.peers) (hkeystore : visit.Stranger agent.keystore) :
      Exchanging peer agent (.acting visit.window machine [.completed (visit.record nowMs)]) [] []
  | storing {sas : List.Vector String 4} {record : PairingRecord} {all : List PairingRecord}
      (hpast : visit.Confirmed peer sas) (hsas : .pairingSas sas ∈ agent.events)
      (hpeers : visit.Stranger agent.peers) (hall : visit.Introduced all) :
      Exchanging peer agent (.storing record all) [] []
  | closing {sas : List.Vector String 4} {record : PairingRecord} (hpast : visit.Confirmed peer sas)
      (hsas : .pairingSas sas ∈ agent.events) (hpeers : visit.Introduced agent.peers) :
      Exchanging peer agent (.closing record) [] []
  | paired {sas : List.Vector String 4} (hpast : visit.Confirmed peer sas)
      (hsas : .pairingSas sas ∈ agent.events) (hpeers : visit.Introduced agent.peers) :
      Exchanging peer agent .ended [] []

namespace Visit

variable {visit}

omit [Ciborium] in
/-- A list that has nothing of the phone is extended by its record. -/
theorem Stranger.upsert [TextCodecs.Lawful] {records : List PairingRecord} (h : visit.Stranger records)
    (loads : Bool) (nowMs : UInt64) : visit.Introduced
      (upsertPairing (if loads then records else []) (visit.record nowMs)) := by
  refine ⟨nowMs, List.mem_append_right _ (List.mem_singleton_self _), fun record hmem ↦ ?_⟩
  obtain hearlier | hnew := List.mem_append.mp hmem
  · refine .inr (h record ?_)
    have hkept := List.mem_of_mem_filter hearlier
    cases loads
    · cases hkept
    · exact hkept
  · exact .inl (List.mem_singleton.mp hnew)

omit [Primitives] [Ciborium] in
theorem peerKey_deviceId {record : PairingRecord} {peer : PeerKey}
    (h : record.peerKey = .ok peer) : record.deviceIdBytes = .ok peer.deviceId := by
  rw [PairingRecord.peerKey] at h
  split at h
  · next hdevice hkey =>
    cases h
    exact hdevice
  · cases h
  · cases h

omit [Ciborium] in
/-- A peer that the agent trusts is no stranger. -/
theorem Stranger.not_known {records : List PairingRecord} (h : visit.Stranger records) :
    ¬ ∃ record ∈ records, record.peerKey = .ok visit.phoneKey := by
  rintro ⟨record, hmem, hkey⟩
  exact h record hmem (peerKey_deviceId hkey)

omit [Ciborium] in
/-- The first key of the phone is its own. -/
theorem Introduced.firstKnown [TextCodecs.Lawful] {records : List PairingRecord}
    (h : visit.Introduced records) : FirstKnown
      (records.filterMap fun record ↦ record.peerKey.toOption) visit.phone.deviceId visit.phoneKey := by
  obtain ⟨nowMs, hmem, hall⟩ := h
  have hphone : (visit.record nowMs).peerKey = .ok visit.phoneKey := HonestDevices.peerKey_new ..
  have honly : ∀ key ∈ records.filterMap fun record ↦ record.peerKey.toOption,
      key.deviceId = visit.phone.deviceId → key = visit.phoneKey := by
    intro key hkey hdevice
    obtain ⟨record, hrecord, hread⟩ := List.mem_filterMap.mp hkey
    obtain hread : record.peerKey = .ok key := by
      cases hpeer : record.peerKey with
      | error failure =>
        rw [hpeer] at hread
        cases hread
      | ok key' =>
        rw [hpeer] at hread
        cases hread
        rfl
    obtain rfl | hother := hall record hrecord
    · exact Except.ok.inj (hread.symm.trans hphone)
    · exact absurd ((peerKey_deviceId hread).trans (congrArg _ hdevice)) hother
  have hlisted : visit.phoneKey ∈ records.filterMap fun record ↦ record.peerKey.toOption := by
    refine List.mem_filterMap.mpr ⟨_, hmem, ?_⟩
    rw [hphone]
    rfl
  rw [← find?_firstKnown]
  have hsome : (records.filterMap fun record ↦ record.peerKey.toOption).find?
      (fun key ↦ decide (key.deviceId = visit.phone.deviceId)) ≠ none := by
    intro hnone
    exact List.find?_eq_none.mp hnone _ hlisted (decide_eq_true rfl)
  obtain ⟨key, hfound⟩ := Option.ne_none_iff_exists'.mp hsome
  have hdevice := List.find?_some hfound
  rw [decide_eq_true_eq] at hdevice
  rw [hfound, honly key (List.mem_of_find?_eq_some hfound) hdevice]

end Visit

/-- The task is ready for the input. -/
def Task.takes (task : Task) : Agent.Input C → Bool
  | .readOffer _ =>
    match task with
    | .handed _ => true
    | _ => false
  | .onFrame .. =>
    match task with
    | .received .. => true
    | _ => false
  | .act .. =>
    match task with
    | .acting _ _ (_ :: _) | .storing .. | .closing _ => true
    | _ => false
  | .openPairingWindow .. | .firstFrame .. | .nextFrame .. => false

/-- The exchange has come further, if the task was ready for the input. -/
def Visit.Onward (peer : SimulatedPeer) (agent : Agent C) (task : Task) (toPc toPhone : List Frame)
    (input : Agent.Input C) (agent' : Agent C) [DecidableEq C] : Prop :=
  ∃ task' frames, agent.Shift visit.pairing task' frames agent' ∧
    visit.Exchanging peer agent' task' toPc (toPhone ++ frames) ∧
    (visit.Introduced agent.peers → visit.Introduced agent'.peers) ∧
    (task.takes input → task'.left < task.left)

namespace Visit.Exchanging

variable {visit} [DecidableEq C] [X25519Commutes] [Ciborium.Lawful] [TextCodecs.Lawful]
  {peer : SimulatedPeer} {agent : Agent C} {task : Task} {toPc toPhone : List Frame}

omit [DecidableEq C] [X25519Commutes] [Ciborium.Lawful] [TextCodecs.Lawful] in
/-- Whatever else the agent reports, the exchange stands where it did. -/
theorem mono {agent' : Agent C} (h : visit.Exchanging peer agent task toPc toPhone)
    (hpairing : agent'.pairing = agent.pairing) (hpeers' : agent'.peers = agent.peers)
    (hkeystore' : agent'.keystore = agent.keystore) (hevents : agent.events ⊆ agent'.events) :
    visit.Exchanging peer agent' task toPc toPhone := by
  have hshown {sas : List.Vector String 4} {rest : List PairingAction}
      (hrest : rest = [.showSas sas] ∨ rest = [] ∧ .pairingSas sas ∈ agent.events) :
      rest = [.showSas sas] ∨ rest = [] ∧ .pairingSas sas ∈ agent'.events :=
    hrest.imp_right fun h ↦ ⟨h.1, hevents h.2⟩
  cases h with
  | handed hphase hoffer hpeers hkeystore =>
    exact .handed hphase (hpairing.trans hoffer) (hpeers' ▸ hpeers) (hkeystore' ▸ hkeystore)
  | received hphase hpeers hkeystore =>
    exact .received hphase (hpeers' ▸ hpeers) (hkeystore' ▸ hkeystore)
  | answering hphase hanswer hpeers hkeystore =>
    exact .answering hphase hanswer (hpeers' ▸ hpeers) (hkeystore' ▸ hkeystore)
  | answered hphase hanswer hrest hpeers hkeystore =>
    exact .answered hphase hanswer (hshown hrest) (hpeers' ▸ hpeers) (hkeystore' ▸ hkeystore)
  | confirmed hpast hconfirms hrest hpeers hkeystore =>
    exact .confirmed hpast hconfirms (hshown hrest) (hpeers' ▸ hpeers) (hkeystore' ▸ hkeystore)
  | checking hpast hconfirms hsas hpeers hkeystore =>
    exact .checking hpast hconfirms (hevents hsas) (hpeers' ▸ hpeers) (hkeystore' ▸ hkeystore)
  | completing hpast nowMs hsas hpeers hkeystore =>
    exact .completing hpast nowMs (hevents hsas) (hpeers' ▸ hpeers) (hkeystore' ▸ hkeystore)
  | storing hpast hsas hpeers hall =>
    exact .storing hpast (hevents hsas) (hpeers' ▸ hpeers) hall
  | closing hpast hsas hpeers => exact .closing hpast (hevents hsas) (hpeers' ▸ hpeers)
  | paired hpast hsas hpeers => exact .paired hpast (hevents hsas) (hpeers' ▸ hpeers)

omit [X25519Commutes] [Ciborium.Lawful] [TextCodecs.Lawful] in
theorem still (h : visit.Exchanging peer agent task toPc toPhone)
    (htask : agent.tasks visit.pairing = task) (input : Agent.Input C)
    (htakes : task.takes input = false) (hstep : agent.step input = agent) :
    visit.Onward peer agent task toPc toPhone input (agent.step input) := by
  rw [hstep]
  refine ⟨task, [], .refl htask, ?_, id, fun h ↦ absurd (htakes.symm.trans h) (by simp)⟩
  rwa [List.append_nil]

omit [Ciborium.Lawful] [X25519Commutes] in
/-- The task carries out an action, or stores the record. -/
theorem act (h : visit.Exchanging peer agent task toPc toPhone)
    (htask : agent.tasks visit.pairing = task) (loads : Bool) :
    visit.Onward peer agent task toPc toPhone (.act visit.pairing loads true)
      (agent.step (.act visit.pairing loads true)) := by
  have hstill := h.still htask (.act visit.pairing loads true)
  have hless (machine : PcPairing) (emoji : List.Vector String 4) :
      (Task.acting visit.window machine []).left <
        (Task.acting visit.window machine [.showSas emoji]).left := by
    simp [Task.left, PairingAction.weight]
  cases h with
  | answering hphase hanswer hpeers hkeystore =>
    rw [Agent.step, htask]
    refine ⟨_, [_], ⟨rfl, rfl, rfl, rfl, List.Subset.refl _⟩, ?_, id, fun _ ↦ ?_⟩
    · exact .answered hphase hanswer (.inl rfl) hpeers hkeystore
    · simp [Task.left, PairingAction.weight]
  | answered hphase hanswer hrest hpeers hkeystore =>
    obtain rfl | ⟨rfl, -⟩ := hrest
    · rw [Agent.step, htask]
      refine ⟨_, [], ⟨rfl, rfl, rfl, (List.append_nil _).symm, List.subset_append_left _ _⟩, ?_, id,
        fun _ ↦ hless _ _⟩
      exact .answered hphase hanswer (.inr ⟨rfl, List.mem_append_right _ (List.mem_singleton_self _)⟩)
        hpeers hkeystore
    · exact hstill rfl (by rw [Agent.step, htask])
  | confirmed hpast hconfirms hrest hpeers hkeystore =>
    obtain rfl | ⟨rfl, -⟩ := hrest
    · rw [Agent.step, htask]
      refine ⟨_, [], ⟨rfl, rfl, rfl, (List.append_nil _).symm, List.subset_append_left _ _⟩, ?_, id,
        fun _ ↦ hless _ _⟩
      exact .confirmed hpast hconfirms (.inr ⟨rfl, List.mem_append_right _ (List.mem_singleton_self _)⟩)
        hpeers hkeystore
    · exact hstill rfl (by rw [Agent.step, htask])
  | completing hpast nowMs hsas hpeers hkeystore =>
    rw [Agent.step, htask]
    refine ⟨_, [], ⟨rfl, rfl, rfl, (List.append_nil _).symm, List.Subset.refl _⟩, ?_, id, fun _ ↦ ?_⟩
    · exact .storing hpast hsas hpeers (hkeystore.upsert loads nowMs)
    · simp [Task.left, PairingAction.weight]
  | storing hpast hsas hpeers hall =>
    rw [Agent.step, htask]
    refine ⟨_, [], ⟨rfl, rfl, rfl, (List.append_nil _).symm, List.Subset.refl _⟩, ?_, fun _ ↦ hall,
      fun _ ↦ Nat.lt_succ_self 1⟩
    exact .closing hpast hsas hall
  | closing hpast hsas hpeers =>
    rw [Agent.step, htask]
    refine ⟨_, [], ⟨rfl, rfl, rfl, (List.append_nil _).symm, List.subset_append_left _ _⟩, ?_, id,
      fun _ ↦ Nat.zero_lt_one⟩
    exact .paired hpast (List.mem_append_left _ hsas) hpeers
  | handed | received | checking | paired => exact hstill rfl (by rw [Agent.step, htask])

omit [Ciborium.Lawful] [X25519Commutes] [TextCodecs.Lawful] in
/-- The task reads the offer. -/
theorem readOffer (h : visit.Exchanging peer agent task toPc toPhone)
    (htask : agent.tasks visit.pairing = task) (hidentity : agent.identity = visit.pc)
    (hname : agent.displayName = visit.pcName) :
    visit.Onward peer agent task toPc toPhone (.readOffer visit.pairing)
      (agent.step (.readOffer visit.pairing)) := by
  have hstill := h.still htask (.readOffer visit.pairing)
  cases h with
  | handed hphase hoffer hpeers hkeystore =>
    have hmachine : agent.machineFor visit.offer = visit.machine := by
      rw [Agent.machineFor, hidentity, hname]
      rfl
    rw [Agent.step, htask, hoffer]
    dsimp only
    rw [hmachine]
    exact ⟨_, [], ⟨rfl, rfl, rfl, (List.append_nil _).symm, List.Subset.refl _⟩,
      .received hphase hpeers hkeystore, id, fun _ ↦ Nat.lt_succ_self 4⟩
  | _ => exact hstill rfl (by rw [Agent.step, htask])

omit [TextCodecs.Lawful] in
/-- The task hands the machine what it has received. -/
theorem onFrame (h : visit.Exchanging peer agent task toPc toPhone)
    (htask : agent.tasks visit.pairing = task) {nowMs : UInt64} (hclock : visit.Clock nowMs)
    (seed : Key32) :
    visit.Onward peer agent task toPc toPhone (.onFrame visit.pairing nowMs (some seed))
      (agent.step (.onFrame visit.pairing nowMs (some seed))) := by
  have hstill := h.still htask (.onFrame visit.pairing nowMs (some seed))
  cases h with
  | received hphase hpeers hkeystore =>
    have hname : (utf8 simulatedName).length < 2 ^ 64 := by decide +kernel
    obtain ⟨machine, ack, sas, hmachine, hanswer⟩ := PcPairing.answers visit.pc visit.phone visit.pcName
      hname visit.offer.hosts visit.offer.token (hclock.2.trans visit.alive) visit.phoneSeed seed
    have hmachine' : visit.machine.onFrame visit.req nowMs (some seed) =
        (machine, [.send ack, .showSas sas]) := hmachine
    rw [Agent.step, htask]
    dsimp only
    rw [Agent.handle, hmachine']
    refine ⟨_, [], ⟨rfl, rfl, rfl, (List.append_nil _).symm, List.Subset.refl _⟩, ?_, id, fun _ ↦ ?_⟩
    · exact .answering hphase hanswer hpeers hkeystore
    · simp [Task.left, PairingAction.weight]
  | checking hpast hconfirms hsas hpeers hkeystore =>
    rw [Agent.step, htask]
    dsimp only
    rw [Agent.handle]
    refine ⟨_, [], ⟨rfl, rfl, rfl, (List.append_nil _).symm, List.Subset.refl _⟩, ?_, id, fun _ ↦ ?_⟩
    · rw [hconfirms]
      exact .completing hpast nowMs hsas hpeers hkeystore
    · rw [hconfirms]
      simp [Task.left, PairingAction.weight]
  | _ => exact hstill rfl (by rw [Agent.step, htask])

omit [X25519Commutes] [Ciborium.Lawful] [TextCodecs.Lawful] in
/-- The confirmation has been read. -/
theorem arrives {window : ℕ} {machine : PcPairing} {frame : Frame} {frames : List Frame}
    (h : visit.Exchanging peer agent (.acting window machine []) (frame :: frames) toPhone)
    (htask : agent.tasks visit.pairing = .acting window machine []) :
    frames = [] ∧ toPhone = [] ∧
      agent.Shift visit.pairing (.received window machine frame) []
        (agent.step (.nextFrame visit.pairing (some frame))) ∧
      visit.Exchanging peer (agent.step (.nextFrame visit.pairing (some frame)))
        (.received window machine frame) [] [] ∧
      (agent.step (.nextFrame visit.pairing (some frame))).peers = agent.peers := by
  have hstep : agent.step (.nextFrame visit.pairing (some frame)) =
      agent.setTask visit.pairing (.received window machine frame) := by
    rw [Agent.step]
    unfold Agent.receive
    rw [htask]
  rw [hstep]
  have hshift : agent.Shift visit.pairing (.received window machine frame) []
      (agent.setTask visit.pairing (.received window machine frame)) :=
    ⟨rfl, rfl, rfl, (List.append_nil _).symm, List.Subset.refl _⟩
  cases h with
  | confirmed hpast hconfirms hrest hpeers hkeystore =>
    obtain hrest | ⟨-, hsas⟩ := hrest
    · cases hrest
    · exact ⟨rfl, rfl, hshift, .checking hpast hconfirms hsas hpeers hkeystore, rfl⟩

omit [X25519Commutes] [Ciborium.Lawful] [TextCodecs.Lawful] in
/-- The peer drops the connection once it has confirmed; the task that is left does not notice. -/
theorem ended (h : visit.Exchanging peer agent task toPc toPhone)
    (htask : agent.tasks visit.pairing = task) (hdropped : ∀ fsm, peer.phase ≠ .pairAck fsm)
    (hread : toPc = []) : visit.Onward peer agent task toPc toPhone (.nextFrame visit.pairing none)
      (agent.step (.nextFrame visit.pairing none)) := by
  apply h.still htask _ rfl
  rw [Agent.step]
  unfold Agent.receive
  rw [htask]
  cases h with
  | handed hphase | received hphase | answering hphase | answered hphase =>
    exact absurd hphase (hdropped _)
  | confirmed => cases hread
  | checking | completing | storing | closing | paired => rfl

omit [DecidableEq C] [X25519Commutes] [Ciborium.Lawful] [TextCodecs.Lawful] in
/-- Once the agent knows the phone, it has stored its record. -/
theorem introduced (h : visit.Exchanging peer agent task toPc toPhone)
    (hknown : ∃ record ∈ agent.peers, record.peerKey = .ok visit.phoneKey) :
    visit.Introduced agent.peers ∧ ∃ sas, visit.Confirmed peer sas ∧ .pairingSas sas ∈ agent.events := by
  cases h with
  | handed _ _ hpeers | received _ hpeers | answering _ _ hpeers | answered _ _ _ hpeers
  | confirmed _ _ _ hpeers | checking _ _ _ hpeers | completing _ _ _ hpeers | storing _ _ hpeers =>
    exact absurd hknown hpeers.not_known
  | closing hpast hsas hpeers | paired hpast hsas hpeers => exact ⟨hpeers, _, hpast, hsas⟩

omit [DecidableEq C] [X25519Commutes] [Ciborium.Lawful] [TextCodecs.Lawful] in
/-- What a peer that waits for PAIR_ACK finds: the answer, or nothing yet. -/
theorem owed (h : visit.Exchanging peer agent task toPc toPhone) {fsm : PhonePairing}
    (hphase : peer.phase = .pairAck fsm) : toPhone = [] ∧ task ≠ .ended ∨
      ∃ machine ack sas, peer.phase = .pairAck visit.fsm ∧ toPc = [] ∧ toPhone = [ack] ∧
        PairingAnswer visit.phone visit.pc simulatedName visit.pcName visit.fsm machine ack sas ∧
        ∀ peer' confirm, visit.Confirmed peer' sas →
          (∀ nowMs seed, (machine.onFrame confirm nowMs seed).2 = [.completed (visit.record nowMs)]) →
            visit.Exchanging peer' agent task [confirm] [] := by
  cases h with
  | handed | received | answering => exact .inl ⟨rfl, by simp⟩
  | answered hasked hanswer hrest hpeers hkeystore =>
    exact .inr ⟨_, _, _, hasked, rfl, rfl, hanswer, fun peer' confirm hpast hconfirms ↦
      .confirmed hpast hconfirms hrest hpeers hkeystore⟩
  | confirmed hpast | checking hpast | completing hpast | storing hpast | closing hpast | paired hpast =>
    exact absurd hphase (hpast.phase fsm)

omit [X25519Commutes] [Ciborium.Lawful] [TextCodecs.Lawful] [DecidableEq C] in
/-- The exchange can go on, in the agent, on the network or in the peer, or the phone has paired. -/
theorem ready (h : visit.Exchanging peer agent task toPc toPhone) :
    task.takes (.readOffer visit.pairing) ∨
      (∀ nowMs seed, task.takes (.onFrame visit.pairing nowMs seed)) ∨
      (∀ loads, task.takes (.act visit.pairing loads true)) ∨
      ((∃ fsm, peer.phase = .pairAck fsm) ∧ toPhone ≠ []) ∨
      (toPc ≠ [] ∧ ∃ window machine, task = .acting window machine []) ∨
      visit.Introduced agent.peers ∧ ∀ fsm, peer.phase ≠ .pairAck fsm := by
  cases h with
  | handed => exact .inl rfl
  | received | checking => exact .inr (.inl fun _ _ ↦ rfl)
  | answering | completing | storing => exact .inr (.inr (.inl fun _ ↦ rfl))
  | answered hphase _ hrest =>
    obtain rfl | ⟨rfl, -⟩ := hrest
    · exact .inr (.inr (.inl fun _ ↦ rfl))
    · exact .inr (.inr (.inr (.inl ⟨⟨_, hphase⟩, by simp⟩)))
  | confirmed _ _ hrest =>
    obtain rfl | ⟨rfl, -⟩ := hrest
    · exact .inr (.inr (.inl fun _ ↦ rfl))
    · exact .inr (.inr (.inr (.inr (.inl ⟨by simp, _, _, rfl⟩))))
  | closing hpast _ hpeers | paired hpast _ hpeers =>
    exact .inr (.inr (.inr (.inr (.inr ⟨hpeers, hpast.phase⟩))))

end Visit.Exchanging

/-! ## The peer -/

/-- The peer takes PAIR_ACK for the answer of the machine, and confirms. -/
theorem Visit.take_pairAck {visit : Visit Ip C} {peer : SimulatedPeer}
    (hphase : peer.phase = .pairAck visit.fsm) {machine : PcPairing} {ack : Frame}
    {sas : List.Vector String 4} (hanswer : PairingAnswer visit.phone visit.pc simulatedName
      visit.pcName visit.fsm machine ack sas) (nowMs laterMs : UInt64)
    (randomId : Option (Octets 8)) : ∃ peer' confirm,
      peer.take (.frame ack) nowMs laterMs randomId true = (peer', [confirm]) ∧
      peer'.identity = peer.identity ∧
      peer'.phase = .paired (.new visit.pc.deviceId visit.pc.publicBytes visit.pcName nowMs) ∧
      visit.Confirmed peer' sas ∧ ∀ nowMs seed,
        (machine.onFrame confirm nowMs seed).2 = [.completed (visit.record nowMs)] := by
  obtain ⟨fsm', hshown, hconfirms⟩ := hanswer.shown
  obtain ⟨confirm, hconfirm, hcompletes⟩ := hconfirms nowMs
  let record : PairingRecord := .new visit.pc.deviceId visit.pc.publicBytes visit.pcName nowMs
  let transcript : Transcript := { peer.transcript with sas := some sas, record := some record }
  refine ⟨⟨peer.identity, transcript, .paired record⟩, confirm, ?_, rfl, rfl,
    ⟨by simp, rfl, nowMs, rfl⟩, hcompletes⟩
  have hawaited : peer.awaited = some .pairAck := by rw [SimulatedPeer.awaited, hphase]
  simp only [SimulatedPeer.take, hawaited, hphase, Option.map_some, expectFrame, hanswer.ty, ne_eq,
    not_true_eq_false, if_false, SimulatedPeer.takePairAck, hshown, hconfirm, if_true]
  rfl

end Exchange

end Visits

end AirClip
