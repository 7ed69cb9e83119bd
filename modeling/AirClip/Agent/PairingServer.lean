import AirClip.Core.HonestPairing
import AirClip.Foundation.Runs

/-!
# Pairing connections of the agent

The agent runs one task for each connection, and all tasks share the slot that holds the offer of the
pairing window.  The order in which tasks proceed is a list of inputs, each of which lets one task
make one step: read the slot, hand a frame to its machine, carry out one action, take the next frame.
Peers may fail or fall silent at any point.  The history keeps every call of a machine, and every
record that has been persisted.
-/

open Foundation Cbor

namespace AirClip

/-- A pairing window's token and the hosts printed into its QR code. -/
structure PairingOffer where
  token : Octets 16
  issuedMs : UInt64
  hosts : List String

/-- Things the agent's UI layer reacts to. -/
inductive AgentEvent where
  | peerConnected (deviceId : String)
  | peerDisconnected (deviceId : String)
  | clipArrived (contentType : ContentType) (body : Bytes) (sourceName : String)
  | pairingSas (emoji : List.Vector String 4)
  | paired (record : PairingRecord)
  | pairingFailed (reason : String)
deriving DecidableEq

/-- Add or replace a pairing, keyed by device id. -/
def upsertPairing (all : List PairingRecord) (record : PairingRecord) : List PairingRecord :=
  all.filter (fun r ↦ decide (r.deviceId ≠ record.deviceId)) ++ [record]

section Server

variable [Primitives]

/-- Where the task of a connection stands.  `window` tells which offer it has read. -/
inductive Task where
  /-- Accepted, and no frame has arrived. -/
  | accepted
  /-- `run_pairing` with its first frame, before it reads the slot. -/
  | handed (frame : Frame)
  /-- About to call the machine. -/
  | received (window : ℕ) (pairing : PcPairing) (frame : Frame)
  /-- Carrying out actions, and waiting for the next frame when there are none left. -/
  | acting (window : ℕ) (pairing : PcPairing) (actions : List PairingAction)
  /-- The record is persisted; the list of peers and then the slot have still to be set. -/
  | storing (record : PairingRecord) (all : List PairingRecord)
  | closing (record : PairingRecord)
  | ended
deriving DecidableEq

/-- One call of a pairing machine. -/
structure Handling (C : Type) where
  window : ℕ
  connection : C
  pairing : PcPairing
  frame : Frame
  nowMs : UInt64
  seed : Option Key32
deriving DecidableEq

/-- The agent with its connections, numbered by `C`, and its history. -/
structure Agent (C : Type) where
  identity : IdentityKeypair
  displayName : String
  peers : List PairingRecord
  /-- The pairings on disk. -/
  keystore : List PairingRecord
  /-- The active offer, present only while the pairing window is open, and its number. -/
  pairing : Option (ℕ × PairingOffer)
  events : List AgentEvent
  tasks : C → Task
  windows : ℕ
  sent : List (C × Frame)
  handled : List (Handling C)
  persisted : List (PcPairing × PairingRecord)

namespace Agent

/-- What happens next: the user opens a pairing window, or one task makes a step.  Random sources,
disk and network may fail. -/
inductive Input (C : Type) where
  | openPairingWindow (token : Option (Octets 16)) (hosts : List String) (nowMs : UInt64)
  | firstFrame (c : C) (frame : Frame)
  | readOffer (c : C)
  | onFrame (c : C) (nowMs : UInt64) (seed : Option Key32)
  | act (c : C) (loads works : Bool)
  | nextFrame (c : C) (frame : Option Frame)

variable {C : Type} [DecidableEq C] [Ciborium] [TextCodecs]

def start (identity : IdentityKeypair) (displayName : String) (stored : List PairingRecord) :
    Agent C :=
  { identity, displayName, peers := stored, keystore := stored, pairing := none, events := [],
    tasks := fun _ ↦ .accepted, windows := 0, sent := [], handled := [], persisted := [] }

def setTask (agent : Agent C) (c : C) (task : Task) : Agent C :=
  { agent with tasks := Function.update agent.tasks c task }

def emit (agent : Agent C) (event : AgentEvent) : Agent C :=
  { agent with events := agent.events ++ [event] }

/-- A new offer replaces the one before. -/
def openPairingWindow (agent : Agent C) (token : Option (Octets 16)) (hosts : List String)
    (nowMs : UInt64) : Agent C :=
  match token with
  | none => agent
  | some token =>
    if hosts.isEmpty then agent
    else { agent with windows := agent.windows + 1
                      pairing := some (agent.windows, ⟨token, nowMs, hosts⟩) }

/-- The machine of a connection that has read an offer. -/
def machineFor (agent : Agent C) (offer : PairingOffer) : PcPairing :=
  .withToken agent.identity agent.displayName offer.hosts offer.token offer.issuedMs

/-- Call the machine with the frame that has been received. -/
def handle (agent : Agent C) (c : C) (window : ℕ) (pairing : PcPairing) (frame : Frame)
    (nowMs : UInt64) (seed : Option Key32) : Agent C :=
  let result := pairing.onFrame frame nowMs seed
  { agent with
    tasks := Function.update agent.tasks c (.acting window result.1 result.2)
    handled := agent.handled ++ [⟨window, c, pairing, frame, nowMs, seed⟩] }

/-- Carry out one action.  `works` tells whether the frame is sent or the record is saved, `loads`
whether the pairings on disk can be read before. -/
def carryOut (agent : Agent C) (c : C) (window : ℕ) (pairing : PcPairing)
    (rest : List PairingAction) (loads works : Bool) : PairingAction → Agent C
  | .send frame =>
    if works then
      { agent with sent := agent.sent ++ [(c, frame)] }.setTask c (.acting window pairing rest)
    else agent.setTask c .ended
  | .showSas emoji => (agent.emit (.pairingSas emoji)).setTask c (.acting window pairing rest)
  | .completed record =>
    if works then
      let all := upsertPairing (if loads then agent.keystore else []) record
      { agent with keystore := all, persisted := agent.persisted ++ [(pairing, record)] }.setTask c
        (.storing record all)
    else agent.setTask c .ended
  | .failed reason => (agent.emit (.pairingFailed reason)).setTask c .ended

/-- The next frame of the peer, if the connection still stands. -/
def receive (agent : Agent C) (c : C) (frame : Option Frame) : Agent C :=
  match agent.tasks c, frame with
  | .acting window pairing [], some frame => agent.setTask c (.received window pairing frame)
  | .acting _ _ [], none => agent.setTask c .ended
  | _, _ => agent

/-- One step of the task of a connection; an input it is not ready for changes nothing. -/
def step (agent : Agent C) : Input C → Agent C
  | .openPairingWindow token hosts nowMs => agent.openPairingWindow token hosts nowMs
  | .firstFrame c frame =>
    match agent.tasks c with
    -- A HELLO starts a session instead, and any other frame ends the connection.
    | .accepted => agent.setTask c (if frame.ty = .pairReq then .handed frame else .ended)
    | _ => agent
  | .readOffer c =>
    match agent.tasks c, agent.pairing with
    | .handed frame, some (window, offer) =>
      agent.setTask c (.received window (agent.machineFor offer) frame)
    | .handed _, none => agent.setTask c .ended
    | _, _ => agent
  | .onFrame c nowMs seed =>
    match agent.tasks c with
    | .received window pairing frame => agent.handle c window pairing frame nowMs seed
    | _ => agent
  | .act c loads works =>
    match agent.tasks c with
    | .acting window pairing (action :: rest) =>
      agent.carryOut c window pairing rest loads works action
    | .storing record all => { agent with peers := all }.setTask c (.closing record)
    -- The window closes only now, after the pairing has succeeded.
    | .closing record => ({ agent with pairing := none }.emit (.paired record)).setTask c .ended
    | _ => agent
  | .nextFrame c frame => agent.receive c frame

def run (agent : Agent C) (inputs : List (Input C)) : Agent C := inputs.foldl step agent

/-! ## What a step can do -/

/-- The identity and the history are the same. -/
structure SameHistory (agent agent' : Agent C) : Prop where
  identity : agent'.identity = agent.identity
  handled : agent'.handled = agent.handled
  persisted : agent'.persisted = agent.persisted

/-- The moves of a task that neither call a machine nor persist a record. -/
inductive Moves (agent : Agent C) : Task → Task → Prop
  | hand (frame : Frame) : Moves agent .accepted (.handed frame)
  | read (frame : Frame) (window : ℕ) (offer : PairingOffer) :
      Moves agent (.handed frame) (.received window (agent.machineFor offer) frame)
  | act (window : ℕ) (pairing : PcPairing) (action : PairingAction) (rest : List PairingAction) :
      Moves agent (.acting window pairing (action :: rest)) (.acting window pairing rest)
  | receive (window : ℕ) (pairing : PcPairing) (frame : Frame) :
      Moves agent (.acting window pairing []) (.received window pairing frame)
  | close (record : PairingRecord) (all : List PairingRecord) :
      Moves agent (.storing record all) (.closing record)
  | finish (task : Task) : Moves agent task .ended

/-- A step leaves every task alone, moves one of them, calls one machine or persists one record. -/
inductive Stepped (agent : Agent C) : Input C → Agent C → Prop
  | still {input : Input C} {agent' : Agent C} (hsame : agent.SameHistory agent')
      (htasks : agent'.tasks = agent.tasks) : Stepped agent input agent'
  | moved {input : Input C} {agent' : Agent C} {c : C} {task : Task}
      (hsame : agent.SameHistory agent') (hmoves : agent.Moves (agent.tasks c) task)
      (htasks : agent'.tasks = Function.update agent.tasks c task) : Stepped agent input agent'
  | called {c : C} {nowMs : UInt64} {seed : Option Key32} {window : ℕ} {pairing : PcPairing}
      {frame : Frame} (htask : agent.tasks c = .received window pairing frame) :
      Stepped agent (.onFrame c nowMs seed) (agent.handle c window pairing frame nowMs seed)
  | saved {c : C} {loads works : Bool} {window : ℕ} {pairing : PcPairing} {record : PairingRecord}
      {rest : List PairingAction} {all : List PairingRecord} {agent' : Agent C}
      (htask : agent.tasks c = .acting window pairing (.completed record :: rest))
      (hidentity : agent'.identity = agent.identity) (hhandled : agent'.handled = agent.handled)
      (hpersisted : agent'.persisted = agent.persisted ++ [(pairing, record)])
      (htasks : agent'.tasks = Function.update agent.tasks c (.storing record all)) :
      Stepped agent (.act c loads works) agent'

omit [DecidableEq C] [Ciborium] [TextCodecs] in
theorem SameHistory.refl (agent : Agent C) : agent.SameHistory agent := ⟨rfl, rfl, rfl⟩

theorem step_cases (agent : Agent C) (input : Input C) :
    agent.Stepped input (agent.step input) := by
  cases input with
  | openPairingWindow token hosts nowMs =>
    change agent.Stepped _ (agent.openPairingWindow token hosts nowMs)
    unfold openPairingWindow
    split
    · exact .still (.refl agent) rfl
    · split
      · exact .still (.refl agent) rfl
      · exact .still ⟨rfl, rfl, rfl⟩ rfl
  | firstFrame c frame =>
    rw [step]
    split
    · next htask =>
      refine .moved ⟨rfl, rfl, rfl⟩ ?_ rfl
      split
      · rw [htask]
        exact .hand frame
      · exact .finish _
    · exact .still (.refl agent) rfl
  | readOffer c =>
    rw [step]
    split
    · next htask _ => exact .moved ⟨rfl, rfl, rfl⟩ (htask ▸ .read _ _ _) rfl
    · exact .moved ⟨rfl, rfl, rfl⟩ (.finish _) rfl
    · exact .still (.refl agent) rfl
  | onFrame c nowMs seed =>
    rw [step]
    split
    · next htask => exact .called htask
    · exact .still (.refl agent) rfl
  | act c loads works =>
    rw [step]
    split
    · next window pairing action rest htask =>
      have hmoves : agent.Moves (agent.tasks c) (.acting window pairing rest) := htask ▸ .act ..
      cases action with
      | send frame =>
        cases works
        · exact .moved ⟨rfl, rfl, rfl⟩ (.finish _) rfl
        · exact .moved ⟨rfl, rfl, rfl⟩ hmoves rfl
      | showSas emoji => exact .moved ⟨rfl, rfl, rfl⟩ hmoves rfl
      | completed record =>
        cases works
        · exact .moved ⟨rfl, rfl, rfl⟩ (.finish _) rfl
        · exact .saved htask rfl rfl rfl rfl
      | failed reason => exact .moved ⟨rfl, rfl, rfl⟩ (.finish _) rfl
    · next htask => exact .moved ⟨rfl, rfl, rfl⟩ (htask ▸ .close _ _) rfl
    · exact .moved ⟨rfl, rfl, rfl⟩ (.finish _) rfl
    · exact .still (.refl agent) rfl
  | nextFrame c frame =>
    rw [step]
    unfold receive
    split
    · next htask => exact .moved ⟨rfl, rfl, rfl⟩ (htask ▸ .receive _ _ _) rfl
    · exact .moved ⟨rfl, rfl, rfl⟩ (.finish _) rfl
    · exact .still (.refl agent) rfl

/-- What every step preserves holds in every run. -/
theorem run_invariant {P : Agent C → Prop}
    (hstep : ∀ agent input, P agent → P (agent.step input)) {agent : Agent C} (hinit : P agent)
    (inputs : List (Input C)) : P (agent.run inputs) :=
  foldl_invariant (fun agent input _ ↦ hstep agent input) hinit

end Agent

/-! ## Single use of the pair token -/

namespace Handling

variable {C : Type} [Ciborium]

/-- The machine has been handed a PAIR_REQ of its offer: the right token in time, the device id of
the key it names, and random source and codec at work. -/
def Acceptable (call : Handling C) : Prop :=
  (∃ r req, call.pairing.Acceptable call.frame call.nowMs r req) ∧
    ∃ eph ack, Keypair.generate call.seed = .ok eph ∧ (PcPairing.ackMap eph).toVec = .ok ack

variable [TextCodecs]

def actions (call : Handling C) : List PairingAction :=
  (call.pairing.onFrame call.frame call.nowMs call.seed).2

/-- The machine has answered with PAIR_ACK and a SAS. -/
def Answered (call : Handling C) : Prop :=
  ∃ ack emoji, call.actions = [.send ⟨.pairAck, ack⟩, .showSas emoji]

def Failed (call : Handling C) : Prop := ∃ reason, call.actions = [.failed reason]

theorem Acceptable.answered {call : Handling C} (h : call.Acceptable) : call.Answered := by
  obtain ⟨⟨r, req, hacceptable⟩, eph, ack, heph, hack⟩ := h
  exact ⟨ack, _, congrArg Prod.snd (PcPairing.onFrame_acceptable hacceptable heph hack)⟩

/-- A PAIR_REQ is acceptable or fails. -/
theorem acceptable_or_failed {call : Handling C} (hty : call.frame.ty = .pairReq) :
    call.Acceptable ∨ call.Failed := by
  unfold Failed actions
  have hcases := call.pairing.onFrame_cases call.frame call.nowMs call.seed
  generalize call.pairing.onFrame call.frame call.nowMs call.seed = result at hcases
  cases hcases with
  | refused tokenUsed msg => exact .inr ⟨msg, rfl⟩
  | answered hacceptable heph hack => exact .inl ⟨⟨_, _, hacceptable⟩, _, _, heph, hack⟩
  | confirmed hconfirmed => exact absurd (hty.symm.trans hconfirmed.ty) (by decide)

theorem Answered.not_failed {call : Handling C} (h : call.Answered) : ¬ call.Failed := by
  rintro ⟨reason, hfailed⟩
  obtain ⟨ack, emoji, hanswered⟩ := h
  rw [hanswered] at hfailed
  cases hfailed

theorem Answered.acceptable {call : Handling C} (h : call.Answered) : call.Acceptable := by
  obtain ⟨ack, emoji, hactions⟩ := h
  unfold actions at hactions
  have hcases := call.pairing.onFrame_cases call.frame call.nowMs call.seed
  generalize call.pairing.onFrame call.frame call.nowMs call.seed = result at hcases hactions
  cases hcases with
  | refused | confirmed => cases hactions
  | answered hacceptable heph hack => exact ⟨⟨_, _, hacceptable⟩, _, _, heph, hack⟩

end Handling

/-- The task has called its machine, which will never wait for a request again. -/
def Task.Called : Task → Prop
  | .accepted | .handed _ => False
  | .received _ pairing _ | .acting _ pairing _ => pairing.state ≠ .awaitingReq
  | .storing .. | .closing _ | .ended => True

namespace Agent

variable {C : Type} [Ciborium] [TextCodecs]

/-- Once a PAIR_REQ of an offer has been answered, every later one fails, on any connection. -/
def SingleUse (handled : List (Handling C)) : Prop :=
  handled.Pairwise fun earlier later ↦ earlier.Answered → later.window = earlier.window →
    later.frame.ty = .pairReq → later.Failed

/-- No two connections that have read one offer are both handed an acceptable PAIR_REQ. -/
def OneConnection (handled : List (Handling C)) : Prop :=
  handled.Pairwise fun earlier later ↦ later.window = earlier.window →
    later.connection ≠ earlier.connection → ¬ (earlier.Acceptable ∧ later.Acceptable)

/-- No connection is handed two acceptable PAIR_REQs. -/
def NoRepeat (handled : List (Handling C)) : Prop :=
  handled.Pairwise fun earlier later ↦ later.connection = earlier.connection →
    ¬ (earlier.Acceptable ∧ later.Acceptable)

theorem singleUse_iff_of_noRepeat {handled : List (Handling C)} (hrepeat : NoRepeat handled) :
    SingleUse handled ↔ OneConnection handled := by
  constructor
  · intro hsingle
    refine hsingle.imp fun {earlier later} h hwindow _ hboth ↦ ?_
    obtain ⟨hearlier, hlater⟩ := hboth
    obtain ⟨r, req, hreq⟩ := hlater.1
    exact hlater.answered.not_failed (h hearlier.answered hwindow hreq.ty)
  · intro hone
    refine (hone.and hrepeat).imp fun {earlier later} h hanswered hwindow hty ↦ ?_
    obtain hacceptable | hfailed := Handling.acceptable_or_failed hty
    · by_cases hconnection : later.connection = earlier.connection
      · exact absurd ⟨hanswered.acceptable, hacceptable⟩ (h.2 hconnection)
      · exact absurd ⟨hanswered.acceptable, hacceptable⟩ (h.1 hwindow hconnection)
    · exact hfailed

section Run

variable [DecidableEq C]

omit [DecidableEq C] [Ciborium] [TextCodecs] in
theorem Moves.called {agent : Agent C} {task task' : Task} (h : agent.Moves task task')
    (hcalled : task.Called) : task'.Called := by
  cases h with
  | hand | read => exact hcalled.elim
  | act | receive => exact hcalled
  | close | finish => trivial

/-- What holds in every run: a connection whose machine has been called is handed no acceptable
PAIR_REQ any more. -/
structure CalledOnce (agent : Agent C) : Prop where
  noRepeat : NoRepeat agent.handled
  called : ∀ call ∈ agent.handled, (agent.tasks call.connection).Called

omit [TextCodecs] in
/-- A machine that has been called is called again by the same task only. -/
theorem CalledOnce.update {agent : Agent C} (h : agent.CalledOnce) {c : C} {task : Task}
    (htask : (agent.tasks c).Called → task.Called) :
    ∀ call ∈ agent.handled, (Function.update agent.tasks c task call.connection).Called := by
  intro call hmem
  by_cases hc : call.connection = c
  · rw [hc, Function.update_self]
    exact htask (hc ▸ h.called call hmem)
  · rw [Function.update_of_ne hc]
    exact h.called call hmem

theorem CalledOnce.handle {agent : Agent C} (h : agent.CalledOnce) {c : C} {window : ℕ}
    {pairing : PcPairing} {frame : Frame} (nowMs : UInt64) (seed : Option Key32)
    (htask : agent.tasks c = .received window pairing frame) :
    (agent.handle c window pairing frame nowMs seed).CalledOnce := by
  have hnext : Task.Called (.acting window (pairing.onFrame frame nowMs seed).1
      (pairing.onFrame frame nowMs seed).2) := pairing.onFrame_state frame nowMs seed
  refine ⟨?_, fun call hmem ↦ ?_⟩
  · refine List.pairwise_append.mpr ⟨h.noRepeat, List.pairwise_singleton _ _,
      fun earlier hearlier later hlater ↦ ?_⟩
    cases List.mem_singleton.mp hlater
    rintro rfl ⟨-, ⟨r, req, hacceptable⟩, -⟩
    have hcalled := h.called earlier hearlier
    rw [htask] at hcalled
    exact hcalled hacceptable.state
  · obtain hearlier | hnow := List.mem_append.mp hmem
    · exact h.update (fun _ ↦ hnext) call hearlier
    · cases List.mem_singleton.mp hnow
      change (Function.update agent.tasks c _ c).Called
      rw [Function.update_self]
      exact hnext

theorem CalledOnce.step {agent : Agent C} (h : agent.CalledOnce) (input : Input C) :
    (agent.step input).CalledOnce := by
  have hstepped := agent.step_cases input
  generalize agent.step input = agent' at hstepped
  cases hstepped with
  | still hsame htasks => exact ⟨hsame.handled ▸ h.noRepeat, hsame.handled ▸ htasks ▸ h.called⟩
  | moved hsame hmoves htasks =>
    exact ⟨hsame.handled ▸ h.noRepeat, hsame.handled ▸ htasks ▸ h.update hmoves.called⟩
  | called htask => exact h.handle _ _ htask
  | saved htask hidentity hhandled hpersisted htasks =>
    exact ⟨hhandled ▸ h.noRepeat, hhandled ▸ htasks ▸ h.update fun _ ↦ trivial⟩

/-- Over every interleaving of any number of connections, the pair token of each offer is used once
exactly if no two connections that have read the offer are both handed an acceptable PAIR_REQ. -/
theorem single_use_iff_one_connection (identity : IdentityKeypair) (displayName : String)
    (stored : List PairingRecord) (inputs : List (Input C)) :
    SingleUse ((start identity displayName stored).run inputs).handled ↔
      OneConnection ((start identity displayName stored).run inputs).handled := by
  have hinit : CalledOnce (start identity displayName stored : Agent C) :=
    ⟨List.Pairwise.nil, fun call hmem ↦ nomatch hmem⟩
  exact singleUse_iff_of_noRepeat (run_invariant (fun _ input h ↦ h.step input) hinit inputs).noRepeat

end Run

end Agent

end Server

namespace Reference

/-- A connection that is handed the request. -/
def requestOn (c : Bool) : Handling Bool :=
  ⟨0, c, pairing, pairReq, 2000, some devices.pcSeed⟩

/-- Two connections read the offer and are handed the request; the pairing of neither has ended. -/
def twoConnections : Agent Bool :=
  (Agent.start devices.pc devices.pcName []).run
    [.openPairingWindow (some devices.token) devices.hosts devices.issuedMs,
      .firstFrame false pairReq, .readOffer false, .onFrame false 2000 (some devices.pcSeed),
      .act false true true, .act false true true,
      .firstFrame true pairReq, .readOffer true, .onFrame true 2000 (some devices.pcSeed)]

end Reference

open Reference in
/-- The token of one offer is answered on two connections. -/
theorem token_answered_on_two_connections : ¬ Agent.SingleUse twoConnections.handled := by
  have hhandled : twoConnections.handled = [requestOn false, requestOn true] := by decide +kernel
  have hanswered (c : Bool) : (requestOn c).Answered :=
    ⟨pairAck.payload, sasEmoji (sasDigest pairingInput), by cases c <;> decide +kernel⟩
  intro hsingle
  rw [hhandled, Agent.SingleUse, List.pairwise_pair] at hsingle
  exact (hanswered true).not_failed (hsingle (hanswered false) rfl rfl)

end AirClip
