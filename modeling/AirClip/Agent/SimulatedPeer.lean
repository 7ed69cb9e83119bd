import AirClip.Agent.RunningAgent
import AirClip.Traffic.ReusedConnection

/-!
# The simulated peer

`--simulate-peer` runs a phone against the agent: it pairs on one connection, and on a second one it opens
a session, beams a clip, lists the staged clips and fetches the first.  The phone is a program with its
locals, the agent is the one that runs, and between them are the frames under way on the two connections.
-/

open Foundation

namespace AirClip

/-- The name that the simulated peer gives itself. -/
def simulatedName : String := "Simulated iPhone"

/-- The clip that the simulated peer beams. -/
def simulatedText : String := "Beamed by --simulate-peer 🚀"

/-- Why the check has stopped. -/
inductive SimulationFailure where
  /-- An error of the core. -/
  | core (failure : Error)
  | noHosts
  /-- Connecting or writing has failed. -/
  | io
  | decoding
  | closed (awaited : FrameType)
  | unexpectedFrame (awaited got : FrameType)
  | unexpectedActions
deriving DecidableEq

/-- What the check has printed. -/
structure Transcript where
  sas : Option (List.Vector String 4)
  record : Option PairingRecord
  items : Option (List StageMeta)
  body : Option Bytes
deriving DecidableEq

section Simulation

variable [Primitives]

/-- What the check is waiting for. -/
inductive SimulatedPhase where
  | pairAck (fsm : PhonePairing)
  /-- The first connection is dropped; a fresh one is next. -/
  | paired (record : PairingRecord)
  | helloAck (session : Session)
  | clipAck (session : Session)
  | stageList (session : Session)
  | stageItem (session : Session)
  | complete
  | failed (why : SimulationFailure)
deriving DecidableEq

/-- The check with its locals. -/
structure SimulatedPeer where
  identity : IdentityKeypair
  transcript : Transcript
  phase : SimulatedPhase
deriving DecidableEq

/-- A frame of the type that is awaited. -/
def expectFrame (ty : FrameType) : Inbound → Except SimulationFailure Frame
  | .ended => .error (.closed ty)
  | .failed => .error .decoding
  | .frame frame => if frame.ty ≠ ty then .error (.unexpectedFrame ty frame.ty) else .ok frame

namespace SimulatedPeer

/-- The type of the frame that is awaited. -/
def awaited (peer : SimulatedPeer) : Option FrameType :=
  match peer.phase with
  | .pairAck _ => some .pairAck
  | .helloAck _ => some .helloAck
  | .clipAck _ => some .clipAck
  | .stageList _ => some .stageList
  | .stageItem _ => some .stageItem
  | .paired _ | .complete | .failed _ => none

/-- The check goes on to wait. -/
def await (peer : SimulatedPeer) (phase : SimulatedPhase) : SimulatedPeer := { peer with phase }

/-- The check stops, having sent nothing more. -/
def bail (peer : SimulatedPeer) (why : SimulationFailure) : SimulatedPeer × List Frame :=
  (peer.await (.failed why), [])

/-- `wire.send`. -/
def send (peer : SimulatedPeer) (works : Bool) (phase : SimulatedPhase) (frame : Frame) :
    SimulatedPeer × List Frame :=
  if works then (peer.await phase, [frame]) else peer.bail .io

variable [Ciborium] [TextCodecs]

/-- The check up to its first wait, with the PAIR_REQ it has sent. -/
def start (qrUrl : String) (idSeed ephSeed : Option Key32) (connects works : Bool) :
    Except SimulationFailure (SimulatedPeer × Frame) :=
  match QrPayload.parse qrUrl with
  | .error failure => .error (.core failure)
  | .ok qr =>
  match Keypair.generate idSeed with
  | .error failure => .error (.core failure)
  | .ok identity =>
  match qr.hosts with
  | [] => .error .noHosts
  | _ :: _ =>
  if !connects then .error .io
  else
  match PhonePairing.start identity simulatedName qr ephSeed with
  | .error failure => .error (.core failure)
  | .ok (fsm, req) =>
  if works then .ok (⟨identity, ⟨none, none, none, none⟩, .pairAck fsm⟩, req) else .error .io

/-- PAIR_ACK: the emoji are printed, and confirmed without a question. -/
def takePairAck (peer : SimulatedPeer) (fsm : PhonePairing) (ack : Frame) (nowMs : UInt64)
    (works : Bool) : SimulatedPeer × List Frame :=
  match fsm.onFrame ack with
  | (fsm, [.showSas sas]) =>
    let peer := { peer with transcript := { peer.transcript with sas := some sas } }
    match (fsm.confirmSas nowMs).2 with
    | [.send confirm, .completed record] =>
      if works then
        ({ peer with transcript := { peer.transcript with record := some record } }.await
          (.paired record), [confirm])
      else peer.bail .io
    | _ => peer.bail .unexpectedActions
  | _ => peer.bail .unexpectedActions

/-- The session on a fresh connection, exactly like the real phone. -/
def reconnect (peer : SimulatedPeer) (record : PairingRecord) (nowMs : UInt64)
    (seed : Option Key32) (connects works : Bool) : SimulatedPeer × List Frame :=
  if !connects then peer.bail .io
  else
    match record.peerKey with
    | .error failure => peer.bail (.core failure)
    | .ok pc =>
      match Session.startPhone peer.identity pc nowMs seed with
      | .error failure => peer.bail (.core failure)
      | .ok (session, hello) => peer.send works (.helloAck session) hello

/-- HELLO_ACK: a clip is beamed. -/
def takeHelloAck (peer : SimulatedPeer) (session : Session) (ack : Frame) (nowMs pushMs : UInt64)
    (randomId : Option (Octets 8)) (works : Bool) : SimulatedPeer × List Frame :=
  match session.onFrame ack nowMs none with
  | (session, [.emit (.established _)]) =>
    match session.pushClip .text (utf8 simulatedText) simulatedName pushMs randomId with
    | (.error failure, _) => peer.bail (.core failure)
    | (.ok (push, _), session) => peer.send works (.clipAck session) push
  | _ => peer.bail .unexpectedActions

/-- CLIP_ACK: the staged clips are asked for. -/
def takeClipAck (peer : SimulatedPeer) (session : Session) (ack : Frame) (nowMs : UInt64)
    (works : Bool) : SimulatedPeer × List Frame :=
  match session.onFrame ack nowMs none with
  | (session, [.emit (.clipAcked _ status)]) =>
    if status ≠ 0 then peer.bail .unexpectedActions
    else
      match session.requestStageList with
      | (.error failure, _) => peer.bail (.core failure)
      | (.ok request, session) => peer.send works (.stageList session) request
  | _ => peer.bail .unexpectedActions

/-- STAGE_LIST: the first of the clips is fetched, if there is one. -/
def takeStageList (peer : SimulatedPeer) (session : Session) (list : Frame) (nowMs : UInt64)
    (works : Bool) : SimulatedPeer × List Frame :=
  match session.onFrame list nowMs none with
  | (session, [.emit (.stageList items)]) =>
    let peer := { peer with transcript := { peer.transcript with items := some items } }
    match items with
    | [] => (peer.await .complete, [])
    | first :: _ =>
      match session.requestStageItem first.stageId with
      | (.error failure, _) => peer.bail (.core failure)
      | (.ok request, session) => peer.send works (.stageItem session) request
  | _ => peer.bail .unexpectedActions

/-- STAGE_ITEM: the transcript is complete. -/
def takeStageItem (peer : SimulatedPeer) (session : Session) (item : Frame) (nowMs : UInt64) :
    SimulatedPeer × List Frame :=
  match (session.onFrame item nowMs none).2 with
  | [.emit (.stageItem _ _ body)] =>
    ({ peer with transcript := { peer.transcript with body := some body } }.await .complete, [])
  | _ => peer.bail .unexpectedActions

/-- What comes in while the check waits. -/
def take (peer : SimulatedPeer) (inbound : Inbound) (nowMs laterMs : UInt64)
    (randomId : Option (Octets 8)) (works : Bool) : SimulatedPeer × List Frame :=
  match peer.awaited.map (expectFrame · inbound), peer.phase with
  | some (.error why), _ => peer.bail why
  | some (.ok ack), .pairAck fsm => peer.takePairAck fsm ack nowMs works
  | some (.ok ack), .helloAck session =>
    peer.takeHelloAck session ack nowMs laterMs randomId works
  | some (.ok ack), .clipAck session => peer.takeClipAck session ack nowMs works
  | some (.ok list), .stageList session => peer.takeStageList session list nowMs works
  | some (.ok item), .stageItem session => peer.takeStageItem session item nowMs
  | _, _ => (peer, [])

end SimulatedPeer

/-! ## The check against the agent -/

namespace RunningAgent

variable {Ip C : Type} [DecidableEq C]

/-- The frames that the pairing exchange on a connection has sent. -/
def sentOn (running : RunningAgent Ip C) (c : C) : List Frame :=
  (running.sent.filter fun entry ↦ decide (entry.1 = c)).map Prod.snd

/-- The frames that the agent has written to a connection. -/
def written (running : RunningAgent Ip C) (c : C) : List Frame :=
  match running.connections c with
  | .session task => writtenFrames task.trace
  | _ => running.sentOn c

omit [DecidableEq C]

/-- The task of a connection waits for a frame. -/
def listens (running : RunningAgent Ip C) (c : C) : Bool :=
  match running.connections c with
  | .waiting => true
  | .pairing =>
    match running.tasks c with
    | .acting _ _ [] => true
    | _ => false
  | .session task => decide (task.phase = .acting [])
  | .absent | .dropped | .greeted _ | .closed => false

/-- The task of a connection has come to its end. -/
def hungUp (running : RunningAgent Ip C) (c : C) : Bool :=
  match running.connections c with
  | .dropped | .closed => true
  | .pairing => decide (running.tasks c = .ended)
  | .session task =>
    match task.phase with
    | .returned _ => true
    | _ => false
  | .absent | .waiting | .greeted _ => false

/-- A frame reaches the task of a connection. -/
def arrival (running : RunningAgent Ip C) (c : C) (inbound : Inbound) : Input Ip C :=
  match running.connections c with
  | .waiting => .firstFrame c inbound
  | _ => .next c inbound

end RunningAgent

/-- The frames under way on a connection. -/
structure InFlight where
  toPc : List Frame
  toPhone : List Frame

/-- What the phone waits for on a connection, if it has come. -/
def InFlight.inbound (wire : InFlight) (hungUp : Bool) : Option Inbound :=
  match wire.toPhone with
  | frame :: _ => some (.frame frame)
  | [] => if hungUp then some .ended else none

/-- The check and the agent, with the two connections of the check. -/
structure Acceptance (Ip C : Type) where
  running : RunningAgent Ip C
  peer : SimulatedPeer
  pairing : InFlight
  session : InFlight

/-- The two connections of the check, as the agent numbers them. -/
structure Links (C : Type) where
  pairing : C
  session : C
  ne : pairing ≠ session

namespace Acceptance

/-- What happens next. -/
inductive Input (Ip C : Type) where
  /-- The agent goes on. -/
  | agent (input : RunningAgent.Input Ip C)
  /-- The first frame under way on a connection reaches the agent. -/
  | pairingArrives
  | sessionArrives
  /-- The check takes what has come for it. -/
  | take (nowMs laterMs : UInt64) (randomId : Option (Octets 8)) (works : Bool)
  | reconnect (nowMs : UInt64) (seed : Option Key32) (connects works : Bool)

variable {Ip C : Type} [DecidableEq Ip] [DecidableEq C] [Ciborium] [TextCodecs] (links : Links C)

/-- The agent takes a step; what it writes is under way to the phone. -/
def proceed (world : Acceptance Ip C) (input : RunningAgent.Input Ip C) : Acceptance Ip C :=
  let running := world.running.step input
  let fresh (c : C) := (running.written c).drop (world.running.written c).length
  { world with
    running
    pairing := { world.pairing with toPhone := world.pairing.toPhone ++ fresh links.pairing }
    session := { world.session with toPhone := world.session.toPhone ++ fresh links.session } }

/-- The check goes on, and what it sends on its first connection is under way. -/
def takePairing (world : Acceptance Ip C) (nowMs laterMs : UInt64) (randomId : Option (Octets 8))
    (works : Bool) : Acceptance Ip C :=
  match world.pairing.inbound (world.running.hungUp links.pairing) with
  | none => world
  | some inbound =>
    let (peer, frames) := world.peer.take inbound nowMs laterMs randomId works
    { world with
      peer
      pairing := ⟨world.pairing.toPc ++ frames, world.pairing.toPhone.tail⟩ }

/-- The same on the second one. -/
def takeSession (world : Acceptance Ip C) (nowMs laterMs : UInt64) (randomId : Option (Octets 8))
    (works : Bool) : Acceptance Ip C :=
  match world.session.inbound (world.running.hungUp links.session) with
  | none => world
  | some inbound =>
    let (peer, frames) := world.peer.take inbound nowMs laterMs randomId works
    { world with
      peer
      session := ⟨world.session.toPc ++ frames, world.session.toPhone.tail⟩ }

def step (world : Acceptance Ip C) : Input Ip C → Acceptance Ip C
  | .agent input => world.proceed links input
  | .pairingArrives =>
    match world.pairing.toPc, world.running.listens links.pairing with
    | frame :: frames, true =>
      { world with pairing := { world.pairing with toPc := frames } }.proceed links
        (world.running.arrival links.pairing (.frame frame))
    | _, _ => world
  | .sessionArrives =>
    match world.session.toPc, world.running.listens links.session with
    | frame :: frames, true =>
      { world with session := { world.session with toPc := frames } }.proceed links
        (world.running.arrival links.session (.frame frame))
    | _, _ => world
  | .take nowMs laterMs randomId works =>
    match world.peer.awaited with
    | none => world
    | some .pairAck => world.takePairing links nowMs laterMs randomId works
    | some _ => world.takeSession links nowMs laterMs randomId works
  | .reconnect nowMs seed connects works =>
    match world.peer.phase with
    | .paired record =>
      let (peer, frames) := world.peer.reconnect record nowMs seed connects works
      { world with peer, session := { world.session with toPc := world.session.toPc ++ frames } }
    | _ => world

def run (world : Acceptance Ip C) (inputs : List (Input Ip C)) : Acceptance Ip C :=
  inputs.foldl (step links) world

/-- The check begins with the link of the pairing window. -/
def start (running : RunningAgent Ip C) (qrUrl : String) (idSeed ephSeed : Option Key32)
    (connects works : Bool) : Except SimulationFailure (Acceptance Ip C) :=
  match SimulatedPeer.start qrUrl idSeed ephSeed connects works with
  | .error why => .error why
  | .ok (peer, req) => .ok ⟨running, peer, ⟨[req], []⟩, ⟨[], []⟩⟩

end Acceptance

end Simulation

end AirClip
