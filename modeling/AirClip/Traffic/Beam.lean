import AirClip.Agent.SessionServer
import AirClip.Core.Client
import AirClip.Core.HonestPairing
import AirClip.Traffic.ClipReceipt

/-!
# Beams over a network

The connection of a phone and the loop of the computer that serves it, side by side.  The phone carries
out its operations, the loop takes its steps, in any order, and the network hands either of them
whatever frames it likes.  The cipher is ideal: a frame that opens at one side has left the other.
-/

open Foundation Cbor

namespace AirClip

/-- A clip with all a CLIP_PUSH says about it. -/
structure BeamedClip where
  clipId : Octets 8
  contentType : ContentType
  body : Bytes
  sourceName : String
  createdAtMs : UInt64
deriving DecidableEq

/-- The clip whose arrival is emitted. -/
def SessionEvent.arrival : SessionEvent → Option BeamedClip
  | .clipArrived clipId contentType body sourceName createdAtMs =>
    some ⟨clipId, contentType, body, sourceName, createdAtMs⟩
  | _ => none

/-- The clips that arrive among some actions. -/
def arrivals (actions : List SessionAction) : List BeamedClip :=
  (emittedEvents actions).filterMap SessionEvent.arrival

/-- The arrivals among the events a driver has handled. -/
def handledArrivals (trace : List DriverEntry) : List BeamedClip :=
  trace.filterMap fun
    | .handled event => event.arrival
    | _ => none

/-- The arrivals among the events of the agent. -/
def agentArrivals (events : List AgentEvent) : List (ContentType × Bytes × String) :=
  events.filterMap fun
    | .clipArrived contentType body sourceName => some (contentType, body, sourceName)
    | _ => none

section Beams

variable [Primitives] [Ciborium]

/-- The clip in the plaintext of a CLIP_PUSH, as its receiver reads it. -/
def readPush (plain : Bytes) : Option BeamedClip :=
  match MapReader.fromSlice plain with
  | .error _ => none
  | .ok r =>
    match Session.readClipPush r with
    | none => none
    | some (clipId, ct, body) =>
      (contentTypeOf ct).map fun contentType ↦
        ⟨clipId, contentType, body, (r.text SessionKey.sourceName).toOption.getD "",
          (r.u64 SessionKey.createdAt).toOption.getD 0⟩

/-- The clip in a frame for the holder of the key it was sealed under. -/
def pushUnder (key : Key32) (frame : Frame) : Option BeamedClip :=
  if frame.ty = .clipPush then (frame.plainUnder key).bind readPush else none

/-! ## The phone -/

/-- The connection of the phone with its past: the clips it has pushed, and what the beams that have
returned since came to. -/
structure Phone where
  endpoint : Endpoint
  /-- The clip of a beam that waits for its acknowledgement. -/
  waiting : Option BeamedClip
  pushed : List BeamedClip
  returned : List (BeamedClip × Except ClientError (Octets 8))

/-- What the operations of a connection do, up to their next wait.  An operation may be given up
while it waits. -/
inductive PhoneInput where
  | beam (contentType : ContentType) (body : Bytes) (sourceName : String) (nowMs : UInt64)
      (randomId : Option (Octets 8)) (sent : Except String Unit)
  /-- What the beam that waits receives. -/
  | reply (reply : Except ClientError Frame) (nowMs : UInt64)
  | requestStageList
  | requestStageItem (stageId : Octets 8)
  /-- A frame that one of the other operations handles. -/
  | handle (frame : Frame) (nowMs : UInt64)

namespace Phone

/-- A connection that has just been opened. -/
def connected (session : Session) : Phone := ⟨.opening session [], none, [], []⟩

/-- Wait on, or return the result. -/
def follow (phone : Phone) (clip : BeamedClip) (exchange : Exchange (Octets 8)) : Phone :=
  { phone with
    waiting := if exchange.result.isNone then some clip else none
    returned := phone.returned ++ (exchange.result.map fun result ↦ (clip, result)).toList }

def beam (phone : Phone) (contentType : ContentType) (body : Bytes) (sourceName : String)
    (nowMs : UInt64) (randomId : Option (Octets 8)) (sent : Except String Unit) : Phone :=
  match Connection.beamRequest phone.endpoint.session contentType body sourceName nowMs randomId
    sent with
  | (_, none) => { phone with waiting := none }
  | (exchange, some clipId) =>
    let clip : BeamedClip := ⟨clipId, contentType, body, sourceName, nowMs⟩
    follow { phone with
      endpoint := phone.endpoint.call (.pushClip contentType body sourceName nowMs randomId)
      pushed := phone.pushed ++ [clip] } clip exchange

/-- One round of a beam. -/
def reply (phone : Phone) (reply : Except ClientError Frame) (nowMs : UInt64) : Phone :=
  match phone.waiting with
  | none => phone
  | some clip =>
    let exchange := Exchange.receive (Connection.beamSettles clip.clipId)
      ⟨phone.endpoint.session, none, []⟩ reply nowMs
    match reply with
    | .error _ => follow phone clip exchange
    | .ok frame =>
      follow { phone with endpoint := phone.endpoint.call (.onFrame frame nowMs none) } clip exchange

/-- A call of an operation that is not a beam. -/
def other (phone : Phone) (call : Session.Call) : Phone :=
  { phone with endpoint := phone.endpoint.call call, waiting := none }

def step (phone : Phone) : PhoneInput → Phone
  | .beam contentType body sourceName nowMs randomId sent =>
    phone.beam contentType body sourceName nowMs randomId sent
  | .reply reply nowMs => phone.reply reply nowMs
  | .requestStageList => phone.other .requestStageList
  | .requestStageItem stageId => phone.other (.requestStageItem stageId)
  | .handle frame nowMs => phone.other (.onFrame frame nowMs none)

/-- The connection is where the beam is that has pushed the clip. -/
structure Follows (phone : Phone) (clip : BeamedClip)
    (earlier : List (BeamedClip × Except ClientError (Octets 8))) (exchange : Exchange (Octets 8)) :
    Prop where
  session : phone.endpoint.session = exchange.session
  waiting : phone.waiting = if exchange.result.isNone then some clip else none
  returned : phone.returned =
    earlier ++ (exchange.result.map fun result ↦ (clip, result)).toList

theorem Follows.reply {phone : Phone} {clip : BeamedClip}
    {earlier : List (BeamedClip × Except ClientError (Octets 8))} {exchange : Exchange (Octets 8)}
    (h : phone.Follows clip earlier exchange) (reply : Except ClientError Frame) (nowMs : UInt64) :
    (phone.reply reply nowMs).Follows clip earlier
      (exchange.receive (Connection.beamSettles clip.clipId) reply nowMs) := by
  obtain ⟨session, result, trace⟩ := exchange
  obtain ⟨hsession, hwaiting, hreturned⟩ := h
  change phone.endpoint.session = session at hsession
  subst hsession
  cases result with
  | some result =>
    have hnone : phone.waiting = none := hwaiting
    simp only [Phone.reply, hnone]
    exact ⟨rfl, hwaiting, hreturned⟩
  | none =>
    have hsome : phone.waiting = some clip := hwaiting
    obtain rfl : phone.returned = earlier := hreturned.trans (List.append_nil _)
    simp only [Phone.reply, hsome, follow]
    cases reply with
    | error failure => exact ⟨rfl, rfl, rfl⟩
    | ok frame =>
      have hround (trace : List DriverEntry) := Exchange.receive_ok
        (Connection.beamSettles clip.clipId)
        (rfl : (⟨phone.endpoint.session, none, trace⟩ : Exchange (Octets 8)).result = none) frame nowMs
      exact ⟨(hround trace).1.symm, by rw [(hround []).2, (hround trace).2],
        by rw [(hround []).2, (hround trace).2]⟩

/-- A beam in the midst of other things is the operation of the connection: it returns what the
operation results in. -/
theorem beam_follows (phone : Phone) (contentType : ContentType) (body : Bytes) (sourceName : String)
    (nowMs : UInt64) (randomId : Option (Octets 8)) (sent : Except String Unit)
    (replies : List (Except ClientError Frame × UInt64)) {clipId : Octets 8}
    (hpushed : (Connection.beamRequest phone.endpoint.session contentType body sourceName nowMs
      randomId sent).2 = some clipId) :
    (replies.foldl (fun phone reply ↦ phone.reply reply.1 reply.2)
        (phone.beam contentType body sourceName nowMs randomId sent)).Follows
      ⟨clipId, contentType, body, sourceName, nowMs⟩ phone.returned
      (Connection.beam phone.endpoint.session contentType body sourceName nowMs randomId sent
        replies) := by
  have hsession : (phone.endpoint.session.perform
      (.pushClip contentType body sourceName nowMs randomId)).1 =
        (Connection.beamRequest phone.endpoint.session contentType body sourceName nowMs randomId
          sent).1.session := by
    unfold Connection.beamRequest at hpushed ⊢
    change (Session.returned _).1 = _
    split_ifs at hpushed ⊢
    generalize phone.endpoint.session.pushClip contentType body sourceName nowMs randomId = result
      at hpushed ⊢
    obtain ⟨failure | ⟨frame, clipId⟩, later⟩ := result
    · cases hpushed
    · cases sent <;> rfl
  unfold Connection.beam beam
  generalize Connection.beamRequest phone.endpoint.session contentType body sourceName nowMs randomId
    sent = request at hpushed hsession ⊢
  obtain ⟨exchange, clipId'⟩ := request
  cases hpushed
  dsimp only
  induction replies using List.reverseRecOn with
  | nil => exact ⟨hsession, rfl, rfl⟩
  | append_singleton replies reply ih =>
    rw [List.foldl_concat, Exchange.receiveAll_snoc]
    exact ih.reply reply.1 reply.2

end Phone

/-! ## The computer -/

namespace SessionTask

/-- The actions the loop has still to carry out. -/
def pending (task : SessionTask) : List SessionAction :=
  match task.phase with
  | .acting actions => actions
  | _ => []

/-- The session call an event of the core is answered by. -/
def answerCall (stage : StageRing) : SessionEvent → Option Session.Call
  | .stageListRequested => some (.sendStageList stage.list)
  | .stageItemRequested stageId =>
    some (match stage.get stageId with
      | some clip => .sendStageItem clip
      | none => .sendStageList [])
  | _ => none

/-- The calls of a step on the session. -/
def calls (task : SessionTask) : Input → List Session.Call
  | .onFrame paused nowMs seed =>
    match task.phase with
    | .received frame => [.setPaused paused, .onFrame frame nowMs seed]
    | _ => []
  | .act stage _ =>
    match task.phase with
    | .acting (.emit event :: _) => (answerCall stage event).toList
    | _ => []
  | .next _ => []

/-- The pause flag and the batch of a round that begins. -/
def round (task : SessionTask) : Input → Option (Bool × List SessionAction)
  | .onFrame paused nowMs seed =>
    match task.phase with
    | .received frame => some (paused, ((task.session.setPaused paused).onFrame frame nowMs seed).2)
    | _ => none
  | _ => none

end SessionTask

/-- The loop that serves the phone, with the past of its session and its rounds so far. -/
structure Computer where
  endpoint : Endpoint
  task : SessionTask
  rounds : List (Bool × List SessionAction)

namespace Computer

/-- The loop when the connection of the phone has been opened. -/
def serving (task : SessionTask) : Computer := ⟨.opening task.session [], task, []⟩

def step (computer : Computer) (input : SessionTask.Input) : Computer where
  endpoint := (computer.task.calls input).foldl Endpoint.call computer.endpoint
  task := computer.task.step input
  rounds := computer.rounds ++ (computer.task.round input).toList

/-- The clips whose arrival has been emitted to the agent. -/
def arrived (computer : Computer) : List BeamedClip := handledArrivals computer.task.trace

/-- The ciphertexts that have left the computer: those sealed so far that are not still to be
written. -/
def released (computer : Computer) : List Frame :=
  (ciphertexts computer.endpoint.sent).filter fun frame ↦ frame ∉ sentFrames computer.task.pending

end Computer

/-! ## Both over a network -/

structure BeamWorld where
  phone : Phone
  computer : Computer

inductive BeamInput where
  | phone (input : PhoneInput)
  | computer (input : SessionTask.Input)

/-- A ciphertext that opens at the receiver is that of one of these frames, under the same nonce and
associated data. -/
def Unforged (sent : List Frame) (receiver : Session) (frame : Frame) : Prop :=
  ∀ channel plain, receiver.channel = some channel → frame.plainUnder channel.rx.key = some plain →
    ∃ earlier ∈ sent,
      AeadChannel.nonceFor (counterOf earlier) = AeadChannel.nonceFor (counterOf frame) ∧
      AeadChannel.aadFor earlier.ty = AeadChannel.aadFor frame.ty ∧
      earlier.payload.drop 8 = frame.payload.drop 8

namespace BeamWorld

/-- A connection that has just been opened, to a loop with this state. -/
def start (phone : Session) (task : SessionTask) : BeamWorld :=
  ⟨.connected phone, .serving task⟩

def step (world : BeamWorld) : BeamInput → BeamWorld
  | .phone input => { world with phone := world.phone.step input }
  | .computer input => { world with computer := world.computer.step input }

/-- The network may hand over any frame the ideal cipher allows.  The name of a device is a string of
the source, whose length is a machine word. -/
def Admissible (world : BeamWorld) : BeamInput → Prop
  | .phone (.beam _ _ sourceName _ _ _) => (utf8 sourceName).length < 2 ^ 64
  | .phone (.reply (.ok frame) _) | .phone (.handle frame _) =>
    Unforged world.computer.released world.phone.endpoint.session frame
  | .computer (.onFrame ..) => ∀ frame, world.computer.task.phase = .received frame →
    Unforged (ciphertexts world.phone.endpoint.sent) world.computer.endpoint.session frame
  | _ => True

/-- The worlds that the operations of the phone, the steps of the loop and the network lead to, in
any order. -/
inductive Reachable (opening : BeamWorld) : BeamWorld → Prop
  | start : Reachable opening opening
  | step {world : BeamWorld} (hreach : Reachable opening world) (input : BeamInput)
      (hadmissible : world.Admissible input) : Reachable opening (world.step input)

end BeamWorld

/-- The two ends of a session once the phone is established: the channels are fresh, with the keys of
each other, and no clip has reached the loop. -/
structure Joined (phone : Session) (task : SessionTask) : Prop where
  phone_begun : phone.Begun
  task_begun : task.session.Begun
  channels : ∃ p2c c2p, phone.channel = some (.new p2c c2p) ∧
    task.session.channel = some (.new c2p p2c)
  pending : NoClip task.pending
  handled : handledArrivals task.trace = []
  events : agentArrivals task.events = []

/-- A handshake leaves a fresh channel. -/
theorem Session.channel_new_of_onFrame {session : Session} (hcoherent : session.Coherent)
    (hnone : session.channel = none) {frame : Frame} {nowMs : UInt64} {seed : Option Key32}
    {channel : AeadChannel} (h : (session.onFrame frame nowMs seed).1.channel = some channel) :
    channel = .new channel.tx.key channel.rx.key := by
  obtain ⟨-, -, hestablishing⟩ :=
    perform_no_channel hcoherent hnone (.onFrame frame nowMs seed)
  change (session.perform (.onFrame frame nowMs seed)).1.channel = some channel at h
  generalize (session.perform (.onFrame frame nowMs seed)).1 = later at hestablishing h
  generalize session.greeting (.onFrame frame nowMs seed) = greeting at hestablishing
  cases hestablishing with
  | still hchannel =>
    rw [hchannel] at h
    cases h
  | greeted | acknowledged =>
    cases h
    rfl

/-- The handshake of two devices that have each other's records leaves them joined, if the loop of the
computer runs its session and no clip has reached it. -/
theorem HonestDevices.connect_joined [TextCodecs] [X25519Commutes] [Ciborium.Lawful]
    (devices : HonestDevices) {phoneRecord pcRecord : PairingRecord}
    (hphone : phoneRecord.peerKey = .ok ⟨devices.pc.deviceId, devices.pc.publicBytes⟩)
    (hpc : pcRecord.peerKey = .ok ⟨devices.phone.deviceId, devices.phone.publicBytes⟩)
    (helloSeed ackSeed : Key32) {helloMs receivedMs : UInt64} (openedMs ackMs : UInt64)
    (hfresh : |(helloMs.toNat : ℤ) - receivedMs.toNat| ≤ 120000) :
    ∃ connected, devices.connect phoneRecord pcRecord helloSeed ackSeed helloMs openedMs receivedMs
        ackMs = some connected ∧ ∀ task : SessionTask, task.session.Begun →
      task.session.channel = connected.pc.channel → NoClip task.pending →
      handledArrivals task.trace = [] → agentArrivals task.events = [] →
        Joined connected.phone task := by
  obtain ⟨connected, hconnected, hestablished, -, -, -, -, -, phoneChannel, pcChannel, hphoneChannel,
    hpcChannel, hforth, hback⟩ :=
    devices.connect_eq_some hphone hpc helloSeed ackSeed openedMs ackMs hfresh
  refine ⟨connected, hconnected, fun task hbegun hchannel hpending hhandled hevents ↦
    ⟨.inl hestablished, hbegun, ?_, hpending, hhandled, hevents⟩⟩
  have hnew : phoneChannel = .new phoneChannel.tx.key phoneChannel.rx.key ∧
      pcChannel = .new pcChannel.tx.key pcChannel.rx.key := by
    unfold HonestDevices.connect at hconnected
    simp only [hphone, hpc] at hconnected
    split at hconnected
    · cases hconnected
    next opened hello hstart =>
    split at hconnected
    next pc ack pcEstablished hanswer =>
      split at hconnected
      next phone phoneEstablished hacknowledge =>
        cases hconnected
        obtain ⟨eph, -, hopens⟩ := Session.startPhone_opens hstart
        have hopened : opened.channel = none := by
          rw [Session.startPhone_session hopens]
          rfl
        have hphoneSession := congrArg (fun result ↦ result.1.channel) hacknowledge
        have hpcSession := congrArg (fun result ↦ result.1.channel) hanswer
        exact ⟨Session.channel_new_of_onFrame (Session.startPhone_coherent hopens) hopened
            (hphoneSession.trans hphoneChannel),
          Session.channel_new_of_onFrame (Session.newPc_coherent _ _ _) rfl
            (hpcSession.trans hpcChannel)⟩
      · cases hconnected
    · cases hconnected
  rw [← hforth, ← hback] at hnew
  exact ⟨phoneChannel.tx.key, phoneChannel.rx.key, hphoneChannel.trans (congrArg some hnew.1),
    hchannel.trans (hpcChannel.trans (congrArg some hnew.2))⟩

end Beams

end AirClip
