import AirClip.Core.Handshake
import AirClip.Traffic.FrameSizes
import AirClip.Traffic.FramesInTurn

/-!
# A phone that waits for every answer

A phone that sends nothing while it waits is in step with the loop that serves it: there is one request
under way, or one answer.  What is said here holds from the handshake on: how the request is served, and
that the phone takes the answer for what it has asked.
-/

open Foundation Cbor

namespace AirClip

section Conversation

variable [Primitives]

/-- Either session opens what the other seals next, and each can seal some more frames. -/
structure Session.InStep (phone pc : Session) (room : ℕ) : Prop where
  mirrored : phone.Mirrored pc
  phone_room : phone.txNext + room < 2 ^ 64
  pc_room : pc.txNext + room < 2 ^ 64

/-- What a phone waits for: the event of the answer and its type, and what the agent has to have reported
by then. -/
structure Awaited where
  phone : Session
  room : ℕ
  event : SessionEvent
  ty : FrameType
  due : List AgentEvent

/-- The events that the loop reports on an action. -/
def SessionAction.reports : SessionAction → List AgentEvent
  | .emit (.established peer) => [.peerConnected peer.hex]
  | .emit (.clipArrived _ contentType body sourceName _) => [.clipArrived contentType body sourceName]
  | _ => []

/-- An action that the loop carries out without writing. -/
inductive SessionAction.Quiet : SessionAction → Prop
  | established (peer : DeviceId) : Quiet (.emit (.established peer))
  | clipArrived (clipId : Octets 8) (contentType : ContentType) (body : Bytes) (sourceName : String)
      (createdAtMs : UInt64) : Quiet (.emit (.clipArrived clipId contentType body sourceName createdAtMs))

namespace Session

theorem Unexhausted.of_txNext {session : Session} (h : session.txNext + 1 < 2 ^ 64) :
    session.Unexhausted := by
  intro channel hchannel
  rwa [txNext_eq hchannel] at h

theorem InStep.mono {phone pc : Session} {room less : ℕ} (h : phone.InStep pc room)
    (hless : less ≤ room) : phone.InStep pc less :=
  ⟨h.mirrored, by have := h.phone_room; omega, by have := h.pc_room; omega⟩

theorem InStep.symm {phone pc : Session} {room : ℕ} (h : phone.InStep pc room) :
    pc.InStep phone room := ⟨h.mirrored.symm, h.pc_room, h.phone_room⟩

variable [Ciborium]

/-- A session seals what it hands out, and nothing else. -/
theorem txNext_onFrame {session : Session} (hcoherent : session.Coherent) {channel : AeadChannel}
    (hchannel : session.channel = some channel) (frame : Frame) (nowMs : UInt64)
    (seed : Option Key32) : (session.onFrame frame nowMs seed).1.txNext ≤
      session.txNext + (sentFrames (session.onFrame frame nowMs seed).2).length := by
  obtain ⟨opened, items, later, hopening, hsealing, hlater, hitems, -⟩ :=
    perform_channel hcoherent hchannel (.onFrame frame nowMs seed)
  have hsent : items.length ≤ (sentFrames (session.onFrame frame nowMs seed).2).length := by
    rw [← List.length_map (f := Prod.fst), hitems]
    exact List.length_filter_le _ _
  change (session.onFrame frame nowMs seed).1.channel = later at hlater
  cases hsealing with
  | idle =>
    rw [txNext_eq hlater, txNext_eq hchannel, hopening.tx_eq]
    exact Nat.le_add_right _ _
  | once _ hseal =>
    obtain ⟨ct, -, hctr, -, rfl⟩ := AeadChannel.sealPayload_eq_ok hseal
    rw [txNext_eq hlater, txNext_eq hchannel, ← hopening.tx_eq]
    change (opened.tx.ctr + 1).toNat ≤ _
    rw [AeadChannel.toNat_succ hctr]
    exact Nat.add_le_add_left hsent _

/-- A frame that makes a session emit one event and send some frames leaves as much room as that. -/
theorem InStep.room {phone pc : Session} {room : ℕ} (h : phone.InStep pc room) (frame : Frame)
    (nowMs : UInt64) (seed : Option Key32) : (phone.onFrame frame nowMs seed).1.txNext ≤
      phone.txNext + (sentFrames (phone.onFrame frame nowMs seed).2).length := by
  obtain ⟨channel, -, hchannel, -⟩ := h.mirrored.channels
  exact txNext_onFrame (coherent_of_established h.mirrored.left_state hchannel) hchannel frame nowMs seed

end Session

namespace Awaited

variable [Ciborium]

/-- The phone takes the frame for the answer. -/
def AnsweredBy (awaited : Awaited) (pc : Session) (reply : Frame) : Prop :=
  reply.ty = awaited.ty ∧ ∀ nowMs, ∃ phone,
    awaited.phone.onFrame reply nowMs none = (phone, [.emit awaited.event]) ∧
      phone.InStep pc awaited.room

/-- The actions answer the phone, and whatever is due has been reported before they do. -/
inductive ServedBy (awaited : Awaited) (stage : StageRing) (events : List AgentEvent) (pc : Session) :
    List SessionAction → Prop
  | owes {before after : List SessionAction} {reply : Frame}
      (hbefore : ∀ action ∈ before, action.Quiet) (hafter : ∀ action ∈ after, action.Quiet)
      (hlength : before.length + after.length ≤ 1) (hanswered : awaited.AnsweredBy pc reply)
      (hdue : ∀ event ∈ awaited.due, event ∈ events ++ before.flatMap SessionAction.reports) :
      ServedBy awaited stage events pc (before ++ .send reply :: after)
  | pulls {event : SessionEvent} {answer : Message} (hanswer : stage.answer event = some answer)
      (hpulled : answer.Pulled) (hevents : answer.events = [awaited.event])
      (hty : answer.ty = awaited.ty) (hdue : awaited.due = [])
      (hstep : awaited.phone.InStep pc (awaited.room + 1)) :
      ServedBy awaited stage events pc [.emit event]

/-- The frame is served as a request, if it is taken while the clock allows. -/
def RequestedBy (awaited : Awaited) (Clock : UInt64 → Prop) (stage : StageRing) (pc : Session)
    (frame : Frame) : Prop :=
  ∀ nowMs seed events, Clock nowMs →
    awaited.ServedBy stage events ((pc.setPaused false).onFrame frame nowMs (some seed)).1
      ((pc.setPaused false).onFrame frame nowMs (some seed)).2

theorem ServedBy.mono {awaited : Awaited} {stage : StageRing} {events events' : List AgentEvent}
    {pc : Session} {actions : List SessionAction} (h : awaited.ServedBy stage events pc actions)
    (hevents : events ⊆ events') : awaited.ServedBy stage events' pc actions := by
  cases h with
  | owes hbefore hafter hlength hanswered hdue =>
    refine .owes hbefore hafter hlength hanswered fun event hmem ↦ ?_
    exact (List.mem_append.mp (hdue event hmem)).elim
      (fun hearlier ↦ List.mem_append_left _ (hevents hearlier)) (List.mem_append_right _)
  | pulls hanswer hpulled hmessages hty hdue hstep =>
    exact .pulls hanswer hpulled hmessages hty hdue hstep

theorem ServedBy.length_le {awaited : Awaited} {stage : StageRing} {events : List AgentEvent}
    {pc : Session} {actions : List SessionAction} (h : awaited.ServedBy stage events pc actions) :
    actions.length ≤ 2 := by
  cases h with
  | owes hbefore hafter hlength =>
    rw [List.length_append, List.length_cons]
    omega
  | pulls => exact Nat.le_succ 1

end Awaited

/-! ## Requests -/

omit [Primitives] in
theorem Message.Pulled.ne_error {message : Message} (h : message.Pulled) (code : WireErrorCode)
    (msg : String) : message ≠ .error code msg := by
  rintro rfl
  exact h

namespace Session

theorem Mirrored.setPaused {phone pc : Session} (h : phone.Mirrored pc) (paused : Bool) :
    phone.Mirrored (pc.setPaused paused) := ⟨h.left_state, h.right_state, h.channels⟩

theorem InStep.setPaused {phone pc : Session} {room : ℕ} (h : phone.InStep pc room) (paused : Bool) :
    phone.InStep (pc.setPaused paused) room := ⟨h.mirrored.setPaused paused, h.phone_room, h.pc_room⟩

variable [Ciborium]

theorem InStep.transmit_room {phone pc later : Session} {room : ℕ} (h : phone.InStep pc (room + 1))
    {message : Message} (hmessage : ∀ code msg, message ≠ .error code msg) {frame : Frame}
    (htransmit : phone.transmit message = (.ok frame, later)) : later.txNext + room < 2 ^ 64 := by
  obtain ⟨failure, hfailure⟩ | ⟨frame', later', htransmit', hnumbers⟩ :=
    phone.transmit_numbers hmessage
  · cases hfailure.symm.trans htransmit
  · cases htransmit'.symm.trans htransmit
    rw [hnumbers.txNext]
    have hroom := h.phone_room
    omega

variable [Ciborium.Lawful] [AeadCorrect] [AeadAvailable]

/-- A message of the staged pull is sealed, and comes out as its event. -/
theorem InStep.pulled {sender receiver : Session} {room : ℕ} (h : sender.InStep receiver (room + 1))
    {message : Message} (hmessage : message.Pulled) : ∃ frame sender',
      sender.transmit message = (.ok frame, sender') ∧ frame.ty = message.ty ∧
        ∀ nowMs seed, ∃ receiver', receiver.onFrame frame nowMs seed =
          (receiver', message.events.map .emit) ∧ sender'.InStep receiver' room := by
  obtain ⟨frame, sender', htransmit, hreceive⟩ :=
    h.mirrored.pulled (.of_txNext (by have := h.phone_room; omega)) hmessage
  obtain ⟨plain, later, -, hseal, -⟩ := transmit_eq_ok htransmit
  refine ⟨frame, sender', htransmit, (h.mirrored.onFrame message.ty_encrypted hseal 0 none).1,
    fun nowMs seed ↦ ?_⟩
  obtain ⟨receiver', hreceived, hmirrored, -⟩ := hreceive nowMs seed
  have hroom := h.symm.room frame nowMs seed
  rw [hreceived] at hroom
  refine ⟨receiver', hreceived, hmirrored, h.transmit_room hmessage.ne_error htransmit, ?_⟩
  have hnone : sentFrames (message.events.map SessionAction.emit) = [] := by simp [sentFrames]
  rw [hnone] at hroom
  have hbefore := h.pc_room
  simp only [List.length_nil] at hroom
  omega

/-- A request of the staged pull is served by what the ring has for it. -/
theorem InStep.asks {phone pc : Session} {room : ℕ} (h : phone.InStep pc (room + 2))
    (Clock : UInt64 → Prop) {stage : StageRing} {request answer : Message} {event event' : SessionEvent}
    (hrequest : request.Pulled) (hevent : request.events = [event])
    (hanswer : stage.answer event = some answer) (hpulled : answer.Pulled)
    (hevents : answer.events = [event']) : ∃ frame phone',
      phone.transmit request = (.ok frame, phone') ∧
        Awaited.RequestedBy ⟨phone', room, event', answer.ty, []⟩ Clock stage pc frame := by
  obtain ⟨frame, phone', htransmit, -, hreceive⟩ := (h.setPaused false).pulled hrequest
  refine ⟨frame, phone', htransmit, fun nowMs seed events _ ↦ ?_⟩
  obtain ⟨pc', hreceived, hstep⟩ := hreceive nowMs (some seed)
  rw [hreceived, hevent]
  exact .pulls hanswer hpulled hevents rfl rfl hstep

/-- A pushed clip is reported, and then acknowledged. -/
theorem InStep.pushes {phone pc : Session} {room : ℕ} (h : phone.InStep pc (room + 2))
    (Clock : UInt64 → Prop) (stage : StageRing) (clipId : Octets 8) (contentType : ContentType)
    {body : Bytes} (hbody : body.length ≤ maxTextClip) {sourceName : String}
    (hname : (utf8 sourceName).length ≤ 1024) (nowMs : UInt64) : ∃ frame phone',
      phone.transmit (.clipPush clipId contentType body sourceName nowMs) = (.ok frame, phone') ∧
        Awaited.RequestedBy ⟨phone', room, .clipAcked clipId 0, .clipAck,
          [.clipArrived contentType body sourceName]⟩ Clock stage pc frame := by
  have hmax : maxTextClip = 262144 := rfl
  have hadmissible : (Message.clipPush clipId contentType body sourceName nowMs).Admissible :=
    ⟨hbody, by omega⟩
  obtain ⟨plain, hplain, hlength⟩ := clipPushMap_length_le clipId contentType nowMs
    (by omega : body.length < 2 ^ 64) (by omega : (utf8 sourceName).length < 2 ^ 64)
  have hpayload : (Message.clipPush clipId contentType body sourceName nowMs).payload = .ok plain :=
    hplain
  obtain ⟨channel, -, hchannel, -⟩ := h.mirrored.channels
  have hphone : phone.Unexhausted := .of_txNext (by have := h.phone_room; omega)
  have hpc : pc.Unexhausted := .of_txNext (by have := h.pc_room; omega)
  obtain ⟨frame, phone', htransmit⟩ :=
    transmit_available hchannel (hphone channel hchannel) hpayload (by omega)
  refine ⟨frame, phone', htransmit, fun receivedMs seed events _ ↦ ?_⟩
  obtain ⟨hmirrored, ack, hactions, hty, hacked⟩ := (h.mirrored.setPaused false).deliver (fun _ ↦ hpc)
    hadmissible (fun _ ↦ rfl) htransmit receivedMs (some seed)
  have hroom := (h.setPaused false).symm.room frame receivedMs (some seed)
  have hphone_room := (h.mono (by omega : room + 1 ≤ room + 2)).transmit_room (by simp) htransmit
  rw [hactions] at hroom ⊢
  generalize ((pc.setPaused false).onFrame frame receivedMs (some seed)).1 = pc' at hmirrored hroom hacked
  refine .owes ?_ (by simp) le_rfl ⟨hty, fun ackMs ↦ ?_⟩ ?_
  · exact List.forall_mem_singleton.mpr (.clipArrived ..)
  · obtain ⟨hemits, hmirrored'⟩ := hacked ackMs none
    have hstep : phone'.InStep pc' room := by
      refine ⟨hmirrored, hphone_room, ?_⟩
      have hbefore := h.pc_room
      simp only [Message.events, List.map_cons, List.map_nil, List.cons_append, List.nil_append,
        sentFrames, List.filterMap_cons, List.filterMap_nil, List.length_cons, List.length_nil] at hroom
      change pc'.txNext ≤ pc.txNext + 1 at hroom
      omega
    have hlater := hstep.room ack ackMs none
    rw [hemits] at hlater
    refine ⟨_, Prod.ext rfl hemits, hmirrored', ?_, hstep.pc_room⟩
    have hbefore := hstep.phone_room
    change _ ≤ phone'.txNext + 0 at hlater
    exact (Nat.add_le_add_right hlater room).trans_lt hbefore
  · simp [Message.events, SessionAction.reports]

omit [AeadCorrect] [AeadAvailable] in
/-- A phone that the computer knows is greeted, and takes the acknowledgement. -/
theorem greets [X25519Commutes] (phone pc : IdentityKeypair) (helloSeed : Key32) {helloMs : UInt64}
    {Clock : UInt64 → Prop}
    (hclock : ∀ nowMs, Clock nowMs → |(helloMs.toNat : ℤ) - nowMs.toNat| ≤ 120000) (stage : StageRing)
    {room : ℕ} (hroom : room < 2 ^ 64) {session : Session} (hstate : session.state = .awaitingHello)
    (hidentity : session.identity = pc)
    (hknown : FirstKnown session.knownPeers phone.deviceId ⟨phone.deviceId, phone.publicBytes⟩) :
    Awaited.RequestedBy ⟨phoneOpened phone ⟨pc.deviceId, pc.publicBytes⟩ helloMs (.fromSeed helloSeed),
      room, .established pc.deviceId, .helloAck, []⟩ Clock stage session
      ⟨.hello, helloPayload (phone.dh pc.publicBytes) phone.deviceId
        (Keypair.fromSeed helloSeed).publicBytes helloMs⟩ := by
  intro nowMs ackSeed events hnow
  let phoneEph : EphemeralKeypair := .fromSeed helloSeed
  let pcEph : EphemeralKeypair := .fromSeed ackSeed
  let ssStatic := phone.dh pc.publicBytes
  let pcPeer : PeerKey := ⟨pc.deviceId, pc.publicBytes⟩
  let phonePeer : PeerKey := ⟨phone.deviceId, phone.publicBytes⟩
  let hello : HelloFields := ⟨1, phone.deviceId.bytes, phoneEph.publicBytes, helloMs,
    keyedMac ssStatic (helloBasis phone.deviceId phoneEph.publicBytes helloMs)⟩
  let noted : Session := { session.setPaused false with lastActivityMs := nowMs }
  have hstatic : pc.dh phone.publicBytes = ssStatic := Keypair.dh_comm pc phone
  have hstatic' : noted.identity.dh phonePeer.publicKey = ssStatic := by
    change session.identity.dh _ = _
    rw [hidentity, hstatic]
  have hgreet : noted.HelloAuthentic (helloPayload ssStatic phone.deviceId phoneEph.publicBytes helloMs)
      nowMs hello phonePeer (helloBasis phone.deviceId phoneEph.publicBytes helloMs) :=
    { fields := fromSlice_helloPayload ..
      version := rfl
      fresh := absDiff_le_iff.mpr (hclock nowMs hnow)
      known := find?_firstKnown.mpr hknown
      canonical := helloMacBasis_eq ..
      mac := congrArg (keyedMac · _) hstatic' }
  have hframe (frame : Frame) (hty : frame.ty = .hello) :
      (session.setPaused false).onFrame frame nowMs (some ackSeed) =
        noted.onHello frame nowMs (some ackSeed) := by
    have hstate' : (session.setPaused false).state = .awaitingHello := hstate
    unfold onFrame
    simp only [hstate', hty, reduceCtorEq, if_false]
    rfl
  rw [hframe _ rfl, onHello_authentic hgreet (rfl : Keypair.generate (some ackSeed) = .ok pcEph)
    (ackMap_toVec ..)]
  change Awaited.ServedBy _ stage events _
    ([] ++ .send ⟨.helloAck, _⟩ :: [.emit (.established phone.deviceId)])
  refine .owes (by simp) (List.forall_mem_singleton.mpr (.established _)) le_rfl ⟨rfl, fun ackMs ↦ ?_⟩
    (by simp)
  let opened := phoneOpened phone pcPeer helloMs phoneEph
  let noted' : Session := { opened with lastActivityMs := ackMs }
  have hauth : noted'.HelloAckAuthentic (helloAckPayload (noted.identity.dh phonePeer.publicKey)
      pcEph.publicBytes phoneEph.publicBytes) pcPeer phoneEph phoneEph.publicBytes pcEph.publicBytes := by
    obtain ⟨r, hslice, hread⟩ := fromSlice_helloAckPayload
      (noted.identity.dh phonePeer.publicKey) pcEph.publicBytes phoneEph.publicBytes
    rw [hstatic'] at hread
    exact ⟨rfl, rfl, rfl, r, hslice, hread⟩
  have hkeys : noted'.phoneKeys pcPeer phoneEph pcEph.publicBytes =
      noted.pcKeys hello phonePeer pcEph := by
    change sessionKeys (phoneEph.dh pcEph.publicBytes) (phone.dh pcEph.publicBytes) ssStatic
        phone.deviceId pc.deviceId =
      sessionKeys (pcEph.dh phoneEph.publicBytes) (pcEph.dh phone.publicBytes)
        (noted.identity.dh phonePeer.publicKey) phone.deviceId session.identity.deviceId
    rw [hstatic', hidentity, Keypair.dh_comm phoneEph, Keypair.dh_comm phone pcEph]
  refine ⟨noted'.acknowledged pcPeer phoneEph pcEph.publicBytes,
    onHelloAck_authentic hauth, ⟨rfl, rfl, _, _, rfl, rfl, ?_⟩, ?_, ?_⟩
  · rw [hkeys]
    exact ⟨AeadChannel.feeds_new .., AeadChannel.feeds_new ..⟩
  · change 0 + room < 2 ^ 64
    omega
  · change 0 + room < 2 ^ 64
    omega

end Session

/-! ## The loop -/

namespace SessionTask

variable [Ciborium]

/-- The loop reports an event and goes on. -/
theorem act_quiet {task : SessionTask} {action : SessionAction} {rest : List SessionAction}
    (hphase : task.phase = .acting (action :: rest)) (hquiet : action.Quiet) (stage : StageRing)
    (works : Bool) : ∃ task', task.step (.act stage works) = task' ∧ task'.session = task.session ∧
      task'.phase = .acting rest ∧ task'.events = task.events ++ action.reports ∧
      writtenFrames task'.trace = writtenFrames task.trace := by
  have hwritten (event : SessionEvent) : writtenFrames (task.trace ++ [.handled event]) =
      writtenFrames task.trace := by
    rw [writtenFrames, List.filterMap_append]
    exact List.append_nil _
  rw [step, hphase]
  cases hquiet with
  | established | clipArrived => exact ⟨_, rfl, rfl, rfl, rfl, hwritten _⟩

end SessionTask

variable [Ciborium] [Ciborium.Lawful] [AeadCorrect] [AeadAvailable]

/-- The loop that serves a request reports what is due, or writes the answer. -/
theorem Awaited.ServedBy.act {awaited : Awaited} {stage : StageRing} {events : List AgentEvent}
    {task : SessionTask} {actions : List SessionAction} (hphase : task.phase = .acting actions)
    (h : awaited.ServedBy stage events task.session actions) : ∃ task' rest reports,
      task.step (.act stage true) = task' ∧ rest.length < actions.length ∧ task'.phase = .acting rest ∧
      task'.events = task.events ++ reports ∧
      (writtenFrames task'.trace = writtenFrames task.trace ∧
          awaited.ServedBy stage (events ++ reports) task'.session rest ∨
        ∃ reply, writtenFrames task'.trace = writtenFrames task.trace ++ [reply] ∧
          (∀ action ∈ rest, action.Quiet) ∧ awaited.AnsweredBy task'.session reply ∧
          ∀ event ∈ awaited.due, event ∈ events ++ reports) := by
  cases h with
  | @owes before after reply hbefore hafter hlength hanswered hdue =>
    cases before with
    | nil =>
      refine ⟨_, after, [], rfl, Nat.lt_succ_self _, ?_⟩
      rw [SessionTask.step, hphase]
      refine ⟨rfl, (List.append_nil _).symm, .inr ⟨reply, ?_, hafter, hanswered, hdue⟩⟩
      exact List.filterMap_append ..
    | cons action before =>
      obtain ⟨hquiet, hbefore⟩ := List.forall_mem_cons.mp hbefore
      obtain ⟨task', hstep, hsession, hphase', hevents, hwritten⟩ :=
        task.act_quiet hphase hquiet stage true
      refine ⟨task', _, _, hstep, Nat.lt_succ_self _, hphase', hevents, .inl ⟨hwritten, ?_⟩⟩
      rw [hsession]
      refine .owes hbefore hafter ((Nat.add_le_add_right (Nat.le_succ _) _).trans hlength) hanswered ?_
      intro event hmem
      rw [List.append_assoc]
      exact hdue event hmem
  | @pulls event answer hanswer hpulled hevents hty hdue hstep =>
    obtain ⟨reply, pc', htransmit, hreply, hreceive⟩ := hstep.symm.pulled hpulled
    have hhandled := handleEvent_answer hanswer task.session task.connectedId
    rw [htransmit] at hhandled
    have hcarried : task.step (.act stage true) = (task.onEvent event stage []).write true reply := by
      rw [SessionTask.step, hphase]
      simp only [SessionTask.carryOut, hhandled, Except.map]
    refine ⟨_, [], [], hcarried, Nat.lt_succ_self _, rfl, ?_, .inr ⟨reply, ?_, by simp, ?_, ?_⟩⟩
    · change task.events ++ _ = _
      rw [hhandled]
    · change writtenFrames ((task.trace ++ [.handled event]) ++ [.wrote reply]) = _
      simp [writtenFrames]
    · have hsession : ((task.onEvent event stage []).write true reply).session = pc' := by
        change (handleEvent event task.session stage task.connectedId).session = pc'
        rw [hhandled]
      rw [hsession]
      refine ⟨hreply.trans hty, fun nowMs ↦ ?_⟩
      obtain ⟨phone', hreceived, hlater⟩ := hreceive nowMs none
      rw [hevents, List.map_singleton] at hreceived
      exact ⟨phone', hreceived, hlater.symm⟩
    · simp [hdue]

end Conversation

end AirClip
