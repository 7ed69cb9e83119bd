import AirClip.Agent.SessionServer
import AirClip.Traffic.ClipFrames

/-!
# The two parties of a beam

The invariants of the phone and of the loop of the computer, each kept by its own steps whatever the
network hands over.  The CLIP_PUSHes the phone has sealed are its pushes.  The clips that arrive at the
loop are clips it has accepted, and no CLIP_ACK is written before the arrival of its clip is emitted.
-/

open Foundation Cbor

namespace AirClip

section Parties

variable [Primitives]

/-! ## One call on an endpoint -/

/-- The endpoint transmits and receives with these keys, and its past is accounted for. -/
structure Endpoint.Keyed (txKey rxKey : Key32) (endpoint : Endpoint) : Prop where
  accounted : endpoint.Accounted
  begun : endpoint.session.Begun
  channel : ∃ channel, endpoint.session.channel = some channel ∧ channel.tx.key = txKey ∧
    channel.rx.key = rxKey

/-- An endpoint with a fresh channel. -/
theorem Endpoint.Keyed.opening {session : Session} {txKey rxKey : Key32} (hbegun : session.Begun)
    (hchannel : session.channel = some (.new txKey rxKey)) :
    (Endpoint.opening session []).Keyed txKey rxKey where
  accounted := by
    have hcoherent : session.Coherent :=
      hbegun.elim (Session.coherent_of_established · hchannel) Session.coherent_of_closed
    refine ⟨hcoherent, ?_⟩
    rw [Endpoint.opening, hchannel]
    exact ⟨[], .nil, rfl, rfl⟩
  begun := hbegun
  channel := ⟨_, hchannel, rfl, rfl⟩

variable [Ciborium]

omit [Ciborium] in
theorem Endpoint.Keyed.session {txKey rxKey : Key32} {endpoint : Endpoint}
    (h : endpoint.Keyed txKey rxKey) : endpoint.session.Keyed txKey rxKey := ⟨h.begun, h.channel⟩

theorem Endpoint.Keyed.call {txKey rxKey : Key32} {endpoint : Endpoint}
    (h : endpoint.Keyed txKey rxKey) (call : Session.Call) :
    (endpoint.call call).Keyed txKey rxKey where
  accounted := h.accounted.call call
  begun := (h.session.perform call).begun
  channel := (h.session.perform call).channel

theorem Endpoint.call_accepted {endpoint : Endpoint} {call : Session.Call}
    (h : call.IsOutbound) : (endpoint.call call).accepted = endpoint.accepted := by
  cases call with
  | onFrame frame nowMs seed => exact absurd rfl (h frame nowMs seed)
  | _ => exact List.append_nil _

/-- The pause flag is set and a frame received, as in one round of the loop. -/
theorem Endpoint.call_round (endpoint : Endpoint) (arrival : Session.Arrival) :
    let later := (endpoint.call (.setPaused arrival.paused)).call
      (.onFrame arrival.frame arrival.nowMs arrival.seed)
    later.session = (endpoint.session.receive arrival).1 ∧
      later.sent = endpoint.sent ++ sentFrames (endpoint.session.receive arrival).2 ∧
      later.accepted = endpoint.accepted ++ (endpoint.session.setPaused arrival.paused).accepts
        (.onFrame arrival.frame arrival.nowMs arrival.seed) := by
  have hsent : (endpoint.call (.setPaused arrival.paused)).sent = endpoint.sent :=
    List.append_nil _
  have haccepted := endpoint.call_accepted
    (by simp [Session.Call.IsOutbound] : (Session.Call.setPaused arrival.paused).IsOutbound)
  exact ⟨rfl, congrArg (· ++ _) hsent, congrArg (· ++ _) haccepted⟩

/-! ## The phone -/

/-- The clips in what the phone has sealed are those it has pushed, in order. -/
structure Phone.Inv (p2c c2p : Key32) (phone : Phone) : Prop where
  keyed : phone.endpoint.Keyed p2c c2p
  pushed : (ciphertexts phone.endpoint.sent).filterMap (pushUnder p2c) = phone.pushed
  waiting : ∀ clip, phone.waiting = some clip → clip ∈ phone.pushed

namespace Phone.Inv

variable {p2c c2p : Key32} {phone : Phone}

/-- Where the beam stands makes no difference to what has been pushed. -/
theorem follow (h : phone.Inv p2c c2p) {clip : BeamedClip} (hclip : clip ∈ phone.pushed)
    (exchange : Exchange (Octets 8)) : (phone.follow clip exchange).Inv p2c c2p where
  keyed := h.keyed
  pushed := h.pushed
  waiting := by
    intro other hwaiting
    change (if exchange.result.isNone then some clip else none) = some other at hwaiting
    split_ifs at hwaiting
    cases hwaiting
    exact hclip

/-- A call that returns no CLIP_PUSH. -/
theorem unpushed (h : phone.Inv p2c c2p) (call : Session.Call)
    (hty : ∀ frame ∈ (phone.endpoint.session.perform call).2, frame.ty ≠ .clipPush)
    {waiting : Option BeamedClip} (hwaiting : ∀ clip, waiting = some clip → clip ∈ phone.pushed) :
    Phone.Inv p2c c2p { phone with endpoint := phone.endpoint.call call, waiting } where
  keyed := h.keyed.call call
  pushed := by
    have hnone : (ciphertexts (phone.endpoint.session.perform call).2).filterMap (pushUnder p2c) =
        [] := by
      apply List.filterMap_eq_nil_iff.mpr
      intro frame hmem
      rw [pushUnder, if_neg (hty frame (List.mem_of_mem_filter hmem))]
    change (ciphertexts (phone.endpoint.sent ++ _)).filterMap _ = phone.pushed
    rw [ciphertexts_append, List.filterMap_append, h.pushed, hnone, List.append_nil]
  waiting := hwaiting

variable [Ciborium.Lawful] [AeadCorrect]

theorem beam (h : phone.Inv p2c c2p) (contentType : ContentType) (body : Bytes) {sourceName : String}
    (nowMs : UInt64) (randomId : Option (Octets 8)) (sent : Except String Unit)
    (hname : (utf8 sourceName).length < 2 ^ 64) :
    (phone.beam contentType body sourceName nowMs randomId sent).Inv p2c c2p := by
  obtain ⟨channel, hchannel, hkey, -⟩ := h.keyed.channel
  have hnowhere : Phone.Inv p2c c2p { phone with waiting := none } := ⟨h.keyed, h.pushed, by simp⟩
  have hlater := h.keyed.call (.pushClip contentType body sourceName nowMs randomId)
  unfold Phone.beam Connection.beamRequest
  split_ifs with hlarge
  · exact hnowhere
  generalize hcall : phone.endpoint.call (.pushClip contentType body sourceName nowMs randomId) =
    later at hlater
  have hsent : later.sent = phone.endpoint.sent ++ (phone.endpoint.session.perform
      (.pushClip contentType body sourceName nowMs randomId)).2 := by rw [← hcall, Endpoint.call]
  rw [Session.perform] at hsent
  generalize hpush : phone.endpoint.session.pushClip contentType body sourceName nowMs randomId =
    result at hsent
  obtain ⟨failure | ⟨frame, clipId⟩, session⟩ := result
  · exact hnowhere
  obtain ⟨hty, hreads⟩ := Session.pushClip_reads hchannel hname hpush
  rw [hkey] at hreads
  refine follow ⟨hlater, ?_, ?_⟩ (List.mem_append_right _ (List.mem_singleton_self _)) _
  · have hcipher : ciphertexts [frame] = [frame] := by
      simp [ciphertexts, hty, FrameType.isEncrypted, FrameType.toUInt8]
    rw [hsent]
    change (ciphertexts (phone.endpoint.sent ++ [frame])).filterMap _ = _
    rw [ciphertexts_append, List.filterMap_append, h.pushed, hcipher,
      List.filterMap_cons_some hreads, List.filterMap_nil]
  · exact fun clip hwaiting ↦ List.mem_append_left _ (h.waiting clip hwaiting)

omit [Ciborium.Lawful] [AeadCorrect] in
theorem reply (h : phone.Inv p2c c2p) (reply : Except ClientError Frame) (nowMs : UInt64) :
    (phone.reply reply nowMs).Inv p2c c2p := by
  unfold Phone.reply
  split
  · exact h
  next clip hwaiting =>
  have hclip := h.waiting clip hwaiting
  cases reply with
  | error failure => exact h.follow hclip _
  | ok frame =>
    exact (h.unpushed (.onFrame frame nowMs none)
      (Session.onFrame_reply_ty h.keyed.accounted.coherent frame nowMs none) h.waiting).follow hclip _

/-- The phone keeps its invariant whatever it does. -/
theorem step (h : phone.Inv p2c c2p) {input : PhoneInput}
    (hname : ∀ contentType body sourceName nowMs randomId sent,
      input = .beam contentType body sourceName nowMs randomId sent →
        (utf8 sourceName).length < 2 ^ 64) : (phone.step input).Inv p2c c2p := by
  have hmap (ty : FrameType) (hty : ty ≠ .clipPush) (builder : MapBuilder) :
      ∀ frame ∈ (Session.returned (phone.endpoint.session.sealMap ty builder)).2,
        frame.ty ≠ .clipPush :=
    fun frame hmem ↦ Session.sealMap_ty _ _ _ frame hmem ▸ hty
  cases input with
  | beam contentType body sourceName nowMs randomId sent =>
    exact h.beam contentType body nowMs randomId sent (hname _ _ _ _ _ _ rfl)
  | reply reply nowMs => exact h.reply reply nowMs
  | requestStageList => exact h.unpushed .requestStageList (hmap .stageListReq (by simp) _) (by simp)
  | requestStageItem stageId =>
    exact h.unpushed (.requestStageItem stageId) (hmap .stageGet (by simp) _) (by simp)
  | handle frame nowMs =>
    exact h.unpushed (.onFrame frame nowMs none)
      (Session.onFrame_reply_ty h.keyed.accounted.coherent frame nowMs none) (by simp)

end Phone.Inv

/-! ## The loop of the computer -/

namespace SessionTask

/-- The loop goes on without a new round: what it has emitted and has still to emit was to be emitted
before, and a clip whose arrival comes before its CLIP_ACK has been emitted now. -/
structure Carries (task later : SessionTask) : Prop where
  arrived : (handledArrivals later.trace ++ arrivals later.pending).Sublist
    (handledArrivals task.trace ++ arrivals task.pending)
  kept : ∀ clip frame, clip ∈ handledArrivals task.trace ∨
    task.phase = .acting [.emit clip.event, .send frame] → clip ∈ handledArrivals later.trace
  events : ∃ clips, handledArrivals later.trace = handledArrivals task.trace ++ clips ∧
    agentArrivals later.events = agentArrivals task.events ++
      clips.map fun clip ↦ (clip.contentType, clip.body, clip.sourceName)

omit [Ciborium] in
/-- An entry that is no arrival, and events that are none. -/
theorem Carries.noted {task middle later : SessionTask} (h : task.Carries middle)
    (entry : DriverEntry) (hentry : handledArrivals [entry] = [])
    (htrace : later.trace = middle.trace ++ [entry]) {events : List AgentEvent}
    (hevents : later.events = middle.events ++ events) (hnone : agentArrivals events = [])
    (hpending : (arrivals later.pending).Sublist (arrivals middle.pending)) :
    task.Carries later := by
  have hsame : handledArrivals later.trace = handledArrivals middle.trace := by
    rw [htrace, handledArrivals_append, hentry, List.append_nil]
  refine ⟨?_, fun clip frame hclip ↦ ?_, ?_⟩
  · rw [hsame]
    calc
      List.Sublist _ (handledArrivals middle.trace ++ arrivals middle.pending) :=
        hpending.append_left _
      List.Sublist _ (handledArrivals task.trace ++ arrivals task.pending) := h.arrived
  · rw [hsame]
    exact h.kept clip frame hclip
  · obtain ⟨clips, hclips, hagent⟩ := h.events
    exact ⟨clips, hsame.trans hclips, by
      rw [hevents, agentArrivals_append, hnone, List.append_nil, hagent]⟩

omit [Ciborium] in
theorem Carries.note {task later : SessionTask} (h : task.Carries later) {entry : DriverEntry}
    (hentry : handledArrivals [entry] = []) : task.Carries (later.note entry) :=
  h.noted entry hentry rfl (List.append_nil _).symm rfl (List.Sublist.refl _)

omit [Ciborium] in
theorem Carries.leave {task later : SessionTask} (h : task.Carries later) (ok : Bool) :
    task.Carries (later.leave ok) :=
  h.noted .returned rfl rfl (List.append_nil _).symm rfl (List.nil_sublist _)

omit [Ciborium] in
theorem Carries.disconnect {task later : SessionTask} (h : task.Carries later) :
    task.Carries later.disconnect := by
  refine h.noted .returned rfl rfl rfl ?_ (List.nil_sublist _)
  cases later.connectedId <;> rfl

omit [Ciborium] in
/-- Nothing emitted, and no clip before its CLIP_ACK. -/
theorem Carries.silent {task later : SessionTask}
    (hphase : ∀ clip : BeamedClip, ∀ frame, task.phase ≠ .acting [.emit clip.event, .send frame])
    (htrace : later.trace = task.trace) (hevents : later.events = task.events)
    (hpending : arrivals later.pending = arrivals task.pending) : task.Carries later where
  arrived := by rw [htrace, hpending]
  kept clip frame hclip := htrace ▸ hclip.resolve_right (hphase clip frame)
  events := ⟨[], by rw [htrace, List.append_nil], by rw [hevents, List.map_nil, List.append_nil]⟩

variable {task : SessionTask}

/-- An event is emitted to the agent as the arrival of its clip, if it is one. -/
theorem agentArrivals_handleEvent (event : SessionEvent) (session : Session) (stage : StageRing)
    (connectedId : Option String) :
    agentArrivals (handleEvent event session stage connectedId).events =
      event.arrival.toList.map fun clip ↦ (clip.contentType, clip.body, clip.sourceName) := by
  cases event <;> rfl

theorem carries_onEvent {event : SessionEvent} {rest : List SessionAction}
    (hphase : task.phase = .acting (.emit event :: rest)) (stage : StageRing) :
    task.Carries (task.onEvent event stage rest) := by
  have htrace : handledArrivals (task.onEvent event stage rest).trace =
      handledArrivals task.trace ++ event.arrival.toList := by
    change handledArrivals (task.trace ++ [.handled event]) = _
    rw [handledArrivals_append]
    cases event <;> rfl
  have hpending : arrivals task.pending = event.arrival.toList ++ arrivals rest := by
    rw [pending, hphase]
    cases event <;> rfl
  refine ⟨?_, fun clip frame hclip ↦ ?_, event.arrival.toList, htrace, ?_⟩
  · rw [htrace, hpending, List.append_assoc]
    exact List.Sublist.refl _
  · rw [htrace]
    refine hclip.elim (List.mem_append_left _) fun hnext ↦ List.mem_append_right _ ?_
    rw [hphase] at hnext
    cases hnext
    exact List.mem_singleton_self _
  · change agentArrivals (task.events ++ _) = _
    rw [agentArrivals_append, agentArrivals_handleEvent]

theorem carries_carryOut {action : SessionAction} {rest : List SessionAction}
    (hphase : task.phase = .acting (action :: rest)) (stage : StageRing) (works : Bool) :
    task.Carries (task.carryOut stage works rest action) := by
  cases action with
  | send frame =>
    have hsent : task.Carries { task with phase := .acting rest } :=
      .silent (by simp [hphase]) rfl rfl (by rw [pending, pending, hphase]; rfl)
    cases works
    · exact hsent.leave false
    · exact hsent.note rfl
  | emit event =>
    have hhandled := carries_onEvent hphase stage
    rw [carryOut]
    split
    · exact hhandled.leave false
    · exact hhandled
    · cases works
      · exact hhandled.leave false
      · exact hhandled.note rfl
  | close why =>
    have hsame : task.Carries task := .silent (by simp [hphase]) rfl rfl rfl
    exact (hsame.note rfl).disconnect

omit [Ciborium] in
theorem carries_next (hphase : task.phase = .acting []) (inbound : Inbound) :
    task.Carries (task.next inbound) := by
  have hsame : task.Carries task := .silent (by simp [hphase]) rfl rfl rfl
  cases inbound with
  | frame frame =>
    exact hsame.noted .receiving rfl rfl (List.append_nil _).symm rfl (List.nil_sublist _)
  | failed => exact (hsame.note rfl).leave false
  | ended => exact (hsame.note rfl).disconnect

/-- The answer to an event is made by one call of the session. -/
theorem handleEvent_call (event : SessionEvent) (session : Session) (stage : StageRing)
    (connectedId : Option String) : (handleEvent event session stage connectedId).session =
      ((answerCall stage event).toList.foldl (fun session call ↦
        (session.perform call).1) session) := by
  have hreturned (result : Except Error Frame × Session) : (Session.returned result).1 = result.2 := by
    obtain ⟨failure | frame, later⟩ := result <;> rfl
  cases event with
  | stageListRequested => exact (hreturned _).symm
  | stageItemRequested stageId =>
    unfold handleEvent answerCall
    dsimp only
    cases stage.get stageId <;> exact (hreturned _).symm
  | established | clipArrived | clipAcked | stageList | stageItem | peerError => rfl

/-- It is no CLIP_ACK. -/
theorem answerCall_ty {stage : StageRing} {event : SessionEvent} {call : Session.Call}
    (h : answerCall stage event = some call) (session : Session) :
    call.IsOutbound ∧ ∀ frame ∈ (session.perform call).2, frame.ty ≠ .clipAck := by
  have hmap (ty : FrameType) (hty : ty ≠ .clipAck) (builder : MapBuilder) :
      ∀ frame ∈ (Session.returned (session.sealMap ty builder)).2, frame.ty ≠ .clipAck :=
    fun frame hmem ↦ Session.sealMap_ty _ _ _ frame hmem ▸ hty
  cases event with
  | stageListRequested =>
    cases h
    exact ⟨by simp [Session.Call.IsOutbound], hmap .stageList (by simp) _⟩
  | stageItemRequested stageId =>
    unfold answerCall at h
    dsimp only at h
    cases hget : stage.get stageId <;> rw [hget] at h <;> cases h
    · exact ⟨by simp [Session.Call.IsOutbound], hmap .stageList (by simp) _⟩
    · exact ⟨by simp [Session.Call.IsOutbound], hmap .stageItem (by simp) _⟩
  | established | clipArrived | clipAcked | stageList | stageItem | peerError => cases h

end SessionTask

/-- The clips that arrive are clips that have been accepted.  Those emitted to the agent come first,
and a clip with a CLIP_ACK has been emitted, or is about to be before the CLIP_ACK is written. -/
structure Computer.Inv (p2c c2p : Key32) (computer : Computer) : Prop where
  session : computer.endpoint.session = computer.task.session
  keyed : computer.endpoint.Keyed c2p p2c
  accepted : (computer.rounds.flatMap fun round ↦ arrivals round.2).Sublist
    ((computer.endpoint.accepted.map Prod.fst).filterMap (pushUnder p2c))
  arrived : (computer.arrived ++ arrivals computer.task.pending).Sublist
    (computer.rounds.flatMap fun round ↦ arrivals round.2)
  acked : ∀ frame ∈ computer.endpoint.sent, frame.ty = .clipAck →
    ∃ clip : BeamedClip, readAck c2p frame = some (clip.clipId, 0) ∧
      (clip ∈ computer.arrived ∨ computer.task.phase = .acting [.emit clip.event, .send frame])
  paused : ∀ round ∈ computer.rounds, round.1 = true → arrivals round.2 = []
  events : agentArrivals computer.task.events =
    computer.arrived.map fun clip ↦ (clip.contentType, clip.body, clip.sourceName)

namespace Computer.Inv

variable {p2c c2p : Key32} {computer : Computer}

/-- The loop goes on without a new round, and without a CLIP_ACK. -/
theorem carry (h : computer.Inv p2c c2p) {task : SessionTask} (hcarries : computer.task.Carries task)
    {endpoint : Endpoint} (hsession : endpoint.session = task.session)
    (hkeyed : endpoint.Keyed c2p p2c) (haccepted : endpoint.accepted = computer.endpoint.accepted)
    (hsent : ∀ frame ∈ endpoint.sent, frame.ty = .clipAck → frame ∈ computer.endpoint.sent) :
    Computer.Inv p2c c2p ⟨endpoint, task, computer.rounds⟩ where
  session := hsession
  keyed := hkeyed
  accepted := haccepted ▸ h.accepted
  arrived := hcarries.arrived.trans h.arrived
  acked := by
    intro frame hmem hty
    obtain ⟨clip, hread, hclip⟩ := h.acked frame (hsent frame hmem hty) hty
    exact ⟨clip, hread, .inl (hcarries.kept clip frame hclip)⟩
  paused := h.paused
  events := by
    obtain ⟨clips, hclips, hagent⟩ := hcarries.events
    change agentArrivals task.events = (handledArrivals task.trace).map _
    rw [hagent, h.events, Computer.arrived, hclips, List.map_append]

/-- A step that makes no call on the session. -/
theorem carry_same (h : computer.Inv p2c c2p) {task : SessionTask}
    (hcarries : computer.task.Carries task) (hsession : task.session = computer.task.session) :
    Computer.Inv p2c c2p ⟨computer.endpoint, task, computer.rounds⟩ :=
  h.carry hcarries (h.session.trans hsession.symm) h.keyed rfl fun _ hmem _ ↦ hmem

variable [Ciborium.Lawful] [AeadCorrect]

/-- A round begins: the clip that arrives has been accepted in it. -/
theorem onFrame (h : computer.Inv p2c c2p) {frame : Frame}
    (hphase : computer.task.phase = .received frame) (paused : Bool) (nowMs : UInt64)
    (seed : Option Key32) : (computer.step (.onFrame paused nowMs seed)).Inv p2c c2p := by
  let arrival : Session.Arrival := ⟨paused, frame, nowMs, seed⟩
  let received := computer.task.session.receive arrival
  let endpoint := (computer.endpoint.call (.setPaused paused)).call (.onFrame frame nowMs seed)
  have hstep : computer.step (.onFrame paused nowMs seed) = ⟨endpoint,
      computer.task.onFrame frame paused nowMs seed, computer.rounds ++ [(paused, received.2)]⟩ := by
    simp only [step, SessionTask.calls, SessionTask.step, SessionTask.round, hphase]
    rfl
  have hpending : arrivals computer.task.pending = [] := by rw [SessionTask.pending, hphase]; rfl
  have htrace : handledArrivals (computer.task.trace ++ [.batch received.2]) = computer.arrived := by
    rw [handledArrivals_append]
    exact List.append_nil _
  have hrounds : ((computer.rounds ++ [(paused, received.2)]).flatMap fun round ↦ arrivals round.2) =
      (computer.rounds.flatMap fun round ↦ arrivals round.2) ++ arrivals received.2 := by
    rw [List.flatMap_append, List.flatMap_singleton]
  obtain ⟨hsession, hsent, haccepted⟩ := computer.endpoint.call_round arrival
  have hpausedSession : (computer.endpoint.call (.setPaused paused)).session =
      computer.task.session.setPaused paused := congrArg (·.setPaused paused) h.session
  rw [h.session] at hsession hsent haccepted
  have hkeyed := h.keyed.call (.setPaused paused)
  have htransmits : computer.task.session.Transmits c2p := h.session ▸ h.keyed.session.transmits
  obtain ⟨hclip, hacked, hpaused⟩ := Session.receive_clip htransmits arrival
    fun plain hopens ↦ hkeyed.session.plainUnder (by rw [hpausedSession]; exact hopens)
  rw [hstep]
  exact {
    session := hsession
    keyed := hkeyed.call _
    accepted := by
      rw [hrounds, haccepted, List.map_append, List.filterMap_append]
      exact h.accepted.append hclip
    arrived := by
      have harrived := h.arrived
      rw [hpending, List.append_nil] at harrived
      rw [hrounds]
      exact (htrace ▸ harrived).append (List.Sublist.refl _)
    acked := by
      intro ack hmem hty
      rw [hsent] at hmem
      obtain hearlier | hnew := List.mem_append.mp hmem
      · obtain ⟨clip, hread, hclip⟩ := h.acked ack hearlier hty
        have hemitted := hclip.resolve_right (by simp [hphase])
        rw [← htrace] at hemitted
        exact ⟨clip, hread, .inl hemitted⟩
      · obtain ⟨clip, hread, hactions⟩ := hacked ack hnew hty
        exact ⟨clip, hread, .inr (congrArg SessionPhase.acting hactions)⟩
    paused := by
      intro round hmem
      obtain hearlier | hnew := List.mem_append.mp hmem
      · exact h.paused round hearlier
      · cases List.mem_singleton.mp hnew
        exact hpaused
    events := h.events.trans (congrArg (List.map _) htrace.symm) }

omit [Ciborium.Lawful] [AeadCorrect] in
/-- One action is carried out. -/
theorem act (h : computer.Inv p2c c2p) {action : SessionAction} {rest : List SessionAction}
    (hphase : computer.task.phase = .acting (action :: rest)) (stage : StageRing) (works : Bool) :
    (computer.step (.act stage works)).Inv p2c c2p := by
  have hcarries := SessionTask.carries_carryOut hphase stage works
  have hstep (calls : List Session.Call) (hcalls : computer.task.calls (.act stage works) = calls) :
      computer.step (.act stage works) = ⟨calls.foldl Endpoint.call computer.endpoint,
        computer.task.carryOut stage works rest action, computer.rounds⟩ := by
    simp only [step, hcalls, SessionTask.step, SessionTask.round, hphase]
    exact congrArg _ (List.append_nil _)
  cases action with
  | send frame | close why =>
    rw [hstep [] (by simp only [SessionTask.calls, hphase])]
    refine h.carry_same hcarries ?_
    cases works <;> rfl
  | emit event =>
    have hsession : (computer.task.carryOut stage works rest (.emit event)).session =
        (handleEvent event computer.task.session stage computer.task.connectedId).session := by
      rw [SessionTask.carryOut]
      split
      · rfl
      · rfl
      · cases works <;> rfl
    rw [SessionTask.handleEvent_call, ← h.session] at hsession
    rw [hstep (SessionTask.answerCall stage event).toList (by simp only [SessionTask.calls, hphase])]
    rcases hcall : SessionTask.answerCall stage event with - | call
    · rw [hcall] at hsession
      exact h.carry hcarries hsession.symm h.keyed rfl fun _ hmem _ ↦ hmem
    · rw [hcall] at hsession
      obtain ⟨houtbound, hty⟩ := SessionTask.answerCall_ty hcall computer.endpoint.session
      refine h.carry hcarries hsession.symm (h.keyed.call call) (Endpoint.call_accepted houtbound)
        fun frame hmem hack ↦ ?_
      obtain hearlier | hnew := List.mem_append.mp hmem
      · exact hearlier
      · exact absurd hack (hty frame hnew)

/-- The loop keeps its invariant in every step. -/
theorem step (h : computer.Inv p2c c2p) (input : SessionTask.Input) :
    (computer.step input).Inv p2c c2p := by
  have hstill (hcalls : computer.task.calls input = []) (hround : computer.task.round input = none)
      (hstep : computer.task.step input = computer.task) : (computer.step input).Inv p2c c2p := by
    have hsame : computer.step input = computer := by
      rw [Computer.step, hcalls, hround, hstep]
      exact congrArg (Computer.mk _ _) (List.append_nil _)
    rwa [hsame]
  cases input with
  | onFrame paused nowMs seed =>
    rcases hphase : computer.task.phase with frame | actions | ok
    · exact h.onFrame hphase paused nowMs seed
    · exact hstill (by simp only [SessionTask.calls, hphase])
        (by simp only [SessionTask.round, hphase]) (by simp only [SessionTask.step, hphase])
    · exact hstill (by simp only [SessionTask.calls, hphase])
        (by simp only [SessionTask.round, hphase]) (by simp only [SessionTask.step, hphase])
  | act stage works =>
    rcases hphase : computer.task.phase with frame | (- | ⟨action, rest⟩) | ok
    · exact hstill (by simp only [SessionTask.calls, hphase]) rfl
        (by simp only [SessionTask.step, hphase])
    · exact hstill (by simp only [SessionTask.calls, hphase]) rfl
        (by simp only [SessionTask.step, hphase])
    · exact h.act hphase stage works
    · exact hstill (by simp only [SessionTask.calls, hphase]) rfl
        (by simp only [SessionTask.step, hphase])
  | next inbound =>
    rcases hphase : computer.task.phase with frame | (- | ⟨action, rest⟩) | ok
    · exact hstill rfl rfl (by simp only [SessionTask.step, hphase])
    · have hstep : computer.step (.next inbound) =
          ⟨computer.endpoint, computer.task.next inbound, computer.rounds⟩ := by
        simp only [Computer.step, SessionTask.calls, SessionTask.step, SessionTask.round, hphase]
        exact congrArg _ (List.append_nil _)
      rw [hstep]
      refine h.carry_same (SessionTask.carries_next hphase inbound) ?_
      cases inbound <;> rfl
    · exact hstill rfl rfl (by simp only [SessionTask.step, hphase])
    · exact hstill rfl rfl (by simp only [SessionTask.step, hphase])

end Computer.Inv

end Parties

end AirClip
