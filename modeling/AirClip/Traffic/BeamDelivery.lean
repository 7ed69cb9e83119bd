import AirClip.Agent.ConnectionStatus
import AirClip.Traffic.BeamParties

/-!
# Delivery of beams

The clips that arrive at the computer are a subsequence of those the phone has pushed: one direction of
the session is a lossy ordered channel, and a round of the loop makes at most the clip arrive that it
has accepted.  A CLIP_ACK leaves the computer only after the arrival of its clip has been emitted, so a
beam that returns with success has been delivered.
-/

open Foundation Cbor

namespace AirClip

section Delivery

variable [Primitives] [Ciborium]

/-! ## Both sides -/

/-- A step of the loop only adds to its trace. -/
theorem SessionTask.trace_prefix (task : SessionTask) (input : Input) :
    task.trace <+: (task.step input).trace := by
  have hstep := task.step_cases input
  generalize task.step input = later at hstep
  cases hstep with
  | still => exact List.prefix_refl _
  | called | sent | handled | received | unsent => exact List.prefix_append _ _
  | answered | closed | ended | failed | unbuilt | unanswered =>
    exact (List.prefix_append _ [_]).trans (List.prefix_append _ [_])

theorem Computer.arrived_subset (computer : Computer) (input : SessionTask.Input) :
    computer.arrived ⊆ (computer.step input).arrived := by
  obtain ⟨later, hlater⟩ := computer.task.trace_prefix input
  rw [arrived, arrived, Computer.step, ← hlater, handledArrivals_append]
  exact List.subset_append_left _ _

/-- A step of the phone is a call on its session, or none. -/
theorem Phone.step_endpoint (phone : Phone) (input : PhoneInput) :
    (phone.step input).endpoint = phone.endpoint ∨
      ∃ call, (phone.step input).endpoint = phone.endpoint.call call := by
  cases input with
  | beam =>
    rw [step, beam]
    split
    · exact .inl rfl
    · exact .inr ⟨_, rfl⟩
  | reply reply nowMs =>
    rw [step, Phone.reply]
    split
    · exact .inl rfl
    · cases reply with
      | error => exact .inl rfl
      | ok frame => exact .inr ⟨.onFrame frame nowMs none, rfl⟩
  | requestStageList | requestStageItem | handle => exact .inr ⟨_, rfl⟩

/-- A beam does not succeed before it waits. -/
theorem Phone.beam_returned (phone : Phone) (contentType : ContentType) (body : Bytes)
    (sourceName : String) (nowMs : UInt64) (randomId : Option (Octets 8))
    (sent : Except String Unit) {clip : BeamedClip} {id : Octets 8} (hmem : (clip, .ok id) ∈
      (phone.beam contentType body sourceName nowMs randomId sent).returned) :
    (clip, .ok id) ∈ phone.returned ∧ phone.pushed ⊆
      (phone.beam contentType body sourceName nowMs randomId sent).pushed := by
  unfold Phone.beam Connection.beamRequest at hmem ⊢
  split_ifs at hmem ⊢
  · exact ⟨hmem, List.Subset.refl _⟩
  generalize phone.endpoint.session.pushClip contentType body sourceName nowMs randomId = result
    at hmem ⊢
  obtain ⟨failure | ⟨frame, clipId⟩, session⟩ := result
  · exact ⟨hmem, List.Subset.refl _⟩
  refine ⟨?_, List.subset_append_left _ _⟩
  obtain hearlier | hnew := List.mem_append.mp hmem
  · exact hearlier
  · cases sent <;> simp [Exchange.request, Exchange.failed] at hnew

/-- A call that accepts nothing keeps the link. -/
theorem Link.outbound [AeadCorrect] {sender receiver : Endpoint} (h : Link sender receiver)
    (haccounted : receiver.Accounted) {call : Session.Call} (hcall : call.IsOutbound) :
    Link sender (receiver.call call) := by
  apply h.receiver_call haccounted call
  intro item hitem
  cases call with
  | onFrame frame nowMs seed => exact absurd rfl (hcall frame nowMs seed)
  | _ => cases hitem

omit [Primitives] [Ciborium] in
/-- Among clips with distinct ids, the id picks out the clip. -/
theorem BeamedClip.filter_clipId {clips : List BeamedClip} (hids : (clips.map BeamedClip.clipId).Nodup)
    {clip : BeamedClip} (hmem : clip ∈ clips) :
    clips.filter (fun other ↦ other.clipId = clip.clipId) = [clip] := by
  have hfilter : clips.filter (fun other ↦ other.clipId = clip.clipId) =
      clips.filter (fun other ↦ other = clip) := by
    refine List.filter_congr fun other hother ↦ decide_eq_decide.mpr ⟨fun hid ↦ ?_, congrArg _⟩
    exact List.inj_on_of_nodup_map hids hother hmem hid
  rw [hfilter, List.filter_eq, List.count_eq_one_of_mem (hids.of_map _) hmem]
  rfl

namespace BeamWorld

/-- Both sides keep their invariants, the loop accepts from the phone as a lossy channel delivers, and a
beam that has succeeded has been delivered. -/
structure Inv (p2c c2p : Key32) (world : BeamWorld) : Prop where
  phone : world.phone.Inv p2c c2p
  computer : world.computer.Inv p2c c2p
  link : Link world.phone.endpoint world.computer.endpoint
  returned : ∀ clip id, (clip, .ok id) ∈ world.phone.returned → id = clip.clipId ∧
    clip ∈ world.phone.pushed ∧ ∃ other ∈ world.computer.arrived, other.clipId = clip.clipId

variable {p2c c2p : Key32} {world : BeamWorld}

theorem Inv.start {phone : Session} {task : SessionTask} (h : Joined phone task) :
    ∃ p2c c2p, (start phone task).Inv p2c c2p := by
  obtain ⟨p2c, c2p, hphone, htask⟩ := h.channels
  have hkeyed := Endpoint.Keyed.opening h.phone_begun hphone
  have hpc := Endpoint.Keyed.opening h.task_begun htask
  have hunread : (Endpoint.opening task.session []).Unread := by
    refine ⟨rfl, fun channel hchannel ↦ ?_⟩
    cases htask.symm.trans hchannel
    rfl
  refine ⟨p2c, c2p, ⟨hkeyed, rfl, fun _ hwaiting ↦ by cases hwaiting⟩, ?_,
    Link.start hkeyed.accounted hunread hphone htask rfl, fun _ _ hmem ↦ by cases hmem⟩
  exact {
    session := rfl
    keyed := hpc
    accepted := List.Sublist.refl _
    arrived := by
      change (handledArrivals task.trace ++ arrivals task.pending).Sublist []
      rw [h.handled, arrivals_of_noClip h.pending]
      exact List.Sublist.refl _
    acked := fun _ hmem ↦ by cases hmem
    paused := fun _ hmem ↦ by cases hmem
    events := by
      change agentArrivals task.events = (handledArrivals task.trace).map _
      rw [h.handled, h.events]
      rfl }

/-- The loop accepts only what the phone has sealed. -/
theorem Inv.link_step [AeadCorrect] (h : world.Inv p2c c2p) {input : SessionTask.Input}
    (hadmissible : world.Admissible (.computer input)) :
    Link world.phone.endpoint (world.computer.step input).endpoint := by
  have haccounted := h.computer.keyed.accounted
  cases input with
  | onFrame paused nowMs seed =>
    rw [Computer.step, SessionTask.calls]
    split
    · next frame hphase =>
      have hpaused := h.link.outbound haccounted
        (by simp [Session.Call.IsOutbound] : (Session.Call.setPaused paused).IsOutbound)
      refine hpaused.receiver_call (haccounted.call (.setPaused paused)) (.onFrame frame nowMs seed)
        fun item hitem ↦ ?_
      obtain ⟨plain, hopens, rfl⟩ := List.mem_map.mp hitem
      exact (hadmissible frame hphase).mem (fun _ hmem ↦ h.phone.keyed.accounted.long hmem)
        (Option.mem_toList.mp hopens)
    · exact h.link
  | act stage works =>
    rw [Computer.step, SessionTask.calls]
    split
    · next event rest hphase =>
      rcases hcall : SessionTask.answerCall stage event with - | call
      · exact h.link
      · exact h.link.outbound haccounted
          (SessionTask.answerCall_ty hcall world.computer.endpoint.session).1
    · exact h.link
  | next => exact h.link

variable [Ciborium.Lawful] [AeadCorrect]

omit [Ciborium.Lawful] [AeadCorrect] in
/-- A CLIP_ACK that opens has left the computer, so the arrival of its clip has been emitted. -/
theorem Inv.acked (h : world.Inv p2c c2p) {frame : Frame} {nowMs : UInt64}
    (hunforged : Unforged world.computer.released world.phone.endpoint.session frame)
    {clipId : Octets 8} {status : UInt8} (hacked : .emit (.clipAcked clipId status) ∈
      (world.phone.endpoint.session.onFrame frame nowMs none).2) :
    ∃ other ∈ world.computer.arrived, other.clipId = clipId := by
  obtain ⟨hty, plain, -, hopens, -⟩ :=
    Session.onFrame_clipAcked h.phone.keyed.accounted.coherent hacked
  have hreleased := hunforged.mem
    (fun _ hmem ↦ h.computer.keyed.accounted.long (List.mem_of_mem_filter hmem)) hopens
  obtain ⟨hsealed, hwritten⟩ := List.mem_filter.mp hreleased
  obtain ⟨clip, hread, hclip⟩ := h.computer.acked frame (List.mem_of_mem_filter hsealed) hty
  refine ⟨clip, hclip.resolve_right fun hphase ↦ ?_, ?_⟩
  · rw [SessionTask.pending, hphase] at hwritten
    simp [sentFrames] at hwritten
  · exact h.phone.keyed.session.readAck_eq hacked hread

omit [Ciborium.Lawful] [AeadCorrect] in
/-- A beam that returns in a round has been settled by its acknowledgement. -/
theorem Inv.reply_returned (h : world.Inv p2c c2p) {reply : Except ClientError Frame}
    {nowMs : UInt64} (hadmissible : world.Admissible (.phone (.reply reply nowMs))) :
    ∀ clip id, (clip, .ok id) ∈ (world.phone.reply reply nowMs).returned → id = clip.clipId ∧
      clip ∈ world.phone.pushed ∧ ∃ other ∈ world.computer.arrived, other.clipId = clip.clipId := by
  intro clip id hmem
  unfold Phone.reply at hmem
  split at hmem
  · exact h.returned clip id hmem
  next waiting hwaiting =>
  cases reply with
  | error failure =>
    obtain hearlier | hnew := List.mem_append.mp hmem
    · exact h.returned clip id hearlier
    · simp [Exchange.receive, Exchange.failed] at hnew
  | ok frame =>
    obtain hearlier | hnew := List.mem_append.mp hmem
    · exact h.returned clip id hearlier
    obtain ⟨result, hresult, heq⟩ := Option.map_eq_some_iff.mp (Option.mem_toList.mp hnew)
    cases heq
    rw [(Exchange.receive_ok (Connection.beamSettles clip.clipId) rfl frame nowMs).2] at hresult
    obtain ⟨rfl, status, hacked⟩ := Connection.beamSettles_ok hresult
    exact ⟨rfl, h.phone.waiting clip hwaiting, h.acked hadmissible hacked⟩

/-- Every step keeps the invariant. -/
theorem Inv.step (h : world.Inv p2c c2p) {input : BeamInput} (hadmissible : world.Admissible input) :
    (world.step input).Inv p2c c2p := by
  cases input with
  | computer input =>
    refine ⟨h.phone, h.computer.step input, h.link_step hadmissible, fun clip id hmem ↦ ?_⟩
    obtain ⟨hid, hpushed, other, harrived, hother⟩ := h.returned clip id hmem
    exact ⟨hid, hpushed, other, world.computer.arrived_subset input harrived, hother⟩
  | phone input =>
    have hname : ∀ contentType body sourceName nowMs randomId sent,
        input = .beam contentType body sourceName nowMs randomId sent →
          (utf8 sourceName).length < 2 ^ 64 := by
      rintro contentType body sourceName nowMs randomId sent rfl
      exact hadmissible
    have hlink : Link (world.phone.step input).endpoint world.computer.endpoint := by
      obtain hsame | ⟨call, hcall⟩ := world.phone.step_endpoint input
      · rw [hsame]
        exact h.link
      · rw [hcall]
        exact h.link.sender_call h.phone.keyed.accounted call
    refine ⟨h.phone.step hname, h.computer, hlink, fun clip id hmem ↦ ?_⟩
    cases input with
    | beam contentType body sourceName nowMs randomId sent =>
      obtain ⟨hearlier, hsubset⟩ :=
        world.phone.beam_returned contentType body sourceName nowMs randomId sent hmem
      obtain ⟨hid, hpushed, hdelivered⟩ := h.returned clip id hearlier
      exact ⟨hid, hsubset hpushed, hdelivered⟩
    | reply reply nowMs =>
      obtain ⟨hid, hpushed, hdelivered⟩ := h.reply_returned hadmissible clip id hmem
      refine ⟨hid, ?_, hdelivered⟩
      change clip ∈ (world.phone.reply reply nowMs).pushed
      unfold Phone.reply
      split
      · exact hpushed
      · cases reply <;> exact hpushed
    | requestStageList | requestStageItem | handle => exact h.returned clip id hmem

theorem Reachable.inv {opening : BeamWorld} (hreach : opening.Reachable world)
    (h : opening.Inv p2c c2p) : world.Inv p2c c2p := by
  induction hreach with
  | start => exact h
  | step _ input hadmissible ih => exact ih.step hadmissible

omit [Ciborium.Lawful] [AeadCorrect] in
/-- The clips that arrive are a subsequence of those that have been pushed. -/
theorem Inv.rounds_sublist (h : world.Inv p2c c2p) :
    (world.computer.rounds.flatMap fun round ↦ arrivals round.2).Sublist world.phone.pushed := by
  obtain ⟨channel, items, -, -, hitems, hsublist⟩ := h.link.accepted_sublist
  calc
    List.Sublist _ ((world.computer.endpoint.accepted.map Prod.fst).filterMap (pushUnder p2c)) :=
      h.computer.accepted
    List.Sublist _ ((items.map Prod.fst).filterMap (pushUnder p2c)) :=
      (hsublist.map Prod.fst).filterMap _
    _ = world.phone.pushed := by rw [hitems, h.phone.pushed]

/-- Whatever the network does with the frames and however the pause flag is set, with distinct clip
ids: a beam that has returned with success has been delivered, once and as it was pushed; no clip
arrives twice, and the clips that arrive are a subsequence of those pushed; each arrival is emitted to
the agent; and no clip arrives in a round with the pause flag set. -/
theorem beams_delivered {phone : Session} {task : SessionTask} (hjoined : Joined phone task)
    (hreach : (start phone task).Reachable world)
    (hids : (world.phone.pushed.map BeamedClip.clipId).Nodup) :
    (∀ clip id, (clip, .ok id) ∈ world.phone.returned → id = clip.clipId ∧
      clip ∈ world.phone.pushed ∧
        world.computer.arrived.filter (fun other ↦ other.clipId = id) = [clip]) ∧
    (world.computer.arrived.map BeamedClip.clipId).Nodup ∧
    (world.computer.rounds.flatMap fun round ↦ arrivals round.2).Sublist world.phone.pushed ∧
    world.computer.arrived.Sublist (world.computer.rounds.flatMap fun round ↦ arrivals round.2) ∧
    agentArrivals world.computer.task.events =
      world.computer.arrived.map (fun clip ↦ (clip.contentType, clip.body, clip.sourceName)) ∧
    ∀ round ∈ world.computer.rounds, round.1 = true → arrivals round.2 = [] := by
  obtain ⟨p2c, c2p, hstart⟩ := Inv.start hjoined
  have hinv := hreach.inv hstart
  have hrounds := hinv.rounds_sublist
  have harrived := (List.sublist_append_left _ _).trans hinv.computer.arrived
  have hnodup := hids.sublist ((harrived.trans hrounds).map BeamedClip.clipId)
  refine ⟨fun clip id hmem ↦ ?_, hnodup, hrounds, harrived, hinv.computer.events,
    hinv.computer.paused⟩
  obtain ⟨rfl, hpushed, other, hother, hid⟩ := hinv.returned clip id hmem
  have hsame : other = clip :=
    List.inj_on_of_nodup_map hids ((harrived.trans hrounds).subset hother) hpushed hid
  subst hsame
  exact ⟨rfl, hpushed, BeamedClip.filter_clipId hnodup hother⟩

end BeamWorld

end Delivery

namespace Reference

/-- The loop after the handshake. -/
def serving : SessionTask := sessionStart.run sessionInputs

theorem joined : Joined phoneSession serving := by
  have hchannels : ∀ channel, pcSession.channel = some channel →
      pcSession.channel = some (.new channel.tx.key channel.rx.key) ∧
      phoneSession.channel = some (.new channel.rx.key channel.tx.key) := by
    have hnew : phoneSession.channel =
        pcSession.channel.map fun other ↦ .new other.rx.key other.tx.key := by decide +kernel
    have hfresh : pcSession.channel.map (fun other ↦ AeadChannel.new other.tx.key other.rx.key) =
        pcSession.channel := by decide +kernel
    intro channel hchannel
    rw [hchannel] at hnew hfresh ⊢
    exact ⟨hfresh.symm, hnew⟩
  have hsession : serving.session.channel = pcSession.channel := by decide +kernel
  obtain ⟨channel, hchannel⟩ :=
    Option.isSome_iff_exists.mp (by decide +kernel : pcSession.channel.isSome)
  obtain ⟨hpc, hphone⟩ := hchannels channel hchannel
  exact {
    phone_begun := .inl (by decide +kernel)
    task_begun := .inl (by decide +kernel)
    channels := ⟨_, _, hphone, hsession.trans hpc⟩
    pending := ⟨by decide +kernel, by decide +kernel⟩
    handled := by decide +kernel
    events := by decide +kernel }

/-- The phone beams a clip. -/
def pushed : BeamWorld := (BeamWorld.start phoneSession serving).step
  (.phone (.beam .text [104, 105] "iPhone" 5 (some (pad 8 [1])) (.ok ())))

/-- The loop takes its CLIP_PUSH. -/
def taken : BeamWorld := pushed.step (.computer (.next (.frame (frameOf firstPush))))

/-- It emits the arrival and writes the CLIP_ACK. -/
def written : BeamWorld := ((taken.step (.computer (.onFrame false 0 none))).step
  (.computer (.act .default true))).step (.computer (.act .default true))

/-- The CLIP_ACK of the computer. -/
def clipAck : Frame := (sentFrames (pcSession.onFrame (frameOf firstPush) 0 none).2).headD ⟨.ping, []⟩

/-- The phone gets it. -/
def acked : BeamWorld := written.step (.phone (.reply (.ok clipAck) 0))

end Reference

open Reference in
/-- A beam succeeds, and its clip has been emitted. -/
theorem beams_delivered_one :
    (BeamWorld.start phoneSession serving).Reachable acked ∧
      acked.phone.returned = [(⟨pad 8 [1], .text, [104, 105], "iPhone", 5⟩, .ok (pad 8 [1]))] ∧
      acked.computer.arrived.filter (fun other ↦ other.clipId = pad 8 [1]) =
        [⟨pad 8 [1], .text, [104, 105], "iPhone", 5⟩] := by
  have hpushed : (BeamWorld.start phoneSession serving).Reachable pushed :=
    .step .start _ (by change (utf8 "iPhone").length < 2 ^ 64; decide +kernel)
  have htaken : (BeamWorld.start phoneSession serving).Reachable taken := .step hpushed _ trivial
  have hgenuine : taken.Admissible (.computer (.onFrame false 0 none)) := by
    intro frame hphase
    have hframe : taken.computer.task.phase = .received (frameOf firstPush) := by decide +kernel
    rw [← SessionPhase.received.inj (hframe.symm.trans hphase)]
    exact Unforged.of_mem (by decide +kernel)
  have hwritten : (BeamWorld.start phoneSession serving).Reachable written :=
    .step (.step (.step htaken _ hgenuine) (.computer (.act .default true)) trivial)
      (.computer (.act .default true)) trivial
  have hacked : (BeamWorld.start phoneSession serving).Reachable acked :=
    .step hwritten _ (Unforged.of_mem (by decide +kernel))
  have hreturned : acked.phone.returned =
      [(⟨pad 8 [1], .text, [104, 105], "iPhone", 5⟩, .ok (pad 8 [1]))] := by decide +kernel
  obtain ⟨hdelivered, -⟩ := BeamWorld.beams_delivered joined hacked (by decide +kernel)
  exact ⟨hacked, hreturned, (hdelivered _ _ (hreturned ▸ List.mem_singleton_self _)).2.2⟩

end AirClip
