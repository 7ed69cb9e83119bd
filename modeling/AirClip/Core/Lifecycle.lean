import AirClip.Core.Nonces

/-!
# Lifecycle of a session

A session is established once or never, emits nothing before that, and ends with a close that is the
last thing it asks for.  Each answer either keeps the state and closes nothing, or closes the session
with its last action; what a whole run emits follows from the states it goes through.
-/

open Foundation Cbor

namespace AirClip

theorem mem_emittedEvents {event : SessionEvent} {actions : List SessionAction} :
    event ∈ emittedEvents actions ↔ .emit event ∈ actions := by
  simp only [emittedEvents, List.mem_filterMap]
  constructor
  · rintro ⟨action, hmem, haction⟩
    cases action with
    | emit other =>
      cases haction
      exact hmem
    | send | close => cases haction
  · intro hmem
    exact ⟨_, hmem, rfl⟩

section Lifecycles

variable [Primitives]

namespace Session

/-! ## The shape of an answer -/

/-- The shape of an answer to an opened frame: it keeps the state and closes nothing, or its last
action closes the session.  It never establishes one. -/
inductive Tidy (session : Session) : Session × List SessionAction → Prop
  | open {session' : Session} {actions : List SessionAction} (hstate : session'.state = session.state)
      (hclose : ∀ why, .close why ∉ actions)
      (hestablished : ∀ peer, .emit (.established peer) ∉ actions) : Tidy session (session', actions)
  | closed {session' : Session} (actions : List SessionAction) (why : String)
      (hstate : session'.state = .closed) (hclose : ∀ other, .close other ∉ actions)
      (hestablished : ∀ peer, .emit (.established peer) ∉ actions) :
      Tidy session (session', actions ++ [.close why])

theorem Tidy.state {session : Session} {result : Session × List SessionAction}
    (h : session.Tidy result) : result.1.state = session.state ∨ result.1.state = .closed := by
  cases h with
  | «open» hstate => exact .inl hstate
  | closed actions why hstate => exact .inr hstate

theorem Tidy.not_established {session : Session} {result : Session × List SessionAction}
    (h : session.Tidy result) (peer : DeviceId) : .emit (.established peer) ∉ result.2 := by
  cases h with
  | «open» hstate hclose hestablished => exact hestablished peer
  | closed actions why hstate hclose hestablished => simp [hestablished peer]

theorem Tidy.close_last {session : Session} {result : Session × List SessionAction}
    (h : session.Tidy result) {why : String} (hmem : .close why ∈ result.2) :
    ∃ init why, result.2 = init ++ [.close why] ∧ (∀ other, .close other ∉ init) ∧
      result.1.state = .closed := by
  cases h with
  | «open» hstate hclose => exact absurd hmem (hclose why)
  | closed actions why hstate hclose => exact ⟨actions, why, rfl, hclose, hstate⟩

theorem tidy_fail (session : Session) (why : String) : session.Tidy (session.fail why) :=
  .closed [] why rfl (by simp) (by simp)

theorem tidy_emit (session : Session) {event : SessionEvent}
    (h : ∀ peer, event ≠ .established peer) : session.Tidy (session, [.emit event]) :=
  .open rfl (by simp) (by simpa [eq_comm] using h)

/-- Sealing does not change the state. -/
theorem sealFrame_state {session session' : Session} {ty : FrameType} {plain : Bytes}
    {result : Except Error Frame} (h : session.sealFrame ty plain = (result, session')) :
    session'.state = session.state := by
  obtain ⟨failure, hseal⟩ | ⟨channel, payload, channel', -, -, hseal⟩ :=
    session.sealFrame_cases ty plain <;> rw [hseal] at h <;> cases h <;> rfl

variable [Ciborium]

theorem tidy_wireError (session : Session) (code : WireErrorCode) (msg : String) :
    session.Tidy (session.wireError code msg) := by
  unfold wireError
  dsimp only
  split
  · exact .closed [] msg rfl (by simp) (by simp)
  · split
    · exact .closed [_] msg rfl (by simp) (by simp)
    · exact .closed [] msg rfl (by simp) (by simp)

theorem onClipPush_tidy (session : Session) (plain : Bytes) :
    session.Tidy (session.onClipPush plain) := by
  unfold onClipPush
  repeat' split
  all_goals first
    | exact session.tidy_fail _
    | exact session.tidy_wireError _ _
    | skip
  · exact .closed [] _ rfl (by simp) (by simp)
  · next h => exact .open (sealFrame_state h) (by simp) (by simp)

theorem onPlain_tidy (session : Session) (ty : FrameType) (plain : Bytes) :
    session.Tidy (session.onPlain ty plain) := by
  cases ty with
  | clipPush => exact session.onClipPush_tidy plain
  | clipAck =>
    change session.Tidy (session.onClipAck plain)
    unfold onClipAck
    repeat' split
    all_goals first | exact session.tidy_fail _ | exact session.tidy_emit (by simp)
  | stageListReq => exact session.tidy_emit (by simp)
  | stageList =>
    change session.Tidy (session.onStageList plain)
    unfold onStageList
    repeat' split
    all_goals first | exact session.tidy_fail _ | exact session.tidy_emit (by simp)
  | stageGet =>
    change session.Tidy (session.onStageGet plain)
    unfold onStageGet
    repeat' split
    all_goals first | exact session.tidy_fail _ | exact session.tidy_emit (by simp)
  | stageItem =>
    change session.Tidy (session.onStageItem plain)
    unfold onStageItem
    repeat' split
    all_goals first | exact session.tidy_fail _ | exact session.tidy_emit (by simp)
  | ping =>
    change session.Tidy session.onPing
    unfold onPing
    split
    · next h => exact .open (sealFrame_state h) (by simp) (by simp)
    · exact .closed [] _ rfl (by simp) (by simp)
  | pong => exact .open rfl (by simp) (by simp)
  | error => exact .closed [_] _ rfl (by simp) (by simp)
  | hello | helloAck | pairReq | pairAck | pairConfirm => exact session.tidy_fail _

/-- The answer to a frame of an open session is tidy. -/
theorem Reception.tidy {session : Session} {frame : Frame} {nowMs : UInt64} {seed : Option Key32}
    {result : Session × List SessionAction} (h : session.Reception frame nowMs seed result)
    (hstate : session.state = .established) : session.Tidy result := by
  cases h with
  | refused => exact .closed [] _ rfl (by simp) (by simp)
  | greeted hawaiting => exact absurd (hstate.symm.trans hawaiting) (by simp)
  | acknowledged hawaiting => exact absurd (hstate.symm.trans hawaiting) (by simp)
  | @opened channel channel' plain =>
    have htidy := onPlain_tidy { session with lastActivityMs := nowMs, channel := some channel' }
      frame.ty plain
    generalize onPlain _ _ _ = result at htidy
    cases htidy with
    | «open» hsame hclose hestablished => exact .open hsame hclose hestablished
    | closed actions why hclosed hclose hestablished =>
      exact .closed actions why hclosed hclose hestablished

/-! ## What a call emits -/

/-- The actions a call returns for the transport driver. -/
def batch (session : Session) : Call → List SessionAction
  | .onFrame frame nowMs seed => (session.onFrame frame nowMs seed).2
  | _ => []

/-- The session after some calls. -/
def after (session : Session) (calls : List Call) : Session := (session.performAll calls).1

/-- All that some calls emit. -/
def events (session : Session) : List Call → List SessionEvent
  | [] => []
  | call :: calls => emittedEvents (session.batch call) ++ (session.perform call).1.events calls

/-- The call builds a frame or sets the pause flag. -/
def Call.IsOutbound (call : Call) : Prop := ∀ frame nowMs seed, call ≠ .onFrame frame nowMs seed

theorem batch_outbound (session : Session) {call : Call} (h : call.IsOutbound) :
    session.batch call = [] := by
  cases call with
  | onFrame frame nowMs seed => exact absurd rfl (h frame nowMs seed)
  | _ => rfl

theorem perform_outbound {session : Session} (hcoherent : session.Coherent) {call : Call}
    (h : call.IsOutbound) : session.Outbound (session.perform call) := by
  obtain ⟨houtbound, -⟩ | ⟨frame, nowMs, seed, hcall, -⟩ := perform_cases hcoherent call
  · exact houtbound
  · exact absurd hcall (h frame nowMs seed)

omit [Primitives] [Ciborium] in
/-- A call is outbound or hands a frame to the session. -/
theorem Call.isOutbound_or (call : Call) :
    call.IsOutbound ∨ ∃ frame nowMs seed, call = .onFrame frame nowMs seed := by
  cases call with
  | onFrame frame nowMs seed => exact .inr ⟨frame, nowMs, seed, rfl⟩
  | _ => exact .inl (by simp [IsOutbound])

/-- Without a channel nothing can be built. -/
theorem perform_no_frame {session : Session} (hcoherent : session.Coherent)
    (hchannel : session.channel = none) {call : Call} (h : call.IsOutbound) :
    (session.perform call).2 = [] ∧ (session.perform call).1.channel = none := by
  have houtbound := perform_outbound hcoherent h
  obtain ⟨items, hsealing, hitems⟩ := houtbound.sealing
  rw [hchannel] at hsealing
  generalize hlater : (session.perform call).1.channel = later at hsealing
  cases hsealing
  exact ⟨hitems.symm, rfl⟩

/-- Before the handshake a call either emits nothing and opens no channel, or it establishes the
session and emits just that. -/
theorem perform_before {session : Session} (hcoherent : session.Coherent)
    (hstate : session.state ≠ .established) (hchannel : session.channel = none) (call : Call) :
    (emittedEvents (session.batch call) = [] ∧ (session.perform call).1.channel = none ∧
      (session.perform call).1.state ≠ .established) ∨
    ∃ peer, emittedEvents (session.batch call) = [.established peer] ∧
      (session.perform call).1.state = .established := by
  obtain houtbound | ⟨frame, nowMs, seed, rfl⟩ := call.isOutbound_or
  · refine .inl ⟨by rw [session.batch_outbound houtbound]; rfl,
      (perform_no_frame hcoherent hchannel houtbound).2, ?_⟩
    rw [(perform_outbound hcoherent houtbound).unchanged]
    exact hstate
  · have hreception := onFrame_cases hcoherent frame nowMs seed
    change (emittedEvents (session.onFrame frame nowMs seed).2 = [] ∧
      (session.onFrame frame nowMs seed).1.channel = none ∧
        (session.onFrame frame nowMs seed).1.state ≠ .established) ∨
      ∃ peer, emittedEvents (session.onFrame frame nowMs seed).2 = [.established peer] ∧
        (session.onFrame frame nowMs seed).1.state = .established
    generalize session.onFrame frame nowMs seed = result at hreception
    cases hreception with
    | refused => exact .inl ⟨rfl, hchannel, by simp⟩
    | greeted => exact .inr ⟨_, rfl, rfl⟩
    | acknowledged => exact .inr ⟨_, rfl, rfl⟩
    | opened hestablished => exact absurd hestablished hstate

/-- The session has been established, and may have been closed since, or it has been closed. -/
def Begun (session : Session) : Prop := session.state = .established ∨ session.state = .closed

/-- A session that has begun is never established again. -/
theorem perform_begun {session : Session} (hcoherent : session.Coherent) (hbegun : session.Begun)
    (call : Call) : (session.perform call).1.Begun ∧
      ∀ peer, .established peer ∉ emittedEvents (session.batch call) := by
  obtain houtbound | ⟨frame, nowMs, seed, rfl⟩ := call.isOutbound_or
  · rw [session.batch_outbound houtbound, (perform_outbound hcoherent houtbound).unchanged]
    exact ⟨hbegun, by simp [emittedEvents]⟩
  · change (session.onFrame frame nowMs seed).1.Begun ∧
      ∀ peer, .established peer ∉ emittedEvents (session.onFrame frame nowMs seed).2
    obtain hstate | hclosed := hbegun
    · have htidy := (onFrame_cases hcoherent frame nowMs seed).tidy hstate
      exact ⟨htidy.state.imp_left (·.trans hstate),
        fun peer hmem ↦ htidy.not_established peer (mem_emittedEvents.mp hmem)⟩
    · rw [onFrame, if_pos hclosed]
      exact ⟨.inr hclosed, by simp [emittedEvents]⟩

/-- A batch with a close has it once, as its last action, and leaves the session closed. -/
theorem Reception.close_last {session : Session} {frame : Frame} {nowMs : UInt64}
    {seed : Option Key32} {result : Session × List SessionAction}
    (h : session.Reception frame nowMs seed result) {why : String} (hmem : .close why ∈ result.2) :
    ∃ init why, result.2 = init ++ [.close why] ∧ (∀ other, .close other ∉ init) ∧
      result.1.state = .closed := by
  by_cases hstate : session.state = .established
  · exact (h.tidy hstate).close_last hmem
  · cases h with
    | refused lastActivityMs why => exact ⟨[], why, rfl, by simp, rfl⟩
    | greeted | acknowledged => simp at hmem
    | opened hestablished => exact absurd hestablished hstate

/-- Only a frame that has been opened makes a session emit anything but its establishment. -/
theorem Reception.event_opened {session : Session} {frame : Frame} {nowMs : UInt64}
    {seed : Option Key32} {result : Session × List SessionAction}
    (h : session.Reception frame nowMs seed result) {event : SessionEvent}
    (hmem : event ∈ emittedEvents result.2) (hevent : ∀ peer, event ≠ .established peer) :
    ∃ channel opened plain, session.channel = some channel ∧
      channel.openPayload frame.ty frame.payload = (.ok plain, opened) := by
  cases h with
  | refused => simp [emittedEvents] at hmem
  | greeted | acknowledged =>
    simp only [emittedEvents, List.filterMap_cons, List.filterMap_nil, List.mem_singleton] at hmem
    exact absurd hmem (hevent _)
  | opened hstate hencrypted hchannel hopen => exact ⟨_, _, _, hchannel, hopen⟩

/-! ## The peer of an established session -/

/-- Past the wait for a HELLO, an open session has a peer, one of those it was created with. -/
def Peered (session : Session) : Prop :=
  session.state = .established ∨ session.state = .awaitingHelloAck →
    ∃ peer, session.peer = some peer ∧ peer ∈ session.knownPeers

theorem Peered.perform {session : Session} (hcoherent : session.Coherent) (h : session.Peered)
    (call : Call) : (session.perform call).1.Peered := by
  obtain houtbound | ⟨frame, nowMs, seed, rfl⟩ := call.isOutbound_or
  · rw [(perform_outbound hcoherent houtbound).unchanged]
    exact h
  · change (session.onFrame frame nowMs seed).1.Peered
    have hreception := onFrame_cases hcoherent frame nowMs seed
    generalize session.onFrame frame nowMs seed = result at hreception
    cases hreception with
    | refused => simp [Peered]
    | greeted hstate hty hauth =>
      exact fun _ ↦ ⟨_, rfl, List.mem_of_find?_eq_some hauth.known⟩
    | acknowledged hstate hty hauth => exact fun _ ↦ h (.inr hstate)
    | opened hstate =>
      rw [(onPlain_answers _ _ _).unchanged]
      exact fun _ ↦ h (.inl hstate)

/-! ## Runs -/

theorem after_coherent {session : Session} (hcoherent : session.Coherent) (calls : List Call) :
    (session.after calls).Coherent := hcoherent.performAll calls

theorem after_peered {session : Session} (hcoherent : session.Coherent) (h : session.Peered)
    (calls : List Call) : (session.after calls).Peered := by
  induction calls generalizing session with
  | nil => exact h
  | cons call calls ih => exact ih (hcoherent.perform call) (h.perform hcoherent call)

theorem events_begun {session : Session} (hcoherent : session.Coherent) (hbegun : session.Begun)
    (calls : List Call) (peer : DeviceId) : .established peer ∉ session.events calls := by
  induction calls generalizing session with
  | nil => exact List.not_mem_nil
  | cons call calls ih =>
    obtain ⟨hlater, hcall⟩ := perform_begun hcoherent hbegun call
    rw [events, List.mem_append]
    rintro (hnow | hafter)
    · exact hcall peer hnow
    · exact ih (hcoherent.perform call) hlater hafter

/-- A run that starts before the handshake emits nothing, or first the one establishment. -/
theorem events_before {session : Session} (hcoherent : session.Coherent)
    (hstate : session.state ≠ .established) (hchannel : session.channel = none) (calls : List Call) :
    (session.events calls = [] ∧ (session.after calls).channel = none) ∨
    ∃ peer rest, session.events calls = .established peer :: rest ∧
      ∀ other, .established other ∉ rest := by
  induction calls generalizing session with
  | nil => exact .inl ⟨rfl, hchannel⟩
  | cons call calls ih =>
    have hlater := hcoherent.perform call
    obtain ⟨hcall, hchannel', hstate'⟩ | ⟨peer, hcall, hstate'⟩ :=
      perform_before hcoherent hstate hchannel call
    · rw [events, hcall, List.nil_append]
      exact ih hlater hstate' hchannel'
    · rw [events, hcall, List.singleton_append]
      exact .inr ⟨peer, _, rfl, events_begun hlater (.inl hstate') calls⟩

/-- A session as it is opened, by the phone or by the computer. -/
inductive Opened : Session → Prop
  | phone {identity : IdentityKeypair} {peer : PeerKey} {nowMs : UInt64} {seed : Option Key32}
      {session : Session} {hello : Frame}
      (h : startPhone identity peer nowMs seed = .ok (session, hello)) : Opened session
  | pc (identity : IdentityKeypair) (knownPeers : List PeerKey) (nowMs : UInt64) :
      Opened (newPc identity knownPeers nowMs)

theorem Opened.fresh {session : Session} (h : Opened session) :
    session.Coherent ∧ session.Peered ∧ session.state ≠ .established ∧ session.channel = none := by
  cases h with
  | phone h =>
    obtain ⟨eph, -, hstart⟩ := startPhone_opens h
    refine ⟨startPhone_coherent hstart, ?_⟩
    rw [startPhone_session hstart]
    exact ⟨fun _ ↦ ⟨_, rfl, List.mem_singleton_self _⟩, by simp [phoneOpened], rfl⟩
  | pc => exact ⟨newPc_coherent .., by simp [Peered, newPc], by simp [newPc], rfl⟩

/-- What holds of a session and of all it has emitted after any calls. -/
structure Lifecycle (opening : Session) (calls : List Call) : Prop where
  /-- `Established` is emitted at most once, and before any other event. -/
  established_first : opening.events calls = [] ∨
    ∃ peer rest, opening.events calls = .established peer :: rest ∧
      ∀ other, .established other ∉ rest
  /-- No frame is built before. -/
  no_frame_before : opening.events calls = [] → ∀ call : Call, call.IsOutbound →
    ((opening.after calls).perform call).2 = []
  peered : (opening.after calls).state = .established →
    ∃ channel peer, (opening.after calls).channel = some channel ∧
      (opening.after calls).peer = some peer ∧ peer ∈ opening.knownPeers
  close_last : ∀ frame nowMs seed why,
    .close why ∈ ((opening.after calls).onFrame frame nowMs seed).2 →
      ∃ init why, ((opening.after calls).onFrame frame nowMs seed).2 = init ++ [.close why] ∧
        (∀ other, .close other ∉ init) ∧
        ((opening.after calls).onFrame frame nowMs seed).1.state = .closed
  closed_stays : (opening.after calls).state = .closed → ∀ frame nowMs seed,
    ∃ why, (opening.after calls).onFrame frame nowMs seed = (opening.after calls, [.close why])
  /-- Other events are about frames that opened under the receive key. -/
  event_opened : ∀ frame nowMs seed event,
    event ∈ emittedEvents ((opening.after calls).onFrame frame nowMs seed).2 →
      (∀ peer, event ≠ .established peer) →
      ∃ channel opened plain, (opening.after calls).channel = some channel ∧
        channel.openPayload frame.ty frame.payload = (.ok plain, opened)

/-- Every session keeps to its lifecycle, whatever calls are made in whatever order. -/
theorem session_lifecycle {opening : Session} (hopened : Opened opening) (calls : List Call) :
    Lifecycle opening calls := by
  obtain ⟨hcoherent, hpeered, hstate, hchannel⟩ := hopened.fresh
  have hafter := after_coherent hcoherent calls
  have hevents := events_before hcoherent hstate hchannel calls
  exact {
    established_first := hevents.imp_left And.left
    no_frame_before := fun hempty call houtbound ↦ by
      obtain ⟨-, hnone⟩ | ⟨peer, rest, hcons, -⟩ := hevents
      · exact (perform_no_frame hafter hnone houtbound).1
      · rw [hempty] at hcons
        cases hcons
    peered := fun hestablished ↦ by
      obtain ⟨channel, hsome⟩ := hafter.channel_some hestablished
      obtain ⟨peer, hpeer, hmem⟩ := after_peered hcoherent hpeered calls (.inl hestablished)
      rw [show (opening.after calls).knownPeers = opening.knownPeers from
        (performAll_sameParty hcoherent calls).knownPeers] at hmem
      exact ⟨channel, peer, hsome, hpeer, hmem⟩
    close_last := fun frame nowMs seed why ↦ (onFrame_cases hafter frame nowMs seed).close_last
    closed_stays := fun hclosed frame nowMs seed ↦ ⟨_, by rw [onFrame, if_pos hclosed]⟩
    event_opened := fun frame nowMs seed event hmem hevent ↦
      (onFrame_cases hafter frame nowMs seed).event_opened hmem hevent }

end Session

end Lifecycles

open Reference in
/-- A phone that pings before and after its handshake, and then receives a HELLO. -/
theorem session_lifecycle_phone :
    let phone := Session.phoneOpened phoneIdentity pcPeer 0 (.fromSeed (pad 32 [7]))
    let calls := [.ping, .onFrame helloAckFrame 0 none, .ping, .onFrame helloFrame 1 none]
    Session.Lifecycle phone calls ∧ phone.events calls = [.established pcIdentity.deviceId] ∧
      (phone.after calls).state = .closed := by
  intro phone calls
  have hstart : Session.startPhone phoneIdentity pcPeer 0 (some (pad 32 [7])) =
      .ok (phone, helloFrame) :=
    Session.startPhone_eq phoneIdentity pcPeer 0 (.fromSeed (pad 32 [7]))
  exact ⟨Session.session_lifecycle (.phone hstart) calls, by decide +kernel, by decide +kernel⟩

end AirClip
