import AirClip.Agent.EventChannel
import AirClip.Core.Handshake
import AirClip.Core.Lifecycle

/-!
# Whom the agent trusts

The agent takes clips from any session whose handshake has succeeded, and it judges a handshake by the
list of peers at the moment the session is opened.  A record gets into that list from the disk, or through
a pairing whose confirmation has been verified.  So whatever frames arrive on whatever connections, all
that the agent reports of a session goes back to a stored record or to a confirmed pairing.
-/

open Foundation

namespace AirClip

section Trust

variable [Primitives] [Ciborium] [TextCodecs]

namespace Agent

variable {C : Type}

/-- A machine has verified the confirmation of a phone for this record, which names the phone by its key. -/
def Confirms (agent : Agent C) (record : PairingRecord) : Prop :=
  ∃ call ∈ agent.handled, ∃ peer input, call.pairing.Confirmed call.frame peer input ∧
    deviceIdFromPk peer.pk = peer.deviceId ∧
    record = .new peer.deviceId peer.pk peer.displayName call.nowMs

/-- The record was on disk at the start, or a pairing has been confirmed for it. -/
def Trusts (stored : List PairingRecord) (agent : Agent C) (record : PairingRecord) : Prop :=
  record ∈ stored ∨ agent.Confirms record

/-- What the task of a connection has to come up with. -/
def TaskTrusts (stored : List PairingRecord) (agent : Agent C) : Task → Prop
  | .received _ pairing _ => pairing.Coherent
  | .acting _ pairing actions =>
    pairing.Coherent ∧ ∀ record, .completed record ∈ actions → agent.Confirms record
  | .storing _ all => ∀ record ∈ all, agent.Trusts stored record
  | .accepted | .handed _ | .closing _ | .ended => True

/-- All that the agent knows, on disk and in memory, is trusted. -/
structure OnlyTrusted (stored : List PairingRecord) (agent : Agent C) : Prop where
  peers : ∀ record ∈ agent.peers, agent.Trusts stored record
  keystore : ∀ record ∈ agent.keystore, agent.Trusts stored record
  tasks : ∀ c, agent.TaskTrusts stored (agent.tasks c)

variable {stored : List PairingRecord} {agent agent' : Agent C}

theorem Confirms.mono {record : PairingRecord} (h : agent.Confirms record)
    (hhandled : agent.handled ⊆ agent'.handled) : agent'.Confirms record := by
  obtain ⟨call, hmem, hconfirmed⟩ := h
  exact ⟨call, hhandled hmem, hconfirmed⟩

theorem Trusts.mono {record : PairingRecord} (h : agent.Trusts stored record)
    (hhandled : agent.handled ⊆ agent'.handled) : agent'.Trusts stored record :=
  h.imp_right fun hconfirms ↦ hconfirms.mono hhandled

theorem TaskTrusts.mono {task : Task} (h : agent.TaskTrusts stored task)
    (hhandled : agent.handled ⊆ agent'.handled) : agent'.TaskTrusts stored task := by
  cases task with
  | acting => exact ⟨h.1, fun record hmem ↦ (h.2 record hmem).mono hhandled⟩
  | storing => exact fun record hmem ↦ (h record hmem).mono hhandled
  | received => exact h
  | _ => trivial

/-- The records of a later list are trusted if the pairing they come from is. -/
theorem Trusts.upsert {all : List PairingRecord} {record : PairingRecord}
    (hall : ∀ record ∈ all, agent.Trusts stored record) (hrecord : agent.Trusts stored record) :
    ∀ other ∈ upsertPairing all record, agent.Trusts stored other := by
  intro other hmem
  obtain hmem | hmem := List.mem_append.mp hmem
  · exact hall other (List.mem_filter.mp hmem).1
  · rwa [List.mem_singleton.mp hmem]

variable [DecidableEq C]

/-- A task moves while what the agent knows grows by trusted records only. -/
theorem OnlyTrusted.moved (h : agent.OnlyTrusted stored) (agent' : Agent C) {c : C} (task : Task)
    (hhandled : agent.handled ⊆ agent'.handled)
    (htasks : agent'.tasks = Function.update agent.tasks c task)
    (htask : agent'.TaskTrusts stored task)
    (hpeers : ∀ record ∈ agent'.peers, record ∈ agent.peers ∨ agent'.Trusts stored record)
    (hkeystore : ∀ record ∈ agent'.keystore, record ∈ agent.keystore ∨ agent'.Trusts stored record) :
    agent'.OnlyTrusted stored where
  peers record hmem := (hpeers record hmem).elim (fun hold ↦ (h.peers record hold).mono hhandled) id
  keystore record hmem :=
    (hkeystore record hmem).elim (fun hold ↦ (h.keystore record hold).mono hhandled) id
  tasks d := by
    rw [htasks]
    by_cases hd : d = c
    · rw [hd, Function.update_self]
      exact htask
    · rw [Function.update_of_ne hd]
      exact (h.tasks d).mono hhandled

/-- A task moves and nothing else changes. -/
theorem OnlyTrusted.setTask (h : agent.OnlyTrusted stored) (c : C) (task : Task)
    (htask : agent.TaskTrusts stored task) : (agent.setTask c task).OnlyTrusted stored :=
  h.moved (agent.setTask c task) task (List.Subset.refl _) rfl (htask.mono (List.Subset.refl _))
    (fun _ ↦ .inl) fun _ ↦ .inl

/-- A call completes only records that it has confirmed. -/
theorem OnlyTrusted.handle (h : agent.OnlyTrusted stored) {c : C} {window : ℕ} {pairing : PcPairing}
    {frame : Frame} (nowMs : UInt64) (seed : Option Key32)
    (htask : agent.tasks c = .received window pairing frame) :
    (agent.handle c window pairing frame nowMs seed).OnlyTrusted stored := by
  have hcoherent : pairing.Coherent := by
    have htrusts := h.tasks c
    rwa [htask] at htrusts
  refine h.moved (agent.handle c window pairing frame nowMs seed) (.acting ..)
    (List.subset_append_left _ _) rfl ⟨hcoherent.onFrame frame nowMs seed, fun record hmem ↦ ?_⟩
    (fun _ ↦ .inl) fun _ ↦ .inl
  refine ⟨_, List.mem_append_right _ List.mem_cons_self, ?_⟩
  have hcases := pairing.onFrame_cases frame nowMs seed
  generalize pairing.onFrame frame nowMs seed = result at hcases hmem
  cases hcases with
  | refused | answered => simp [PcPairing.answer] at hmem
  | @confirmed peer input hconfirmed =>
    obtain ⟨known, -, -, hknown, -, hid, -⟩ := hcoherent.basis hconfirmed.sasInput_eq
    cases hknown.symm.trans hconfirmed.peer_eq
    exact ⟨peer, input, hconfirmed, hid, PairingAction.completed.inj (List.mem_singleton.mp hmem)⟩

theorem OnlyTrusted.carryOut (h : agent.OnlyTrusted stored) {c : C} {window : ℕ} {pairing : PcPairing}
    {action : PairingAction} {rest : List PairingAction}
    (htask : agent.tasks c = .acting window pairing (action :: rest)) (loads works : Bool) :
    (agent.carryOut c window pairing rest loads works action).OnlyTrusted stored := by
  have htrusts : agent.TaskTrusts stored (.acting window pairing (action :: rest)) := htask ▸ h.tasks c
  have hrest : agent.TaskTrusts stored (.acting window pairing rest) :=
    ⟨htrusts.1, fun record hmem ↦ htrusts.2 record (List.mem_cons_of_mem _ hmem)⟩
  have hended := h.setTask c .ended trivial
  cases action with
  | send frame =>
    cases works
    · exact hended
    · have hsent := h.setTask c _ hrest
      exact ⟨hsent.peers, hsent.keystore, hsent.tasks⟩
  | showSas emoji =>
    have hshown := h.setTask c _ hrest
    exact ⟨hshown.peers, hshown.keystore, hshown.tasks⟩
  | failed reason => exact ⟨hended.peers, hended.keystore, hended.tasks⟩
  | completed record =>
    cases works
    · exact hended
    · have hrecord : agent.Trusts stored record := .inr (htrusts.2 record List.mem_cons_self)
      have hloaded : ∀ record ∈ (if loads then agent.keystore else []), agent.Trusts stored record := by
        cases loads
        · exact nofun
        · exact h.keystore
      have hall := Trusts.upsert hloaded hrecord
      exact h.moved _ (.storing record _) (List.Subset.refl _) rfl hall (fun _ ↦ .inl)
        fun record hmem ↦ .inr (hall record hmem)

/-- Every step of a pairing exchange keeps to trusted records. -/
theorem OnlyTrusted.step (h : agent.OnlyTrusted stored) (input : Input C) :
    (agent.step input).OnlyTrusted stored := by
  cases input with
  | openPairingWindow token hosts nowMs =>
    change (agent.openPairingWindow token hosts nowMs).OnlyTrusted stored
    unfold openPairingWindow
    split
    · exact h
    · split
      · exact h
      · exact ⟨h.peers, h.keystore, h.tasks⟩
  | firstFrame c frame =>
    rw [Agent.step]
    split
    · apply h.setTask
      split <;> trivial
    · exact h
  | readOffer c =>
    rw [Agent.step]
    split
    · exact h.setTask c _ (PcPairing.withToken_coherent ..)
    · exact h.setTask c _ trivial
    · exact h
  | onFrame c nowMs seed =>
    rw [Agent.step]
    split
    · next htask => exact h.handle nowMs seed htask
    · exact h
  | act c loads works =>
    rw [Agent.step]
    split
    · next htask => exact h.carryOut htask loads works
    · next record all htask =>
      have hall : agent.TaskTrusts stored (.storing record all) := htask ▸ h.tasks c
      exact h.moved _ (.closing record) (List.Subset.refl _) rfl trivial
        (fun record hmem ↦ .inr (hall record hmem)) fun _ ↦ .inl
    · have hended := h.setTask c .ended trivial
      exact ⟨hended.peers, hended.keystore, hended.tasks⟩
    · exact h
  | nextFrame c frame =>
    rw [Agent.step]
    unfold receive
    split
    · next window pairing received htask =>
      have htrusts : agent.TaskTrusts stored (.acting window pairing []) := htask ▸ h.tasks c
      exact h.setTask c _ htrusts.1
    · exact h.setTask c _ trivial
    · exact h

omit [DecidableEq C] in
theorem onlyTrusted_start (identity : IdentityKeypair) (displayName : String)
    (stored : List PairingRecord) : (start identity displayName stored : Agent C).OnlyTrusted stored :=
  ⟨fun _ ↦ .inl, fun _ ↦ .inl, fun _ ↦ trivial⟩

end Agent

end Trust

/-! ## Sessions -/

section Sessions

variable [Primitives] [Ciborium]

/-- The event is of the session with this peer. -/
def AgentEvent.IsOf (key : PeerKey) : AgentEvent → Prop
  | .peerConnected id | .peerDisconnected id => id = key.deviceId.hex
  | .clipArrived .. | .pairingSas _ | .paired _ | .pairingFailed _ => True

namespace SessionTask

/-- The session waits for a HELLO, and it has received one of a peer it knows, which is authentic at this
moment. -/
structure Greeting (task : SessionTask) (nowMs : UInt64) (key : PeerKey) : Prop where
  state : task.session.state = .awaitingHello
  known : FirstKnown task.session.knownPeers key.deviceId key
  hello : ∃ frame, task.phase = .received frame ∧
    AuthenticHello task.session.identity task.session.knownPeers nowMs frame key.deviceId

/-- The session has met no peer, and emits nothing. -/
structure Silent (task : SessionTask) : Prop where
  state : task.session.state ≠ .established
  events : task.events = []
  connectedId : task.connectedId = none
  pending : ∀ actions, task.phase = .acting actions → emittedEvents actions = []

/-- The session has met a peer, and all it emits is about that one. -/
structure SpeaksOf (task : SessionTask) (key : PeerKey) : Prop where
  peer : task.session.peer = some key
  begun : task.session.Begun
  events : ∀ event ∈ task.events, event.IsOf key
  connectedId : ∀ id ∈ task.connectedId, id = key.deviceId.hex
  pending : ∀ peer ∈ task.announced, peer = key.deviceId

/-- A session emits nothing before it has met a peer. -/
structure Vouched (task : SessionTask) : Prop where
  coherent : task.session.Coherent
  role : task.session.role = .pc
  met : task.Silent ∨ ∃ key, task.SpeaksOf key

theorem vouched_start (identity : IdentityKeypair) (peerKeys : List PeerKey) (nowMs : UInt64)
    (paused : Bool) (first : Frame) : (start identity peerKeys nowMs paused first).Vouched where
  coherent := (Session.newPc_coherent identity peerKeys nowMs).perform (.setPaused paused)
  role := rfl
  met := .inl ⟨nofun, rfl, rfl, nofun⟩

variable {task task' : SessionTask} {key : PeerKey}

omit [Ciborium] in
theorem SpeaksOf.continues (h : task.SpeaksOf key) (hpeer : task'.session.peer = task.session.peer)
    (hbegun : task'.session.Begun)
    (hevents : ∀ event ∈ task'.events, event ∈ task.events ∨ event.IsOf key)
    (hid : ∀ id ∈ task'.connectedId, id ∈ task.connectedId ∨ id = key.deviceId.hex)
    (hpending : ∀ peer ∈ task'.announced, peer ∈ task.announced) : task'.SpeaksOf key where
  peer := hpeer.trans h.peer
  begun := hbegun
  events event hmem := (hevents event hmem).elim (h.events event) id
  connectedId id hmem := (hid id hmem).elim (h.connectedId id) fun heq ↦ heq
  pending peer hmem := h.pending peer (hpending peer hmem)

omit [Ciborium] in
/-- A step that leaves the session alone, and reports nothing but the disconnect. -/
theorem SpeaksOf.settles (h : task.SpeaksOf key) (hsession : task'.session = task.session)
    (hevents : ∀ event ∈ task'.events, event ∈ task.events ∨
      ∃ id ∈ task.connectedId, event = .peerDisconnected id)
    (hid : ∀ id ∈ task'.connectedId, id ∈ task.connectedId)
    (hpending : ∀ peer ∈ task'.announced, peer ∈ task.announced) : task'.SpeaksOf key := by
  refine h.continues (by rw [hsession]) (hsession ▸ h.begun) ?_
    (fun id hmem ↦ .inl (hid id hmem)) hpending
  intro event hmem
  obtain hold | ⟨id, hconnected, rfl⟩ := hevents event hmem
  · exact .inl hold
  · exact .inr (h.connectedId id hconnected)

/-- A computer that gets a frame meets a peer only if this is its HELLO. -/
theorem reception_peer {session : Session} {frame : Frame} {nowMs : UInt64} {seed : Option Key32}
    {result : Session × List SessionAction} (hreception : session.Reception frame nowMs seed result)
    (hcoherent : session.Coherent) (hrole : session.role = .pc) :
    result.1.peer = session.peer ∨ ∃ key, result.1.peer = some key ∧ session.state = .awaitingHello ∧
      FirstKnown session.knownPeers key.deviceId key ∧
      AuthenticHello session.identity session.knownPeers nowMs frame key.deviceId := by
  cases hreception with
  | refused => exact .inl rfl
  | @greeted hello peer basis payload eph hawaiting hty hauth =>
    have hid : peer.deviceId = ⟨hello.id⟩ := by simpa using List.find?_some hauth.known
    have hauthentic := (session.helloAuthentic_iff hty).mp ⟨hello, peer, basis, hauth, hid.symm⟩
    refine .inr ⟨peer, rfl, hawaiting, ?_, hauthentic⟩
    rw [hid]
    exact find?_firstKnown.mp hauth.known
  | acknowledged hawaiting => exact absurd hawaiting (hcoherent.pc hrole)
  | opened =>
    refine .inl ?_
    rw [(Session.onPlain_answers _ _ _).unchanged]

/-- The session gets a frame: it may meet a peer, whose HELLO this is. -/
theorem Vouched.onFrame (h : task.Vouched) (frame : Frame) (paused : Bool) (nowMs : UInt64)
    (seed : Option Key32) : (task.onFrame frame paused nowMs seed).Vouched := by
  have hcoherent : (task.session.setPaused paused).Coherent := h.coherent.perform (.setPaused paused)
  have hreception := Session.onFrame_cases hcoherent frame nowMs seed
  have hmeets := reception_peer hreception hcoherent h.role
  refine ⟨hreception.coherent, (hreception.sameParty hcoherent).role.trans h.role, ?_⟩
  have hnew : task.onFrame frame paused nowMs seed =
      SessionTask.note { task with
        session := ((task.session.setPaused paused).onFrame frame nowMs seed).1
        phase := .acting ((task.session.setPaused paused).onFrame frame nowMs seed).2 }
        (.batch ((task.session.setPaused paused).onFrame frame nowMs seed).2) := rfl
  rw [hnew]
  have hlater (hbegun : task.session.Begun) :=
    Session.perform_begun hcoherent hbegun (.onFrame frame nowMs seed)
  change task.session.Begun → ((task.session.setPaused paused).onFrame frame nowMs seed).1.Begun ∧
    ∀ peer, .established peer ∉
      emittedEvents ((task.session.setPaused paused).onFrame frame nowMs seed).2 at hlater
  generalize (task.session.setPaused paused).onFrame frame nowMs seed = result
    at hreception hmeets hlater ⊢
  obtain hsilent | ⟨key, hspeaks⟩ := h.met
  · cases hreception with
    | refused lastActivityMs why =>
      refine .inl ⟨by simp [SessionTask.note], hsilent.events, hsilent.connectedId, ?_⟩
      intro actions hphase
      cases hphase
      rfl
    | @greeted hello peer basis payload eph hawaiting hty hauth =>
      have hid : peer.deviceId = ⟨hello.id⟩ := by simpa using List.find?_some hauth.known
      refine .inr ⟨peer, rfl, .inl rfl, ?_, ?_, ?_⟩
      · change ∀ event ∈ task.events, _
        rw [hsilent.events]
        simp
      · change ∀ id ∈ task.connectedId, _
        rw [hsilent.connectedId]
        simp
      · intro other hmem
        rw [hid]
        simpa [announced, SessionTask.note, establishedPeers, emittedEvents] using hmem
    | acknowledged hawaiting => exact absurd hawaiting (hcoherent.pc h.role)
    | opened hestablished => exact absurd hestablished hsilent.state
  · obtain ⟨hbegun, hnone⟩ := hlater hspeaks.begun
    refine .inr ⟨key, hspeaks.continues ?_ hbegun (fun _ ↦ .inl) (fun _ ↦ .inl) fun peer hmem ↦ ?_⟩
    · obtain hsame | ⟨-, -, hawaiting, -⟩ := hmeets
      · exact hsame
      · have hbefore := hspeaks.begun
        rw [Session.Begun, show task.session.state = .awaitingHello from hawaiting] at hbefore
        simp at hbefore
    · obtain ⟨event, hmem, hevent⟩ := List.mem_filterMap.mp hmem
      cases event with
      | established other =>
        cases hevent
        exact absurd hmem (hnone peer)
      | _ => cases hevent

/-- Answering an event leaves a session with the party it has met. -/
theorem handleEvent_sameParty (session : Session) (event : SessionEvent)
    (stage : StageRing) (connectedId : Option String) :
    session.SameParty (handleEvent event session stage connectedId).session ∧
      (handleEvent event session stage connectedId).session.peer = session.peer := by
  have hsealed (ty : FrameType) (builder : MapBuilder) (hencrypted : ty.isEncrypted) :
      session.SameParty (session.sealMap ty builder).2 ∧
        (session.sealMap ty builder).2.peer = session.peer := by
    have houtbound := session.outbound_sealMap ty builder hencrypted
    have hsession : (Session.returned (session.sealMap ty builder)).1 =
        (session.sealMap ty builder).2 := by
      generalize session.sealMap ty builder = result
      obtain ⟨failure | frame, later⟩ := result <;> rfl
    rw [← hsession, houtbound.unchanged]
    exact ⟨⟨rfl, rfl, rfl, rfl, fun _ ↦ ⟨rfl, rfl⟩⟩, rfl⟩
  cases event with
  | stageListRequested => exact hsealed _ _ rfl
  | stageItemRequested stageId =>
    unfold handleEvent
    dsimp only
    split
    · exact hsealed _ _ rfl
    · exact hsealed _ _ rfl
  | _ => exact ⟨.refl session, rfl⟩

/-- Handling an event reports only what is about the peer that has been met. -/
theorem Vouched.onEvent (h : task.Vouched) {event : SessionEvent} {rest : List SessionAction}
    (hphase : task.phase = .acting (.emit event :: rest)) (stage : StageRing) :
    (task.onEvent event stage rest).Vouched := by
  obtain ⟨hparty, hpeer⟩ := handleEvent_sameParty task.session event stage task.connectedId
  obtain ⟨hcoherent, hstate⟩ := handleEvent_session h.coherent event stage task.connectedId
  refine ⟨hcoherent, hparty.role.trans h.role, ?_⟩
  have hannounced : task.announced = establishedPeers (.emit event :: rest) := by
    rw [announced, hphase]
  obtain hsilent | ⟨key, hspeaks⟩ := h.met
  · have hpending := hsilent.pending _ hphase
    simp [emittedEvents] at hpending
  · have hbegun : (task.onEvent event stage rest).session.Begun :=
      hspeaks.begun.imp hstate.trans hstate.trans
    refine .inr ⟨key, hspeaks.continues hpeer hbegun ?_ ?_ ?_⟩
    · intro reported hmem
      refine (List.mem_append.mp hmem).imp_right fun hnew ↦ ?_
      cases event with
      | established peer =>
        cases List.mem_singleton.mp hnew
        exact congrArg DeviceId.hex (hspeaks.pending peer (hannounced ▸ List.mem_cons_self))
      | clipArrived =>
        cases List.mem_singleton.mp hnew
        trivial
      | _ => cases hnew
    · intro id hmem
      cases event with
      | established peer =>
        cases hmem
        exact .inr (congrArg DeviceId.hex (hspeaks.pending peer (hannounced ▸ List.mem_cons_self)))
      | _ => exact .inl hmem
    · intro peer hmem
      rw [hannounced]
      change peer ∈ establishedPeers rest at hmem
      cases event with
      | established other => exact List.mem_cons_of_mem _ hmem
      | _ => exact hmem

omit [Ciborium] in
/-- The rest of the batch, or the end of the loop. -/
theorem Vouched.settles (h : task.Vouched) (hsession : task'.session = task.session)
    (hevents : ∀ event ∈ task'.events, event ∈ task.events ∨
      ∃ id ∈ task.connectedId, event = .peerDisconnected id)
    (hid : ∀ id ∈ task'.connectedId, id ∈ task.connectedId)
    (hphase : ∀ actions, task'.phase = .acting actions →
      ∃ before, task.phase = .acting (before ++ actions)) : task'.Vouched := by
  refine ⟨hsession ▸ h.coherent, hsession ▸ h.role, ?_⟩
  obtain hsilent | ⟨key, hspeaks⟩ := h.met
  · refine .inl ⟨hsession ▸ hsilent.state, ?_, ?_, fun actions hacting ↦ ?_⟩
    · refine List.eq_nil_iff_forall_not_mem.mpr fun event hmem ↦ ?_
      obtain hold | ⟨id, hconnected, -⟩ := hevents event hmem
      · rw [hsilent.events] at hold
        cases hold
      · rw [hsilent.connectedId] at hconnected
        cases hconnected
    · refine Option.eq_none_iff_forall_not_mem.mpr fun id hmem ↦ ?_
      have hconnected := hid id hmem
      rw [hsilent.connectedId] at hconnected
      cases hconnected
    · obtain ⟨before, hbefore⟩ := hphase actions hacting
      have hpending := hsilent.pending _ hbefore
      rw [emittedEvents, List.filterMap_append] at hpending
      exact (List.append_eq_nil_iff.mp hpending).2
  · refine .inr ⟨key, hspeaks.settles hsession hevents hid fun peer hmem ↦ ?_⟩
    cases hacting : task'.phase with
    | acting actions =>
      rw [announced, hacting] at hmem
      obtain ⟨before, hbefore⟩ := hphase actions hacting
      rw [announced, hbefore]
      change peer ∈ (emittedEvents (before ++ actions)).filterMap _
      rw [emittedEvents, List.filterMap_append, List.filterMap_append]
      exact List.mem_append_right _ hmem
    | _ =>
      rw [announced, hacting] at hmem
      cases hmem

omit [Ciborium] in
theorem Vouched.note (h : task.Vouched) (entry : DriverEntry) : (task.note entry).Vouched :=
  h.settles rfl (fun _ ↦ .inl) (fun _ ↦ id) fun _ hacting ↦ ⟨[], hacting⟩

omit [Ciborium] in
theorem Vouched.leave (h : task.Vouched) (ok : Bool) : (task.leave ok).Vouched :=
  h.settles rfl (fun _ ↦ .inl) (fun _ ↦ id) nofun

omit [Ciborium] in
theorem Vouched.disconnect (h : task.Vouched) : task.disconnect.Vouched := by
  refine h.settles rfl (fun event hmem ↦ (List.mem_append.mp hmem).imp_right fun hnew ↦ ?_) nofun nofun
  obtain ⟨id, hconnected, rfl⟩ := Option.map_eq_some_iff.mp (Option.mem_toList.mp hnew)
  exact ⟨id, hconnected, rfl⟩

omit [Ciborium] in
theorem Vouched.rest (h : task.Vouched) {action : SessionAction} {rest : List SessionAction}
    (hphase : task.phase = .acting (action :: rest)) :
    SessionTask.Vouched { task with phase := .acting rest } := by
  refine h.settles rfl (fun _ ↦ .inl) (fun _ ↦ id) fun actions hacting ↦ ⟨[action], ?_⟩
  cases hacting
  exact hphase

theorem Vouched.step (h : task.Vouched) (input : Input) : (task.step input).Vouched := by
  have hstepped := task.step_cases input
  generalize task.step input = task' at hstepped
  cases hstepped with
  | still => exact h
  | called => exact h.onFrame _ _ _ _
  | sent hphase => exact (h.rest hphase).note _
  | handled hphase => exact h.onEvent hphase _
  | answered hphase => exact (h.onEvent hphase _).note _
  | closed => exact (h.note _).disconnect
  | @received frame =>
    have hreceived : Vouched { task with phase := .received frame } :=
      h.settles rfl (fun _ ↦ .inl) (fun _ ↦ id) nofun
    exact hreceived.note _
  | ended => exact (h.note _).disconnect
  | failed => exact (h.note _).leave _
  | unsent hphase => exact (h.rest hphase).leave _
  | unbuilt hphase | unanswered hphase => exact (h.onEvent hphase _).leave _

/-- No step changes who the session is and whom it knows. -/
theorem Vouched.sameParty (h : task.Vouched) (input : Input) :
    task.session.SameParty (task.step input).session := by
  have hstepped := task.step_cases input
  generalize task.step input = task' at hstepped
  cases hstepped with
  | @called frame paused nowMs seed =>
    have hcoherent : (task.session.setPaused paused).Coherent := h.coherent.perform (.setPaused paused)
    have hparty := (Session.onFrame_cases hcoherent frame nowMs seed).sameParty hcoherent
    exact ⟨hparty.role, hparty.identity, hparty.knownPeers, hparty.ephPkI, hparty.phone⟩
  | handled | answered | unbuilt | unanswered => exact (handleEvent_sameParty _ _ _ _).1
  | still | sent | closed | received | ended | failed | unsent => exact .refl _

/-- A step meets a peer only by a call with its HELLO. -/
theorem Vouched.step_peer (h : task.Vouched) {input : Input}
    (hpeer : (task.step input).session.peer = some key) :
    task.session.peer = some key ∨
      ∃ paused nowMs seed, input = .onFrame paused nowMs seed ∧ task.Greeting nowMs key := by
  have hstepped := task.step_cases input
  generalize task.step input = task' at hstepped hpeer
  cases hstepped with
  | @called frame paused nowMs seed hphase =>
    have hcoherent : (task.session.setPaused paused).Coherent := h.coherent.perform (.setPaused paused)
    change ((task.session.setPaused paused).onFrame frame nowMs seed).1.peer = _ at hpeer
    obtain hsame | ⟨peer, hmet, hstate, hknown, hhello⟩ :=
      reception_peer (Session.onFrame_cases hcoherent frame nowMs seed) hcoherent h.role
    · exact .inl (hsame.symm.trans hpeer)
    · cases hmet.symm.trans hpeer
      exact .inr ⟨paused, nowMs, seed, rfl, hstate, hknown, frame, hphase, hhello⟩
  | handled | answered | unbuilt | unanswered =>
    exact .inl ((handleEvent_sameParty _ _ _ _).2.symm.trans hpeer)
  | still | sent | closed | received | ended | failed | unsent => exact .inl hpeer

end SessionTask

/-! ## The agent -/

namespace RunningAgent

variable [TextCodecs] {Ip C : Type} [DecidableEq Ip] [DecidableEq C]

/-- Every session knows only the peers of trusted records, and speaks only of one it has met. -/
structure Trusting (stored : List PairingRecord) (running : RunningAgent Ip C) : Prop where
  agent : running.toAgent.OnlyTrusted stored
  vouched : ∀ {c task}, running.connections c = .session task → task.Vouched
  identity : ∀ {c task}, running.connections c = .session task →
    task.session.identity = running.identity
  known : ∀ {c task}, running.connections c = .session task → ∀ key ∈ task.session.knownPeers,
    ∃ record, running.toAgent.Trusts stored record ∧ record.peerKey = .ok key

omit [DecidableEq Ip] in
/-- No call of a machine is forgotten. -/
theorem Stepped.handled {running running' : RunningAgent Ip C} (h : running.Stepped running') :
    running.handled ⊆ running'.handled := by
  cases h with
  | quiet hagent | pumped _ hagent => rw [hagent]; exact List.Subset.refl _
  | entered | driven => exact List.Subset.refl _
  | paired input hagent =>
    rw [hagent]
    have hstepped := running.toAgent.step_cases input
    generalize running.toAgent.step input = agent' at hstepped
    cases hstepped with
    | still hsame | moved hsame => exact hsame.handled ▸ List.Subset.refl _
    | called => exact List.subset_append_left _ _
    | saved _ _ hhandled => exact hhandled ▸ List.Subset.refl _

omit [DecidableEq Ip] in
theorem Stepped.identity {running running' : RunningAgent Ip C} (h : running.Stepped running') :
    running'.identity = running.identity := by
  cases h with
  | quiet hagent | pumped _ hagent => rw [hagent]
  | entered | driven => rfl
  | paired input hagent => rw [hagent, running.toAgent.step_identity]

omit [DecidableEq Ip] in
theorem Trusting.step {stored : List PairingRecord} {running running' : RunningAgent Ip C}
    (h : running.Trusting stored) (hstepped : running.Stepped running') : running'.Trusting stored where
  agent := by
    cases hstepped with
    | quiet hagent | pumped _ hagent => exact hagent ▸ h.agent
    | paired input hagent => exact hagent ▸ h.agent.step input
    | entered | driven => exact ⟨h.agent.peers, h.agent.keystore, h.agent.tasks⟩
  vouched hsession := by
    cases hstepped.session hsession with
    | same hbefore => exact h.vouched hbefore
    | opened nowMs hbefore htask => exact htask ▸ SessionTask.vouched_start ..
    | @stepped task' input hbefore hoffers htask => exact htask ▸ (h.vouched hbefore).step input
  identity hsession := by
    rw [hstepped.identity]
    cases hstepped.session hsession with
    | same hbefore => exact h.identity hbefore
    | opened nowMs hbefore htask =>
      rw [htask]
      rfl
    | @stepped task' input hbefore hoffers htask =>
      rw [htask, ((h.vouched hbefore).sameParty input).identity, h.identity hbefore]
  known hsession key hmem := by
    have hmono {record : PairingRecord} (htrusts : running.toAgent.Trusts stored record) :
        running'.toAgent.Trusts stored record := htrusts.mono hstepped.handled
    have hknown : ∃ record, running.toAgent.Trusts stored record ∧ record.peerKey = .ok key := by
      cases hstepped.session hsession with
      | same hbefore => exact h.known hbefore key hmem
      | opened nowMs hbefore htask =>
        rw [htask] at hmem
        obtain ⟨record, hpeer, hkey⟩ := List.mem_filterMap.mp hmem
        refine ⟨record, h.agent.peers record hpeer, ?_⟩
        cases hread : record.peerKey with
        | error failure =>
          rw [hread] at hkey
          cases hkey
        | ok other =>
          rw [hread] at hkey
          cases hkey
          rfl
      | @stepped task' input hbefore hoffers htask =>
        rw [htask, ((h.vouched hbefore).sameParty input).knownPeers] at hmem
        exact h.known hbefore key hmem
    exact hknown.imp fun record hrecord ↦ ⟨hmono hrecord.1, hrecord.2⟩

omit [DecidableEq Ip] [DecidableEq C] in
theorem trusting_start (identity : IdentityKeypair) (displayName : String)
    (stored : List PairingRecord) :
    (start identity displayName stored : RunningAgent Ip C).Trusting stored :=
  ⟨Agent.onlyTrusted_start identity displayName stored, nofun, nofun, nofun⟩

/-- This call opens the session of the agent on a connection: the frame it has received is the authentic
HELLO of a peer, under the key in a trusted record. -/
def OpensFor (identity : IdentityKeypair) (stored : List PairingRecord) (running : RunningAgent Ip C)
    (c : C) (nowMs : UInt64) (seed : Option Key32) (key : PeerKey) : Prop :=
  ∃ task opened record, running.connections c = .session task ∧ task.session.identity = identity ∧
    task.Greeting nowMs key ∧ record.peerKey = .ok key ∧ running.toAgent.Trusts stored record ∧
    (running.step (.onFrame c nowMs seed)).connections c = .session opened ∧
    opened.session.peer = some key

omit [DecidableEq Ip] [DecidableEq C] in
/-- The key of a peer that a session greets is in a trusted record. -/
theorem Trusting.greets {stored : List PairingRecord} {running : RunningAgent Ip C}
    (h : running.Trusting stored) {c : C} {task : SessionTask}
    (hconnection : running.connections c = .session task) {nowMs : UInt64} {key : PeerKey}
    (hgreeting : task.Greeting nowMs key) :
    ∃ record, running.toAgent.Trusts stored record ∧ record.peerKey = .ok key := by
  obtain ⟨-, earlier, later, hknown, -⟩ := hgreeting.known
  refine h.known hconnection key ?_
  rw [hknown]
  exact List.mem_append_right _ List.mem_cons_self

theorem trusting_run (identity : IdentityKeypair) (displayName : String) (stored : List PairingRecord)
    (inputs : List (Input Ip C)) : ((start identity displayName stored).run inputs).Trusting stored :=
  run_invariant (fun _ _ hstepped h ↦ h.step hstepped) (trusting_start identity displayName stored)
    inputs

omit [DecidableEq Ip] [Ciborium] [TextCodecs] in
theorem forSession_onFrame {running : RunningAgent Ip C} {c : C} {input : Input Ip C} {paused : Bool}
    {nowMs : UInt64} {seed : Option Key32}
    (h : input.forSession running c = some (.onFrame paused nowMs seed)) :
    input = .onFrame c nowMs seed := by
  cases input with
  | onFrame d =>
    rw [Input.forSession] at h
    split_ifs at h with hd
    obtain ⟨_, _, hown⟩ := Option.map_eq_some_iff.mp h
    cases hown
    rw [hd]
  | act | next =>
    rw [Input.forSession] at h
    split_ifs at h
    cases h
  | _ => cases h

/-- A session that has a peer has been opened for it in the course of the run. -/
theorem opened_run (identity : IdentityKeypair) (displayName : String) (stored : List PairingRecord)
    (inputs : List (Input Ip C)) {c : C} {task : SessionTask} {key : PeerKey}
    (hconnection : ((start identity displayName stored).run inputs).connections c = .session task)
    (hpeer : task.session.peer = some key) :
    ∃ before nowMs seed after, inputs = before ++ .onFrame c nowMs seed :: after ∧
      ((start identity displayName stored).run before).OpensFor identity stored c nowMs seed key := by
  induction inputs using List.reverseRecOn generalizing task with
  | nil => cases hconnection
  | append_singleton inputs input ih =>
    have hearlier {task : SessionTask}
        (hbefore : ((start identity displayName stored).run inputs).connections c = .session task)
        (hpeer : task.session.peer = some key) :
        ∃ before nowMs seed after, inputs ++ [input] = before ++ .onFrame c nowMs seed :: after ∧
          ((start identity displayName stored).run before).OpensFor identity stored c nowMs seed key := by
      obtain ⟨before, nowMs, seed, after, rfl, hopens⟩ := ih hbefore hpeer
      exact ⟨before, nowMs, seed, after ++ [input], by simp, hopens⟩
    have hstep : (start identity displayName stored : RunningAgent Ip C).run (inputs ++ [input]) =
        ((start identity displayName stored).run inputs).step input := List.foldl_append
    have htrusting : ((start identity displayName stored).run inputs).Trusting stored :=
      trusting_run identity displayName stored inputs
    rw [hstep] at hconnection
    cases (RunningAgent.step_cases _ input).session hconnection with
    | same hbefore => exact hearlier hbefore hpeer
    | opened nowMs hbefore htask =>
      rw [htask] at hpeer
      cases hpeer
    | @stepped task' _ hbefore =>
      have hgoes := step_session hbefore input
      cases hfor : input.forSession ((start identity displayName stored).run inputs) c with
      | none =>
        rw [hfor] at hgoes
        cases hconnection.symm.trans hgoes
        exact hearlier hbefore hpeer
      | some own =>
        rw [hfor] at hgoes
        cases hconnection.symm.trans hgoes
        obtain hmet | ⟨paused, nowMs, seed, rfl, hgreeting⟩ := (htrusting.vouched hbefore).step_peer hpeer
        · exact hearlier hbefore hmet
        · have hidentity := htrusting.identity hbefore
          rw [run_identity] at hidentity
          obtain ⟨record, htrusts, hkey⟩ := htrusting.greets hbefore hgreeting
          cases forSession_onFrame hfor
          exact ⟨inputs, nowMs, seed, [], rfl, task', _, record, hbefore, hidentity, hgreeting, hkey,
            htrusts, hconnection, hpeer⟩

/-- Whatever arrives on any connections: every connect, disconnect and clip that the agent reports, and so
every text it hands to the clipboard, comes from a session which has been opened in the run by the HELLO of
its peer.  That HELLO is the frame the session was called with, it was authentic at the clock of that call,
and its MAC was under the key in a record that had been stored at the start or that a pairing had been
confirmed for. -/
theorem sessions_of_trusted_peers (identity : IdentityKeypair) (displayName : String)
    (stored : List PairingRecord) (inputs : List (Input Ip C)) :
    ∀ event ∈ ((start identity displayName stored).run inputs).events, event.ofSession →
      ∃ c task key, ((start identity displayName stored).run inputs).connections c = .session task ∧
        event ∈ task.events ∧ event.IsOf key ∧ task.session.peer = some key ∧
        ∃ before nowMs seed after, inputs = before ++ .onFrame c nowMs seed :: after ∧
          ((start identity displayName stored).run before).OpensFor identity stored c nowMs seed key := by
  intro event hmem hsession
  have hchannel : ((start identity displayName stored).run inputs).Channelled :=
    run_invariant (fun _ _ hstepped h ↦ h.step hstepped) (channelled_start identity displayName stored)
      inputs
  have htrusting : ((start identity displayName stored).run inputs).Trusting stored :=
    trusting_run identity displayName stored inputs
  obtain ⟨c, hemitted⟩ := hchannel.merge.mem_iff.mp (List.mem_filter.mpr ⟨hmem, hsession⟩)
  cases hconnection : ((start identity displayName stored).run inputs).connections c with
  | session task =>
    rw [hconnection] at hemitted
    change event ∈ task.events at hemitted
    obtain hsilent | ⟨key, hspeaks⟩ := (htrusting.vouched hconnection).met
    · rw [hsilent.events] at hemitted
      cases hemitted
    · exact ⟨c, task, key, hconnection, hemitted, hspeaks.events event hemitted, hspeaks.peer,
        opened_run identity displayName stored inputs hconnection hspeaks.peer⟩
  | _ =>
    rw [hconnection] at hemitted
    cases hemitted

end RunningAgent

end Sessions

open Reference in
/-- The phone that is reported as connected has been paired with before. -/
theorem sessions_of_trusted_peers_stored :
    .peerConnected phoneIdentity.deviceId.hex ∈
        ((RunningAgent.start pcIdentity "PC" storedPairings).run phoneConnects).events ∧
      ∃ c task key,
        ((RunningAgent.start pcIdentity "PC" storedPairings).run phoneConnects).connections c =
          .session task ∧
        .peerConnected phoneIdentity.deviceId.hex ∈ task.events ∧
        (AgentEvent.peerConnected phoneIdentity.deviceId.hex).IsOf key ∧ task.session.peer = some key ∧
        ∃ before nowMs seed after, phoneConnects = before ++ .onFrame c nowMs seed :: after ∧
          ((RunningAgent.start pcIdentity "PC" storedPairings).run before).OpensFor pcIdentity
            storedPairings c nowMs seed key :=
  have hreported : .peerConnected phoneIdentity.deviceId.hex ∈
      ((RunningAgent.start pcIdentity "PC" storedPairings).run phoneConnects).events := by decide +kernel
  ⟨hreported, RunningAgent.sessions_of_trusted_peers pcIdentity "PC" storedPairings phoneConnects _
    hreported rfl⟩

end AirClip
