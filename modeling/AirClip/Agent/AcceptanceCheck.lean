import AirClip.Agent.PairingProgress
import AirClip.Agent.VisitProgress

/-!
# The acceptance check succeeds

A check that is left alone never fails, whatever the order in which the agent, the network and the
simulated peer take their steps: it can always go on, and when it is complete, both sides have paired, the
beamed clip has arrived, and the transcript shows what is staged.
-/

open Foundation

namespace AirClip

section Success

variable [Primitives] {Ip C : Type} [DecidableEq Ip] [DecidableEq C] [Ciborium] [TextCodecs]

/-! ## The agent before a check -/

namespace Agent

/-- A task moves by its own inputs alone. -/
theorem step_tasks_of_ne (agent : Agent C) {c d : C} (hne : d ≠ c) {input : Agent.Input C}
    (hinput : input = .readOffer c ∨ (∃ frame, input = .firstFrame c frame) ∨
      (∃ nowMs seed, input = .onFrame c nowMs seed) ∨
      (∃ loads works, input = .act c loads works) ∨ ∃ frame, input = .nextFrame c frame) :
    (agent.step input).tasks d = agent.tasks d := by
  have hset (task : Task) : Function.update agent.tasks c task d = agent.tasks d :=
    Function.update_of_ne hne ..
  obtain rfl | ⟨frame, rfl⟩ | ⟨nowMs, seed, rfl⟩ | ⟨loads, works, rfl⟩ | ⟨frame, rfl⟩ := hinput
  · rw [step]
    split
    · exact hset _
    · exact hset _
    · rfl
  · rw [step]
    split
    · exact hset _
    · rfl
  · rw [step]
    split
    · exact hset _
    · rfl
  · rw [step]
    split
    · next action rest _ =>
      cases action with
      | send | completed => cases works <;> exact hset _
      | showSas | failed => exact hset _
    · exact hset _
    · exact hset _
    · rfl
  · rw [step]
    unfold receive
    split
    · exact hset _
    · exact hset _
    · rfl

/-- The offer of an open window names a host. -/
def Offers (agent : Agent C) : Prop :=
  ∀ window offer, agent.pairing = some (window, offer) → offer.hosts ≠ []

theorem Offers.step {agent : Agent C} (h : agent.Offers) (input : Agent.Input C) :
    (agent.step input).Offers := by
  by_cases hopens : ∃ token hosts nowMs, input = .openPairingWindow token hosts nowMs
  · obtain ⟨token, hosts, nowMs, rfl⟩ := hopens
    change (agent.openPairingWindow token hosts nowMs).Offers
    unfold openPairingWindow
    split
    · exact h
    · split_ifs with hhosts
      · exact h
      · rintro window offer ⟨⟩ hempty
        exact hhosts (List.isEmpty_iff.mpr hempty)
  · intro window offer hpairing
    obtain hsame | hnone :=
      (agent.step_slot input fun token hosts nowMs h ↦ hopens ⟨token, hosts, nowMs, h⟩).2
    · exact h window offer (hsame.symm.trans hpairing)
    · cases hnone.symm.trans hpairing

end Agent

namespace RunningAgent

/-- A connection that pairs with nobody has handed nothing to a pairing exchange. -/
def Unpaired (running : RunningAgent Ip C) : Prop :=
  ∀ c, running.connections c ≠ .pairing → running.tasks c = .accepted

omit [DecidableEq Ip] [Ciborium] [TextCodecs] in
theorem Unpaired.setConnection {running : RunningAgent Ip C} (h : running.Unpaired) {c : C}
    {connection : ConnectionTask} (hbefore : running.connections c ≠ .pairing) :
    (running.setConnection c connection).Unpaired := by
  intro d hd
  obtain rfl | hne := eq_or_ne d c
  · exact h d hbefore
  · rw [running.setConnection_of_ne hne] at hd
    exact h d hd

omit [DecidableEq Ip] in
theorem Unpaired.pair {running : RunningAgent Ip C} (h : running.Unpaired) {c : C}
    (hpairing : running.connections c = .pairing) {exchange : Agent.Input C}
    (hexchange : ∀ d, d ≠ c → (running.toAgent.step exchange).tasks d = running.tasks d) :
    (running.pair exchange).Unpaired := by
  intro d hd
  have hne : d ≠ c := fun heq ↦ hd (heq ▸ hpairing)
  exact (hexchange d hne).trans (h d hd)

theorem Unpaired.step {running : RunningAgent Ip C} (h : running.Unpaired) (input : Input Ip C) :
    (running.step input).Unpaired := by
  have hdrive {c : C} {task : SessionTask} (hconnection : running.connections c = .session task)
      (exchange : SessionTask.Input) : (running.drive c task exchange).Unpaired := by
    have hset : (running.setConnection c (.session (task.step exchange))).Unpaired :=
      h.setConnection (by rw [hconnection]; simp)
    exact hset
  cases input with
  | openPairing token hosts nowMs =>
    change (running.openPairing token hosts nowMs).Unpaired
    unfold openPairing
    split
    · exact h
    · next token =>
      split_ifs with hhosts
      · exact h
      · have htasks : (running.toAgent.openPairingWindow (some token) hosts nowMs).tasks =
            running.tasks := by
          rw [Agent.openPairingWindow, if_neg hhosts]
        exact fun c hc ↦ (congrFun htasks c).trans (h c hc)
  | setPaused | copy => exact h
  | accept c attempt =>
    rw [RunningAgent.step]
    split
    · next hconnection => exact h.setConnection (by rw [hconnection]; simp)
    · exact h
  | firstFrame c inbound =>
    rw [RunningAgent.step]
    split
    · next hconnection =>
      have hbefore : running.connections c ≠ .pairing := by rw [hconnection]; simp
      unfold dispatch
      split
      · next first =>
        split
        · intro d hd
          obtain rfl | hne := eq_or_ne d c
          · exact absurd ((running.pair (.firstFrame d first)).setConnection_self d .pairing) hd
          · rw [setConnection_of_ne _ hne] at hd
            exact (running.toAgent.step_tasks_of_ne hne (.inr (.inl ⟨first, rfl⟩))).trans (h d hd)
        · exact h.setConnection hbefore
        · exact h.setConnection hbefore
      · exact h.setConnection hbefore
      · exact h.setConnection hbefore
    · exact h
  | enter c nowMs =>
    rw [RunningAgent.step]
    split
    · next hconnection =>
      exact h.pair hconnection fun d hne ↦ running.toAgent.step_tasks_of_ne hne (.inl rfl)
    · next hconnection => exact h.setConnection (by rw [hconnection]; simp)
    · exact h
  | readPaused c =>
    rw [RunningAgent.step]
    split
    · unfold readPaused
      split <;> exact h
    · exact h
  | onFrame c nowMs seed =>
    rw [RunningAgent.step]
    split
    · next hconnection =>
      exact h.pair hconnection fun d hne ↦
        running.toAgent.step_tasks_of_ne hne (.inr (.inr (.inl ⟨_, _, rfl⟩)))
    · next hconnection =>
      unfold call
      split
      · next paused _ => exact hdrive hconnection (.onFrame paused nowMs seed)
      · exact h
    · exact h
  | act c loads works =>
    rw [RunningAgent.step]
    split
    · next hconnection =>
      exact h.pair hconnection fun d hne ↦
        running.toAgent.step_tasks_of_ne hne (.inr (.inr (.inr (.inl ⟨_, _, rfl⟩))))
    · next hconnection => exact hdrive hconnection _
    · exact h
  | next c inbound =>
    rw [RunningAgent.step]
    split
    · next hconnection =>
      exact h.pair hconnection fun d hne ↦
        running.toAgent.step_tasks_of_ne hne (.inr (.inr (.inr (.inr ⟨_, rfl⟩))))
    · next hconnection => exact hdrive hconnection _
    · exact h
  | pump =>
    change running.pump.Unpaired
    unfold pump
    split <;> exact h

/-- Only a local copy changes what is staged. -/
theorem step_stage (running : RunningAgent Ip C) (input : Input Ip C) :
    ∃ calls, (running.step input).stage = running.stage.performAll calls := by
  cases input with
  | copy offered => exact ⟨[.copy offered], rfl⟩
  | setPaused => exact ⟨[], rfl⟩
  | _ => exact ⟨[], congrArg AgentState.stage (running.step_state (by simp) (by simp))⟩

/-- What is staged has been copied. -/
theorem run_stage (identity : IdentityKeypair) (displayName : String) (stored : List PairingRecord)
    (inputs : List (Input Ip C)) : ∃ calls,
      ((start identity displayName stored : RunningAgent Ip C).run inputs).stage =
        StageRing.default.performAll calls := by
  refine foldl_invariant
    (P := fun running : RunningAgent Ip C ↦ ∃ calls, running.stage = StageRing.default.performAll calls)
    ?_ ⟨[], rfl⟩
  rintro running input - ⟨calls, hstage⟩
  obtain ⟨later, hlater⟩ := running.step_stage input
  refine ⟨calls ++ later, ?_⟩
  rw [hlater, hstage]
  exact List.foldl_append.symm

end RunningAgent

/-! ## The check -/

namespace Visit

variable (visit : Visit Ip C)

/-- The agent that the check meets: it is not paused, it shows the code of an open window, with hosts that
are not empty and have no commas, to a phone it does not know, nobody else is pairing, and the limiter lets
the two connections in. -/
structure Met (running : RunningAgent Ip C) : Prop where
  identity : running.identity = visit.pc
  displayName : running.displayName = visit.pcName
  offer : running.toAgent.pairing = some (visit.window, visit.offer)
  hosts : ∀ host ∈ visit.offer.hosts, host ≠ "" ∧ ',' ∉ host.toList
  unpaused : running.paused = false
  peers : visit.Stranger running.peers
  keystore : visit.Stranger running.keystore
  fresh : running.connections visit.pairing = .absent ∧ running.connections visit.session = .absent
  alone : ∀ c, running.connections c = .pairing → running.tasks c = .ended
  admitted : (running.limiter.allow visit.ip visit.pairingMs).1 = true ∧
    ((running.limiter.allow visit.ip visit.pairingMs).2.allow visit.ip visit.sessionMs).1 = true

/-- Both sides have paired and have shown the same emoji, the beamed clip has arrived, and the transcript
shows what was staged. -/
structure Succeeded (stage : StageRing) (world : Acceptance Ip C) : Prop where
  sas : ∃ sas, world.peer.transcript.sas = some sas ∧ .pairingSas sas ∈ world.running.events
  record : ∃ nowMs, world.peer.transcript.record =
    some (.new visit.pc.deviceId visit.pc.publicBytes visit.pcName nowMs)
  introduced : visit.Introduced world.running.peers
  clip : simulatedClip ∈ world.running.events
  items : world.peer.transcript.items = some stage.list
  body : ∀ first ∈ stage.list.head?,
    world.peer.transcript.body = (stage.get first.stageId).map StagedClip.body

variable {visit}

omit [DecidableEq C] in
/-- The check begins. -/
theorem Met.start [Ciborium.Lawful] [TextCodecs.Lawful] {running : RunningAgent Ip C}
    (h : visit.Met running) (hoffers : running.toAgent.Offers) :
    Acceptance.start running visit.url (some visit.idSeed) (some visit.phoneSeed) true true = .ok
      ⟨running, ⟨visit.phone, ⟨none, none, none, none⟩, .pairAck visit.fsm⟩, ⟨[visit.req], []⟩,
        ⟨[], []⟩⟩ := by
  have hname : (utf8 simulatedName).length < 2 ^ 64 := by decide +kernel
  obtain ⟨hparse, hstart⟩ := PhonePairing.starts visit.pc visit.phone visit.pcName hname h.hosts
    visit.offer.token visit.offer.issuedMs visit.phoneSeed
  have hurl : QrPayload.parse visit.url = .ok visit.machine.qrPayload := hparse
  have hreq : PhonePairing.start visit.phone simulatedName visit.machine.qrPayload
      (some visit.phoneSeed) = .ok (visit.fsm, visit.req) := hstart
  have hidentity : Keypair.generate (some visit.idSeed) = .ok visit.phone := rfl
  obtain ⟨host, hosts, hcons⟩ := List.exists_cons_of_ne_nil (hoffers _ _ h.offer)
  have hhosts : visit.machine.qrPayload.hosts = host :: hosts := hcons
  rw [Acceptance.start, SimulatedPeer.start, hurl]
  dsimp only
  rw [hidentity]
  dsimp only
  rw [hhosts]
  dsimp only
  rw [hreq]
  rfl

omit [DecidableEq C] in
/-- Where the check begins. -/
theorem Met.underway {running : RunningAgent Ip C} (h : visit.Met running) {calls : List StageCall}
    (hunpaired : running.Unpaired) (hflagged : running.Flagged)
    (hstage : running.stage = StageRing.default.performAll calls) :
    visit.Underway calls (⟨running, ⟨visit.phone, ⟨none, none, none, none⟩, .pairAck visit.fsm⟩,
      ⟨[visit.req], []⟩, ⟨[], []⟩⟩ : Acceptance Ip C) where
  desk := by
    refine ⟨h.identity, h.displayName, h.unpaused, fun hflag ↦ ?_, hstage, fun c _ ↦ h.alone c⟩
    obtain ⟨task, -, hsession, -⟩ := hflagged visit.session true hflag
    cases h.fresh.2.symm.trans hsession
  admitted := ⟨fun _ ↦ h.admitted, fun hpresent ↦ absurd h.fresh.1 hpresent⟩
  identity := rfl
  first := .asked rfl (.inl h.fresh.1) (hunpaired _ (by rw [h.fresh.1]; simp)) rfl h.offer h.peers
    h.keystore
  second := .apart rfl h.fresh.2 (.inl ⟨_, rfl⟩)
  known := fun task hsession ↦ by cases h.fresh.2.symm.trans hsession

omit [DecidableEq C] in
/-- A check that is under way has not failed, and if it is complete, it has succeeded. -/
theorem Underway.outcome [TextCodecs.Lawful] {calls : List StageCall} {world : Acceptance Ip C}
    (h : visit.Underway calls world) : (∀ why, world.peer.phase ≠ .failed why) ∧
      (world.peer.phase = .complete → visit.Succeeded (StageRing.default.performAll calls) world) := by
  cases h.second with
  | apart _ _ hphase =>
    obtain ⟨fsm, hphase⟩ | ⟨nowMs, hphase⟩ := hphase
    · exact ⟨by simp [hphase], by simp [hphase]⟩
    · exact ⟨by simp [hphase], by simp [hphase]⟩
  | @speaking connection hconnection hspeaking =>
    refine ⟨fun why hfailed ↦ ?_, fun hcomplete ↦ ?_⟩
    · obtain ⟨ty, hawaited, -⟩ | ⟨hshown, -⟩ := hspeaking.waits
      · rw [SimulatedPeer.awaited, hfailed] at hawaited
        cases hawaited
      · cases hfailed.symm.trans hshown.phase
    · obtain ⟨hshown, task, rfl⟩ := hspeaking.shown hcomplete
      obtain ⟨pairedMs, hmem, -⟩ := h.known task hconnection
      obtain ⟨-, sas, hpast, hsas⟩ := (h.first.confirmed hspeaking.phase_ne).2.introduced
        ⟨_, hmem, HonestDevices.peerKey_new ..⟩
      rw [h.desk.stage] at hshown
      exact ⟨⟨sas, hpast.sas, hsas⟩, hpast.record, h.known task hconnection, hshown.clip,
        hshown.items, hshown.body⟩

end Visit

end Success

namespace Reference

/-- The user has copied a text, and opens a pairing window. -/
def copiedThenOpened : List (RunningAgent.Input Unit Bool) :=
  [.copy ⟨.text, utf8 "https://", 0, some (pad 8 [1])⟩,
    .openPairing (some (pad 16 [5])) ["192.168.1.20"] 0]

/-- A check that takes less than two minutes. -/
def quickVisit : Visit Unit Bool where
  pairing := false
  session := true
  ne := by decide
  idSeed := pad 32 [3]
  phoneSeed := pad 32 [4]
  pc := pcIdentity
  pcName := "PC"
  window := 0
  offer := ⟨pad 16 [5], 0, ["192.168.1.20"]⟩
  ip := ()
  pairingMs := 0
  sessionMs := 0
  earliest := 0
  latest := 120000
  ordered := by decide
  brief := by decide
  alive := by decide

/-- The agent shows the code of its window to a phone that it has never seen. -/
theorem met_quickVisit :
    quickVisit.Met ((RunningAgent.start pcIdentity "PC" []).run copiedThenOpened) where
  identity := rfl
  displayName := rfl
  offer := rfl
  hosts := by decide
  unpaused := rfl
  peers := nofun
  keystore := nofun
  fresh := ⟨rfl, rfl⟩
  alone := by
    intro c hpairing
    have habsent : ((RunningAgent.start pcIdentity "PC" [] : RunningAgent Unit Bool).run
      copiedThenOpened).connections c = .absent := rfl
    cases habsent.symm.trans hpairing
  admitted := by decide

end Reference

end AirClip
