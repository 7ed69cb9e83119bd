import AirClip.Agent.TrustedPeers

/-!
# What the pairing window shows

The window mirrors the events of all pairing exchanges, in the order of the channel.  It never shows
anything that has not happened: a comparison of emoji only for a request under the right token, a success
only for a record on disk, and while an offer is open no link but that of this offer.
-/

open Foundation

namespace AirClip

section Progress

variable [Primitives] [Ciborium] [TextCodecs]

namespace Agent

variable {C : Type}

/-- A machine has asked for this action. -/
def Asked (agent : Agent C) (action : PairingAction) : Prop := ∃ call ∈ agent.handled, action ∈ call.actions

/-- The record is on disk, or has been. -/
def Saved (agent : Agent C) (record : PairingRecord) : Prop := record ∈ agent.persisted.map Prod.snd

/-- What the task of a connection still has to do comes from its machine. -/
def TaskReports (agent : Agent C) : Task → Prop
  | .acting _ _ actions => ∀ action ∈ actions, agent.Asked action
  | .storing record _ | .closing record => agent.Saved record
  | .accepted | .handed _ | .received .. | .ended => True

/-- What an event reports has happened. -/
def Reports (agent : Agent C) : AgentEvent → Prop
  | .pairingSas emoji => agent.Asked (.showSas emoji)
  | .paired record => agent.Saved record
  | .pairingFailed reason => agent.Asked (.failed reason)
  | .peerConnected _ | .peerDisconnected _ | .clipArrived .. => True

/-- All that is reported has happened. -/
structure Truthful (agent : Agent C) : Prop where
  saved : ∀ record, agent.Saved record → agent.Asked (.completed record)
  events : ∀ event ∈ agent.events, agent.Reports event
  tasks : ∀ c, agent.TaskReports (agent.tasks c)

variable {agent agent' : Agent C}

/-- The history of an agent goes on. -/
structure Grows (agent agent' : Agent C) : Prop where
  handled : agent.handled ⊆ agent'.handled
  persisted : agent.persisted ⊆ agent'.persisted

omit [Ciborium] [TextCodecs] in
theorem Grows.same (hhandled : agent'.handled = agent.handled)
    (hpersisted : agent'.persisted = agent.persisted) : agent.Grows agent' :=
  ⟨hhandled ▸ List.Subset.refl _, hpersisted ▸ List.Subset.refl _⟩

theorem Asked.mono {action : PairingAction} (h : agent.Asked action) (hgrows : agent.Grows agent') :
    agent'.Asked action := by
  obtain ⟨call, hmem, hasked⟩ := h
  exact ⟨call, hgrows.handled hmem, hasked⟩

omit [Ciborium] [TextCodecs] in
theorem Saved.mono {record : PairingRecord} (h : agent.Saved record) (hgrows : agent.Grows agent') :
    agent'.Saved record := List.map_subset _ hgrows.persisted h

theorem TaskReports.mono {task : Task} (h : agent.TaskReports task) (hgrows : agent.Grows agent') :
    agent'.TaskReports task := by
  cases task with
  | acting => exact fun action hmem ↦ (h action hmem).mono hgrows
  | storing | closing => exact Saved.mono h hgrows
  | _ => trivial

theorem Reports.mono {event : AgentEvent} (h : agent.Reports event) (hgrows : agent.Grows agent') :
    agent'.Reports event := by
  cases event with
  | pairingSas | pairingFailed => exact Asked.mono h hgrows
  | paired => exact Saved.mono h hgrows
  | _ => trivial

variable [DecidableEq C]

/-- A task moves, and reports what has happened. -/
theorem Truthful.moved (h : agent.Truthful) (agent' : Agent C) {c : C} (task : Task)
    (later : List AgentEvent)
    (hgrows : agent.Grows agent') (htasks : agent'.tasks = Function.update agent.tasks c task)
    (htask : agent'.TaskReports task) (hevents : agent'.events = agent.events ++ later)
    (hlater : ∀ event ∈ later, agent'.Reports event)
    (hsaved : ∀ record, agent'.Saved record →
      agent.Saved record ∨ agent'.Asked (.completed record)) : agent'.Truthful where
  saved record hrecord := (hsaved record hrecord).elim (fun hold ↦ (h.saved record hold).mono hgrows) id
  events event hmem := by
    rw [hevents] at hmem
    obtain hearlier | hnow := List.mem_append.mp hmem
    · exact (h.events event hearlier).mono hgrows
    · exact hlater event hnow
  tasks d := by
    rw [htasks]
    by_cases hd : d = c
    · rw [hd, Function.update_self]
      exact htask
    · rw [Function.update_of_ne hd]
      exact (h.tasks d).mono hgrows

/-- A task moves and nothing is reported. -/
theorem Truthful.setTask (h : agent.Truthful) (c : C) (task : Task) (htask : agent.TaskReports task) :
    (agent.setTask c task).Truthful :=
  h.moved (agent.setTask c task) task [] (.same rfl rfl) rfl (htask.mono (.same rfl rfl))
    (List.append_nil _).symm nofun fun _ ↦ .inl

theorem Truthful.carryOut (h : agent.Truthful) {c : C} {window : ℕ} {pairing : PcPairing}
    {action : PairingAction} {rest : List PairingAction}
    (htask : agent.tasks c = .acting window pairing (action :: rest)) (loads works : Bool) :
    (agent.carryOut c window pairing rest loads works action).Truthful := by
  have hall : agent.TaskReports (.acting window pairing (action :: rest)) := htask ▸ h.tasks c
  have hrest : agent.TaskReports (.acting window pairing rest) :=
    fun action hmem ↦ hall action (List.mem_cons_of_mem _ hmem)
  have hasked : agent.Asked action := hall action List.mem_cons_self
  have hended := h.setTask c .ended trivial
  cases action with
  | send frame =>
    cases works
    · exact hended
    · have hsent := h.setTask c _ hrest
      exact ⟨hsent.saved, hsent.events, hsent.tasks⟩
  | showSas emoji =>
    refine h.moved _ (.acting window pairing rest) [.pairingSas emoji] (.same rfl rfl) rfl
      hrest rfl (fun event hmem ↦ ?_) fun _ ↦ .inl
    cases List.mem_singleton.mp hmem
    exact hasked
  | failed reason =>
    refine h.moved _ .ended [.pairingFailed reason] (.same rfl rfl) rfl trivial rfl
      (fun event hmem ↦ ?_) fun _ ↦ .inl
    cases List.mem_singleton.mp hmem
    exact hasked
  | completed record =>
    cases works
    · exact hended
    · refine h.moved _ (.storing record _) []
        ⟨List.Subset.refl _, List.subset_append_left _ _⟩ rfl ?_ (List.append_nil _).symm nofun
        fun saved hsaved ↦ ?_
      · exact List.mem_map_of_mem (List.mem_append_right _ (List.mem_singleton_self (pairing, record)))
      · obtain ⟨entry, hentry, rfl⟩ := List.mem_map.mp hsaved
        obtain hearlier | hnow := List.mem_append.mp hentry
        · exact .inl (List.mem_map_of_mem hearlier)
        · cases List.mem_singleton.mp hnow
          exact .inr hasked

/-- Every step of a pairing exchange reports what has happened. -/
theorem Truthful.step (h : agent.Truthful) (input : Input C) : (agent.step input).Truthful := by
  cases input with
  | openPairingWindow token hosts nowMs =>
    change (agent.openPairingWindow token hosts nowMs).Truthful
    unfold openPairingWindow
    split
    · exact h
    · split
      · exact h
      · exact ⟨h.saved, h.events, h.tasks⟩
  | firstFrame c frame =>
    rw [Agent.step]
    split
    · apply h.setTask
      split <;> trivial
    · exact h
  | readOffer c =>
    rw [Agent.step]
    split
    · exact h.setTask c _ trivial
    · exact h.setTask c _ trivial
    · exact h
  | onFrame c nowMs seed =>
    rw [Agent.step]
    split
    · next window pairing frame htask =>
      refine h.moved (agent.handle c window pairing frame nowMs seed) (.acting ..) []
        ⟨List.subset_append_left _ _, List.Subset.refl _⟩ rfl (fun action hmem ↦ ?_)
        (List.append_nil _).symm (by simp) fun _ ↦ .inl
      exact ⟨_, List.mem_append_right _ List.mem_cons_self, hmem⟩
    · exact h
  | act c loads works =>
    rw [Agent.step]
    split
    · next htask => exact h.carryOut htask loads works
    · next record all htask =>
      have hsaved : agent.TaskReports (.storing record all) := htask ▸ h.tasks c
      exact h.moved _ (.closing record) [] (.same rfl rfl) rfl hsaved
        (List.append_nil _).symm (by simp) fun _ ↦ .inl
    · next record htask =>
      have hsaved : agent.TaskReports (.closing record) := htask ▸ h.tasks c
      refine h.moved _ .ended [.paired record] (.same rfl rfl) rfl trivial rfl
        (fun event hmem ↦ ?_) fun _ ↦ .inl
      cases List.mem_singleton.mp hmem
      exact hsaved
    · exact h
  | nextFrame c frame =>
    rw [Agent.step]
    unfold receive
    split
    · exact h.setTask c _ trivial
    · exact h.setTask c _ trivial
    · exact h

omit [DecidableEq C] in
theorem truthful_start (identity : IdentityKeypair) (displayName : String)
    (stored : List PairingRecord) : (start identity displayName stored : Agent C).Truthful :=
  ⟨nofun, nofun, fun _ ↦ trivial⟩

omit [DecidableEq C] in
theorem Reports.of_session {event : AgentEvent} (h : event.ofSession) : agent.Reports event := by
  cases event with
  | pairingSas | paired | pairingFailed => cases h
  | _ => trivial

omit [DecidableEq C] in
/-- The SAS that a machine asks for is that of an acceptable request. -/
theorem Asked.sas {emoji : List.Vector String 4} (h : agent.Asked (.showSas emoji)) :
    ∃ call ∈ agent.handled, ∃ r req eph, call.pairing.Acceptable call.frame call.nowMs r req ∧
      Keypair.generate call.seed = .ok eph ∧
      emoji = sasEmoji (sasDigest (call.pairing.inputFor req eph)) := by
  obtain ⟨call, hmem, hasked⟩ := h
  unfold Handling.actions at hasked
  have hcases := call.pairing.onFrame_cases call.frame call.nowMs call.seed
  generalize call.pairing.onFrame call.frame call.nowMs call.seed = result at hcases hasked
  cases hcases with
  | refused | confirmed => simp at hasked
  | @answered r req eph ack hacceptable heph =>
    refine ⟨call, hmem, r, req, eph, hacceptable, heph, ?_⟩
    simpa [PcPairing.answer] using hasked

omit [DecidableEq C] in
/-- The record that a machine asks to be saved is that of a phone whose confirmation it has verified. -/
theorem Asked.confirmed {record : PairingRecord} (h : agent.Asked (.completed record)) :
    ∃ call ∈ agent.handled, ∃ peer input, call.pairing.Confirmed call.frame peer input ∧
      record = .new peer.deviceId peer.pk peer.displayName call.nowMs := by
  obtain ⟨call, hmem, hasked⟩ := h
  unfold Handling.actions at hasked
  have hcases := call.pairing.onFrame_cases call.frame call.nowMs call.seed
  generalize call.pairing.onFrame call.frame call.nowMs call.seed = result at hcases hasked
  cases hcases with
  | refused | answered => simp [PcPairing.answer] at hasked
  | @confirmed peer input hconfirmed =>
    exact ⟨call, hmem, peer, input, hconfirmed, by simpa using hasked⟩

/-- A pairing exchange may empty the slot, and does not fill it; the name of the agent never changes. -/
theorem step_slot (agent : Agent C) (input : Input C)
    (hinput : ∀ token hosts nowMs, input ≠ .openPairingWindow token hosts nowMs) :
    (agent.step input).displayName = agent.displayName ∧
      ((agent.step input).pairing = agent.pairing ∨ (agent.step input).pairing = none) := by
  cases input with
  | openPairingWindow token hosts nowMs => exact absurd rfl (hinput token hosts nowMs)
  | firstFrame | readOffer | onFrame =>
    rw [step]
    split <;> exact ⟨rfl, .inl rfl⟩
  | act c loads works =>
    rw [step]
    split
    · next action rest _ =>
      cases action with
      | send | completed => cases works <;> exact ⟨rfl, .inl rfl⟩
      | showSas | failed => exact ⟨rfl, .inl rfl⟩
    · exact ⟨rfl, .inl rfl⟩
    · exact ⟨rfl, .inr rfl⟩
    · exact ⟨rfl, .inl rfl⟩
  | nextFrame =>
    rw [step]
    unfold receive
    split <;> exact ⟨rfl, .inl rfl⟩

end Agent

namespace RunningAgent

variable {Ip C : Type} [DecidableEq Ip] [DecidableEq C]

/-- What a step does to the window: nothing, or it mirrors the next event, or shows the link of the offer
that has just been opened. -/
inductive ViewStep (running running' : RunningAgent Ip C) : Prop
  | same (hview : running'.view = running.view)
      (hname : running'.displayName = running.displayName)
      (hpairing : running'.pairing = running.pairing ∨ running'.pairing = none)
  | mirrored {event : AgentEvent} (hevent : event ∈ running.events)
      (hview : running'.view = running.view.mirror event) (hagent : running'.toAgent = running.toAgent)
  | opened {window : ℕ} {offer : PairingOffer} (hpairing : running'.pairing = some (window, offer))
      (hname : running'.displayName = running.displayName)
      (hview : running'.view = .showQr (pairingUrl running.identity.deviceId
        running.identity.publicBytes running.displayName offer.hosts offer.token))

omit [DecidableEq Ip] in
theorem viewStep_pair (running : RunningAgent Ip C) {input : Agent.Input C}
    (hinput : ∀ token hosts nowMs, input ≠ .openPairingWindow token hosts nowMs) :
    running.ViewStep (running.pair input) :=
  .same rfl (running.toAgent.step_slot _ hinput).1 (running.toAgent.step_slot _ hinput).2

theorem viewStep_step (running : RunningAgent Ip C) (input : Input Ip C) :
    running.ViewStep (running.step input) := by
  have hstill {running' : RunningAgent Ip C} (hview : running'.view = running.view)
      (hname : running'.displayName = running.displayName)
      (hpairing : running'.pairing = running.pairing) : running.ViewStep running' :=
    .same hview hname (.inl hpairing)
  cases input with
  | openPairing token hosts nowMs =>
    change running.ViewStep (running.openPairing token hosts nowMs)
    unfold openPairing
    cases token with
    | none => exact hstill rfl rfl rfl
    | some token =>
      dsimp only
      split_ifs with hhosts
      · exact hstill rfl rfl rfl
      · have hpairing : (running.toAgent.openPairingWindow (some token) hosts nowMs).pairing =
            some (running.windows, ⟨token, nowMs, hosts⟩) := by
          rw [Agent.openPairingWindow, if_neg hhosts]
        have hname : (running.toAgent.openPairingWindow (some token) hosts nowMs).displayName =
            running.displayName := by
          rw [Agent.openPairingWindow, if_neg hhosts]
        exact .opened hpairing hname rfl
  | setPaused | copy => exact hstill rfl rfl rfl
  | accept c attempt =>
    rw [step]
    split <;> exact hstill rfl rfl rfl
  | firstFrame c inbound =>
    rw [step]
    split
    · cases inbound with
      | frame first =>
        rw [dispatch]
        split
        · obtain ⟨hname, hpairing⟩ := running.toAgent.step_slot (.firstFrame c first) (by simp)
          exact .same rfl hname hpairing
        · exact hstill rfl rfl rfl
        · exact hstill rfl rfl rfl
      | failed | ended => exact hstill rfl rfl rfl
    · exact hstill rfl rfl rfl
  | readPaused c =>
    rw [step]
    split
    · unfold readPaused
      split <;> exact hstill rfl rfl rfl
    · exact hstill rfl rfl rfl
  | onFrame c nowMs seed =>
    rw [step]
    split
    · exact running.viewStep_pair (by simp)
    · unfold call
      split <;> exact hstill rfl rfl rfl
    · exact hstill rfl rfl rfl
  | enter | act | next =>
    rw [step]
    split
    · exact running.viewStep_pair (by simp)
    · exact hstill rfl rfl rfl
    · exact hstill rfl rfl rfl
  | pump =>
    change running.ViewStep running.pump
    unfold pump
    split
    · exact hstill rfl rfl rfl
    · next event hevent => exact .mirrored (List.mem_of_getElem? hevent) rfl rfl

/-- What a view says of the agent. -/
def Shows (running : RunningAgent Ip C) : PairingView → Prop
  | .showQr url => ∀ {window offer}, running.pairing = some (window, offer) →
      url = pairingUrl running.identity.deviceId running.identity.publicBytes running.displayName
        offer.hosts offer.token
  | .compareSas emoji => running.toAgent.Asked (.showSas emoji)
  | .success deviceName => ∃ record, running.toAgent.Saved record ∧ record.displayName = deviceName
  | .failed reason => running.toAgent.Asked (.failed reason)

/-- All that is reported has happened, and so has what the window shows. -/
structure Honest (running : RunningAgent Ip C) : Prop where
  truthful : running.toAgent.Truthful
  shows : running.Shows running.view

omit [DecidableEq Ip] in
theorem truthful_stepped {running running' : RunningAgent Ip C} (h : running.toAgent.Truthful)
    (hstepped : running.Stepped running') : running'.toAgent.Truthful := by
  cases hstepped with
  | quiet hagent | pumped _ hagent => exact hagent ▸ h
  | paired input hagent => exact hagent ▸ h.step input
  | entered => exact ⟨h.saved, h.events, h.tasks⟩
  | @driven c task _ input =>
    obtain ⟨later, -, hlater, -, hsession, -⟩ := task.step_adds input
    have hdrop : (task.step input).events.drop task.events.length = later := by
      rw [hlater, List.drop_left]
    refine ⟨h.saved, fun event hmem ↦ ?_, h.tasks⟩
    obtain hearlier | hnow := List.mem_append.mp hmem
    · exact h.events event hearlier
    · rw [hdrop] at hnow
      exact Agent.Reports.of_session (hsession event hnow)

omit [DecidableEq Ip] in
theorem grows_stepped {running running' : RunningAgent Ip C} (h : running.Stepped running') :
    running.toAgent.Grows running'.toAgent := by
  refine ⟨h.handled, ?_⟩
  cases h with
  | quiet hagent | pumped _ hagent => rw [hagent]; exact List.Subset.refl _
  | entered | driven => exact List.Subset.refl _
  | paired input hagent =>
    rw [hagent]
    have hstepped := running.toAgent.step_cases input
    generalize running.toAgent.step input = agent' at hstepped
    cases hstepped with
    | still hsame | moved hsame => exact hsame.persisted ▸ List.Subset.refl _
    | called => exact List.Subset.refl _
    | saved _ _ _ hpersisted => exact hpersisted ▸ List.subset_append_left _ _

omit [DecidableEq Ip] [DecidableEq C] in
/-- What a view says is still so when the history has gone on and no other offer has been opened. -/
theorem Shows.mono {running running' : RunningAgent Ip C} {view : PairingView}
    (h : running.Shows view) (hgrows : running.toAgent.Grows running'.toAgent)
    (hidentity : running'.identity = running.identity)
    (hname : running'.displayName = running.displayName)
    (hpairing : running'.pairing = running.pairing ∨ running'.pairing = none) :
    running'.Shows view := by
  cases view with
  | showQr url =>
    intro window offer hopen
    rw [hidentity, hname]
    obtain hsame | hnone := hpairing
    · exact h (hsame.symm.trans hopen)
    · exact nomatch hnone.symm.trans hopen
  | compareSas | failed => exact Agent.Asked.mono h hgrows
  | success =>
    obtain ⟨record, hsaved, hdevice⟩ := h
    exact ⟨record, hsaved.mono hgrows, hdevice⟩

theorem Honest.step {running : RunningAgent Ip C} (h : running.Honest) (input : Input Ip C) :
    (running.step input).Honest := by
  have hstepped := running.step_cases input
  have hgrows := grows_stepped hstepped
  have hidentity := hstepped.identity
  have hview := running.viewStep_step input
  refine ⟨truthful_stepped h.truthful hstepped, ?_⟩
  generalize running.step input = running' at hgrows hidentity hview
  cases hview with
  | same hview hname hpairing =>
    rw [hview]
    exact Shows.mono h.shows hgrows hidentity hname hpairing
  | @mirrored event hevent hview hagent =>
    have hreports := h.truthful.events event hevent
    have hpairing : running'.pairing = running.pairing := by rw [hagent]
    have hname : running'.displayName = running.displayName := by rw [hagent]
    have hmirrored : running.Shows (running.view.mirror event) := by
      cases event with
      | pairingSas | pairingFailed => exact hreports
      | paired record => exact ⟨record, hreports, rfl⟩
      | peerConnected | peerDisconnected | clipArrived => exact h.shows
    rw [hview]
    exact hmirrored.mono hgrows hidentity hname (.inl hpairing)
  | @opened window offer hpairing hname hview =>
    rw [hview]
    intro window' offer' hopen
    cases hpairing.symm.trans hopen
    rw [hidentity, hname]

theorem run_displayName (running : RunningAgent Ip C) (inputs : List (Input Ip C)) :
    (running.run inputs).displayName = running.displayName := by
  refine foldl_invariant (P := fun later : RunningAgent Ip C ↦ later.displayName = running.displayName)
    ?_ rfl
  intro later input _ h
  cases later.viewStep_step input with
  | same _ hname | opened _ hname => exact hname.trans h
  | mirrored _ _ hagent => rw [hagent, h]

omit [DecidableEq Ip] [DecidableEq C] in
theorem honest_start (identity : IdentityKeypair) (displayName : String)
    (stored : List PairingRecord) : (start identity displayName stored : RunningAgent Ip C).Honest :=
  ⟨Agent.truthful_start identity displayName stored, nofun⟩

/-- In every run the window shows what has happened: emoji only of a request that a machine has found
acceptable, under the token of its offer, and a success only of a record that has been saved after its
confirmation was verified.  While an offer is open, a link that is shown is that of this offer. -/
theorem window_shows_what_happened (identity : IdentityKeypair) (displayName : String)
    (stored : List PairingRecord) (inputs : List (Input Ip C)) :
    (∀ emoji, ((start identity displayName stored).run inputs).view = .compareSas emoji →
      ∃ call ∈ ((start identity displayName stored).run inputs).handled, ∃ r req eph,
        call.pairing.Acceptable call.frame call.nowMs r req ∧ Keypair.generate call.seed = .ok eph ∧
        emoji = sasEmoji (sasDigest (call.pairing.inputFor req eph))) ∧
    (∀ deviceName, ((start identity displayName stored).run inputs).view = .success deviceName →
      ∃ record call peer input, record.displayName = deviceName ∧
        ((start identity displayName stored).run inputs).toAgent.Saved record ∧
        call ∈ ((start identity displayName stored).run inputs).handled ∧
        call.pairing.Confirmed call.frame peer input ∧
        record = .new peer.deviceId peer.pk peer.displayName call.nowMs) ∧
    ∀ url window offer, ((start identity displayName stored).run inputs).view = .showQr url →
      ((start identity displayName stored).run inputs).pairing = some (window, offer) →
        url = pairingUrl identity.deviceId identity.publicBytes displayName offer.hosts offer.token := by
  have hhonest : ((start identity displayName stored).run inputs).Honest :=
    foldl_invariant (fun _ input _ h ↦ h.step input) (honest_start identity displayName stored)
  have hidentity := run_identity (start identity displayName stored : RunningAgent Ip C) inputs
  have hname := run_displayName (start identity displayName stored : RunningAgent Ip C) inputs
  generalize (start identity displayName stored).run inputs = running at hhonest hidentity hname ⊢
  have hshows := hhonest.shows
  refine ⟨fun emoji hview ↦ ?_, fun deviceName hview ↦ ?_, fun url window offer hview hopen ↦ ?_⟩
  · rw [hview] at hshows
    exact Agent.Asked.sas hshows
  · rw [hview] at hshows
    obtain ⟨record, hsaved, hdevice⟩ := hshows
    obtain ⟨call, hmem, peer, input, hconfirmed, hrecord⟩ :=
      (hhonest.truthful.saved record hsaved).confirmed
    exact ⟨record, call, peer, input, hdevice, hsaved, hmem, hconfirmed, hrecord⟩
  · rw [hview] at hshows
    rw [hshows hopen, hidentity, hname]
    rfl

end RunningAgent

end Progress

end AirClip
