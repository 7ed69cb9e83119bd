import AirClip.Agent.EventChannel
import AirClip.Traffic.ClipReceipt

/-!
# Clips while the agent is paused

The tray sets the pause flag at any time, and the loop of each session reads it before it calls the
session with a frame.  So from that moment on a session takes no clip but one whose frame it has already
been called with, or for whose frame the flag has already been read.  There is at most one for each
connection, however many connections there are and whatever they send.
-/

open Foundation

namespace AirClip

/-- The text of a clip that an action asks the agent to handle. -/
def SessionAction.clipText : SessionAction → Option (String × String)
  | .emit event => (DriverEntry.handled event).clipText
  | .send _ | .close _ => none

/-- Each batch of actions brings at most one clip. -/
theorem Batch.clipTexts_length {actions : List SessionAction} (h : Batch actions) :
    (actions.filterMap SessionAction.clipText).length ≤ 1 := by
  cases h with
  | @event event => exact (List.length_filterMap_le _ _).trans (le_refl 1)
  | silent | refused | greeted | acknowledged | reply | wireError | peerError => exact Nat.zero_le 1
  | clip => exact le_refl 1

theorem NoClip.clipTexts {actions : List SessionAction} (h : NoClip actions) :
    actions.filterMap SessionAction.clipText = [] := by
  have harrived := List.filterMap_eq_nil_iff.mp h.arrived
  refine List.filterMap_eq_nil_iff.mpr fun action hmem ↦ ?_
  cases action with
  | emit event =>
    have hevent := harrived event (mem_emittedEvents.mpr hmem)
    cases event with
    | clipArrived => cases hevent
    | _ => rfl
  | send | close => rfl

section Paused

variable [Primitives]

/-- A connection goes from some clips handled and some pending to others without taking any: what it
handles has been pending. -/
def Drains (before after : List (String × String) × List (String × String)) : Prop :=
  before.1 <+: after.1 ∧ after.1 ++ after.2 <+: before.1 ++ before.2

omit [Primitives] in
theorem Drains.refl (clips : List (String × String) × List (String × String)) : Drains clips clips :=
  ⟨List.prefix_rfl, List.prefix_rfl⟩

omit [Primitives] in
theorem Drains.trans {before middle after : List (String × String) × List (String × String)}
    (h : Drains before middle) (h' : Drains middle after) : Drains before after :=
  ⟨h.1.trans h'.1, h'.2.trans h.2⟩

namespace SessionTask

/-- The clips whose frame the session has been called with and which are still to be handled. -/
def pendingClips (task : SessionTask) : List (String × String) :=
  match task.phase with
  | .acting actions => actions.filterMap SessionAction.clipText
  | _ => []

/-- The clips a session has handled, and those pending. -/
def clips (task : SessionTask) : List (String × String) × List (String × String) :=
  (task.receivedClips, task.pendingClips)

variable [Ciborium]

/-- A session that is called while it is paused takes no clip. -/
theorem onFrame_paused (session : Session) (hcoherent : session.Coherent)
    (hpaused : session.paused = true) (frame : Frame) (nowMs : UInt64) (seed : Option Key32) :
    (session.onFrame frame nowMs seed).2.filterMap SessionAction.clipText = [] := by
  have hreception := Session.onFrame_cases hcoherent frame nowMs seed
  generalize session.onFrame frame nowMs seed = result at hreception
  cases hreception with
  | refused | greeted | acknowledged => rfl
  | @opened channel channel' plain =>
    generalize hopened : ({ session with lastActivityMs := nowMs, channel := some channel' } : Session) =
      opened
    have hset : opened.paused = true := hopened ▸ hpaused
    apply NoClip.clipTexts
    by_cases hty : frame.ty = .clipPush
    · rw [hty]
      change NoClip (opened.onClipPush plain).2
      have hreceipt := opened.onClipPush_cases plain
      generalize opened.onClipPush plain = result at hreceipt
      cases hreceipt with
      | received _ _ hunset => exact absurd (hset.symm.trans hunset) (by decide)
      | paused | oversize => exact opened.noClip_wireError _ _
      | refused => exact opened.noClip_fail _
    · exact opened.noClip_onPlain hty plain

omit [Ciborium] in
theorem receivedClips_note (task : SessionTask) (entry : DriverEntry) :
    (task.note entry).receivedClips = task.receivedClips ++ entry.clipText.toList := by
  rw [receivedClips, note, List.filterMap_append, receivedClips,
    List.filterMap_eq_flatMap_toList _ [entry], List.flatMap_singleton]

theorem receivedClips_onEvent (task : SessionTask) (event : SessionEvent) (stage : StageRing)
    (rest : List SessionAction) : (task.onEvent event stage rest).receivedClips =
      task.receivedClips ++ (DriverEntry.handled event).clipText.toList :=
  receivedClips_note { task with session := _, connectedId := _, events := _, phase := _ } _

omit [Ciborium] in
theorem pendingClips_of_acting {task : SessionTask} {actions : List SessionAction}
    (hphase : task.phase = .acting actions) :
    task.pendingClips = actions.filterMap SessionAction.clipText := by
  rw [pendingClips, hphase]

omit [Ciborium] in
/-- What a step handles is the beginning of what has been pending. -/
theorem drains_of {task task' : SessionTask} (handled : List (String × String))
    (hreceived : task'.receivedClips = task.receivedClips ++ handled)
    (hpending : handled ++ task'.pendingClips <+: task.pendingClips) :
    Drains task.clips task'.clips := by
  refine ⟨?_, ?_⟩
  · change task.receivedClips <+: task'.receivedClips
    exact hreceived ▸ List.prefix_append _ _
  · change task'.receivedClips ++ task'.pendingClips <+: task.receivedClips ++ task.pendingClips
    rw [hreceived, List.append_assoc]
    exact (List.prefix_append_right_inj _).mpr hpending

/-- A step that does not call the session takes no clip, nor does one that calls it while it is paused. -/
theorem step_drains {task : SessionTask} (hcoherent : task.session.Coherent) {input : Input}
    (hinput : ∀ nowMs seed, input ≠ .onFrame false nowMs seed) :
    Drains task.clips (task.step input).clips := by
  have hstepped := task.step_cases input
  generalize task.step input = task' at hstepped
  have hnothing {entry : DriverEntry} (hentry : entry.clipText = none) :
      task.receivedClips ++ entry.clipText.toList = task.receivedClips ++ [] := by
    rw [hentry]
    rfl
  have hemit (event : SessionEvent) (rest : List SessionAction) :
      (SessionAction.emit event :: rest).filterMap SessionAction.clipText =
        (DriverEntry.handled event).clipText.toList ++ rest.filterMap SessionAction.clipText := by
    rw [List.filterMap_eq_flatMap_toList, List.flatMap_cons, ← List.filterMap_eq_flatMap_toList]
    rfl
  cases hstepped with
  | still => exact .refl _
  | @called frame paused nowMs seed hphase =>
    have hpaused : paused = true := by
      cases paused
      · exact absurd rfl (hinput nowMs seed)
      · rfl
    have hnone := onFrame_paused (task.session.setPaused paused)
      (hcoherent.perform (.setPaused paused)) hpaused frame nowMs seed
    refine drains_of _ ((receivedClips_note _ _).trans (hnothing rfl)) ?_
    change _ ++ ((task.session.setPaused paused).onFrame frame nowMs seed).2.filterMap _ <+: _
    rw [hnone]
    exact List.nil_prefix
  | sent hphase =>
    refine drains_of _ ((receivedClips_note _ _).trans (hnothing rfl)) ?_
    rw [pendingClips_of_acting hphase]
    exact List.prefix_rfl
  | handled hphase =>
    refine drains_of _ (receivedClips_onEvent ..) ?_
    rw [pendingClips_of_acting hphase, hemit]
    exact List.prefix_rfl
  | @answered stage event rest reply hphase =>
    refine drains_of (DriverEntry.handled event).clipText.toList ?_ ?_
    · rw [receivedClips_note, receivedClips_onEvent]
      exact List.append_nil _
    · rw [pendingClips_of_acting hphase, hemit]
      exact List.prefix_rfl
  | closed | ended =>
    refine drains_of [] ?_ List.nil_prefix
    rw [disconnect, leave, receivedClips_note]
    exact (List.append_nil _).trans ((receivedClips_note _ _).trans (hnothing rfl))
  | received => exact drains_of _ ((receivedClips_note _ _).trans (hnothing rfl)) List.nil_prefix
  | failed =>
    refine drains_of [] ?_ List.nil_prefix
    rw [leave, receivedClips_note]
    exact (List.append_nil _).trans ((receivedClips_note _ _).trans (hnothing rfl))
  | unsent => exact drains_of _ ((receivedClips_note _ _).trans (hnothing rfl)) List.nil_prefix
  | @unbuilt stage works event rest failure hphase | @unanswered stage event rest reply hphase =>
    refine drains_of (DriverEntry.handled event).clipText.toList ?_ ?_
    · rw [leave, receivedClips_note]
      exact (List.append_nil _).trans (receivedClips_onEvent ..)
    · rw [pendingClips_of_acting hphase, hemit]
      exact (List.append_nil _).symm ▸ List.prefix_append _ _

/-- At most one clip is pending. -/
structure OneClip (task : SessionTask) : Prop where
  inv : task.Inv
  pending : task.pendingClips.length ≤ 1

theorem oneClip_start (identity : IdentityKeypair) (peerKeys : List PeerKey) (nowMs : UInt64)
    (paused : Bool) (first : Frame) : (start identity peerKeys nowMs paused first).OneClip :=
  ⟨inv_start .., Nat.zero_le 1⟩

theorem OneClip.step {task : SessionTask} (h : task.OneClip) (input : Input) :
    (task.step input).OneClip := by
  refine ⟨h.inv.step input, ?_⟩
  have hdrained (hdrains : Drains task.clips (task.step input).clips) :
      (task.step input).pendingClips.length ≤ 1 := by
    have hreceived : task.receivedClips.length ≤ (task.step input).receivedClips.length :=
      hdrains.1.length_le
    have hall := hdrains.2.length_le
    have hpending := h.pending
    change ((task.step input).receivedClips ++ (task.step input).pendingClips).length ≤
      (task.receivedClips ++ task.pendingClips).length at hall
    rw [List.length_append, List.length_append] at hall
    omega
  cases input with
  | onFrame paused nowMs seed =>
    rw [SessionTask.step]
    split
    · next frame _ =>
      have hcoherent : (task.session.setPaused paused).Coherent :=
        h.inv.coherent.perform (.setPaused paused)
      exact (Session.batch_onFrame hcoherent frame nowMs seed).clipTexts_length
    · exact h.pending
  | act | next => exact hdrained (step_drains h.inv.coherent (by simp))

end SessionTask

namespace RunningAgent

variable [Ciborium] [TextCodecs] {Ip C : Type} [DecidableEq Ip] [DecidableEq C]

/-- The clips of a connection that are still to be handled. -/
def pendingClips (running : RunningAgent Ip C) (c : C) : List (String × String) :=
  ((running.connections c).session?.map SessionTask.pendingClips).getD []

/-- Only the tray changes the pause flag. -/
theorem step_paused (running : RunningAgent Ip C) {input : Input Ip C}
    (hinput : ∀ paused, input ≠ .setPaused paused) : (running.step input).paused = running.paused := by
  cases input with
  | setPaused paused => exact absurd rfl (hinput paused)
  | copy => rfl
  | _ => exact congrArg AgentState.paused (running.step_state (by simp) (by simp))

theorem step_paused_of_ne (running : RunningAgent Ip C) {input : Input Ip C}
    (hpaused : running.paused = true) (hinput : input ≠ .setPaused false) :
    (running.step input).paused = true := by
  by_cases hset : input = .setPaused true
  · rw [hset]
    rfl
  · rw [running.step_paused, hpaused]
    rintro (_ | _) rfl
    · exact hinput rfl
    · exact hset rfl

/-- Every session has at most one clip pending, and a loop has a value of the flag only for a frame. -/
structure OneEach (running : RunningAgent Ip C) : Prop where
  one : ∀ {c task}, running.connections c = .session task → task.OneClip
  flagged : running.Flagged

theorem OneEach.step {running : RunningAgent Ip C} (h : running.OneEach) (input : Input Ip C) :
    (running.step input).OneEach := by
  refine ⟨fun hsession ↦ ?_, h.flagged.step input⟩
  cases (running.step_cases input).session hsession with
  | same hbefore => exact h.one hbefore
  | opened nowMs hbefore htask => exact htask ▸ SessionTask.oneClip_start ..
  | @stepped task' input hbefore hoffers htask => exact htask ▸ (h.one hbefore).step input

omit [DecidableEq Ip] in
/-- A step takes no clip on a connection whose loop has not read the flag as unset. -/
theorem Stepped.drains {running running' : RunningAgent Ip C} (h : running.Stepped running')
    (heach : running.OneEach) {c : C} (hflag : running.flags c ≠ some false) :
    Drains (running.receivedClips c, running.pendingClips c)
      (running'.receivedClips c, running'.pendingClips c) := by
  have hsame (heq : (running'.connections c).session? = (running.connections c).session?) :
      Drains (running.receivedClips c, running.pendingClips c)
        (running'.receivedClips c, running'.pendingClips c) := by
    rw [receivedClips, pendingClips, receivedClips, pendingClips, heq]
    exact .refl _
  cases h with
  | quiet _ hsame' | paired _ _ hsame' | pumped _ _ hsame' => exact hsame (hsame' c)
  | @entered d first hconnection =>
    by_cases hc : c = d
    · subst hc
      rw [receivedClips, pendingClips, receivedClips, pendingClips, setConnection_self, hconnection]
      exact .refl _
    · exact hsame (by rw [setConnection_of_ne _ hc])
  | @driven d task hconnection input hoffers flags =>
    by_cases hc : c = d
    · subst hc
      have hself : (running.drive c task input).connections c = .session (task.step input) :=
        running.setConnection_self c _
      rw [receivedClips, pendingClips, receivedClips, pendingClips]
      change Drains _ ((((running.drive c task input).connections c).session?.map _).getD _,
        (((running.drive c task input).connections c).session?.map _).getD _)
      rw [hself, hconnection]
      refine SessionTask.step_drains (heach.one hconnection).inv.coherent ?_
      rintro nowMs seed rfl
      cases hoffers with
      | onFrame hunset => exact hflag hunset
    · exact hsame (congrArg ConnectionTask.session? (running.setConnection_of_ne hc _))

/-- What is handled while the flag is set, on a connection whose loop has not read it as unset, has been
pending. -/
theorem run_drains (running : RunningAgent Ip C) (hpaused : running.paused = true)
    (heach : running.OneEach) {c : C} (hflag : running.flags c ≠ some false) {during : List (Input Ip C)}
    (hduring : .setPaused false ∉ during) :
    Drains (running.receivedClips c, running.pendingClips c)
      ((running.run during).receivedClips c, (running.run during).pendingClips c) := by
  induction during generalizing running with
  | nil => exact .refl _
  | cons input during ih =>
    obtain ⟨hinput, hlater⟩ := not_or.mp (mt List.mem_cons.mpr hduring)
    have hflag' : (running.step input).flags c ≠ some false := by
      obtain ⟨-, hsame⟩ | ⟨-, hnone⟩ | ⟨-, hread, -⟩ :=
        step_flags heach.flagged c input
      · rwa [hsame]
      · rw [hnone]
        simp
      · rw [hread, hpaused]
        simp
    exact ((running.step_cases input).drains heach hflag).trans
      (ih _ (running.step_paused_of_ne hpaused (Ne.symm hinput)) (heach.step input) hflag' hlater)

/-- The clips that a connection may still handle when the pause flag has been set: one pending, or one in a
frame for which its loop has read the flag before. -/
def Entitled (running : RunningAgent Ip C) (c : C) (clips : List (String × String)) : Prop :=
  clips <+: running.pendingClips c ∨
    ∃ task frame nowMs seed, running.connections c = .session task ∧ task.phase = .received frame ∧
      running.flags c = some false ∧ clips <+:
        ((task.session.setPaused false).onFrame frame nowMs seed).2.filterMap SessionAction.clipText

omit [Ciborium] [TextCodecs] [DecidableEq Ip] [DecidableEq C] in
theorem OneEach.pending {running : RunningAgent Ip C} (h : running.OneEach) (c : C) :
    (running.pendingClips c).length ≤ 1 := by
  rw [pendingClips]
  cases hconnection : running.connections c with
  | session task => exact (h.one hconnection).pending
  | _ => exact Nat.zero_le 1

/-- Once the flag is set, a connection handles at most one clip, to which it is entitled. -/
theorem run_entitled (running : RunningAgent Ip C) (hpaused : running.paused = true)
    (heach : running.OneEach) (c : C) {during : List (Input Ip C)}
    (hduring : .setPaused false ∉ during) :
    ∃ handled, (running.run during).receivedClips c = running.receivedClips c ++ handled ∧
      running.Entitled c handled ∧ handled.length ≤ 1 := by
  have hdrained {running : RunningAgent Ip C} (hpaused : running.paused = true)
      (heach : running.OneEach) (hflag : running.flags c ≠ some false) {during : List (Input Ip C)}
      (hduring : .setPaused false ∉ during) :
      ∃ handled, (running.run during).receivedClips c = running.receivedClips c ++ handled ∧
        handled <+: running.pendingClips c ∧ handled.length ≤ 1 := by
    obtain ⟨⟨handled, hhandled⟩, hpending⟩ := running.run_drains hpaused heach hflag hduring
    change running.receivedClips c ++ handled = _ at hhandled
    change _ <+: running.receivedClips c ++ running.pendingClips c at hpending
    have hpending' : handled <+: running.pendingClips c := by
      rw [← hhandled, List.append_assoc, List.prefix_append_right_inj] at hpending
      exact (List.prefix_append _ _).trans hpending
    exact ⟨handled, hhandled.symm, hpending', hpending'.length_le.trans (heach.pending c)⟩
  by_cases hflag : running.flags c = some false
  · obtain ⟨task, frame, hconnection, hphase⟩ := heach.flagged c false hflag
    induction during generalizing running with
    | nil => exact ⟨[], (List.append_nil _).symm, .inl List.nil_prefix, Nat.zero_le 1⟩
    | cons input during ih =>
      obtain ⟨hinput, hlater⟩ := not_or.mp (mt List.mem_cons.mpr hduring)
      have hpaused' := running.step_paused_of_ne hpaused (Ne.symm hinput)
      obtain ⟨hother, hsame⟩ | ⟨⟨nowMs, seed, rfl⟩, hnone⟩ | ⟨hnone, -⟩ :=
        step_flags heach.flagged c input
      · -- The loop still waits to call its session.
        have hconnection' := step_session_received hconnection hphase hother
        obtain ⟨handled, hhandled, hentitled, hlength⟩ := ih (running.step input) hpaused'
          (heach.step input) hlater (hsame.trans hflag) hconnection'
        have hreceived : (running.step input).receivedClips c = running.receivedClips c := by
          rw [receivedClips, receivedClips, hconnection', hconnection]
        have hpending : (running.step input).pendingClips c = running.pendingClips c := by
          rw [pendingClips, pendingClips, hconnection', hconnection]
        rw [Entitled, hpending, hconnection', ← hconnection, hsame] at hentitled
        exact ⟨handled, hreceived ▸ hhandled, hentitled, hlength⟩
      · -- The session is called with the frame.
        have hcalled := step_session hconnection (.onFrame c nowMs seed)
        rw [Input.forSession, if_pos rfl, hflag, Option.map_some, Option.map_some, Option.getD_some,
          SessionTask.step, hphase] at hcalled
        dsimp only at hcalled
        obtain ⟨handled, hhandled, hpending, hlength⟩ :=
          hdrained hpaused' (heach.step (.onFrame c nowMs seed)) (by rw [hnone]; simp) hlater
        have hreceived : (running.step (.onFrame c nowMs seed)).receivedClips c =
            running.receivedClips c := by
          rw [receivedClips, hcalled, receivedClips, hconnection]
          exact (SessionTask.receivedClips_note _ _).trans (List.append_nil _)
        rw [pendingClips, hcalled] at hpending
        refine ⟨handled, hhandled.trans (by rw [hreceived]), .inr ?_, hlength⟩
        exact ⟨task, frame, nowMs, seed, hconnection, hphase, hflag, hpending⟩
      · cases hnone.symm.trans hflag
  · obtain ⟨handled, hhandled, hpending, hlength⟩ := hdrained hpaused heach hflag hduring
    exact ⟨handled, hhandled, .inl hpending, hlength⟩

/-- From the moment the tray sets the pause flag until it resets it, whatever the phones send and however
many connect, each connection has at most one clip handled, and only one whose frame its session had been
called with before, or for whose frame its loop had read the flag before. -/
theorem paused_takes_no_clip (identity : IdentityKeypair) (displayName : String)
    (stored : List PairingRecord) (before : List (Input Ip C)) {during : List (Input Ip C)}
    (hduring : .setPaused false ∉ during) (c : C) :
    ∃ handled,
      ((start identity displayName stored).run (before ++ .setPaused true :: during)).receivedClips c =
        ((start identity displayName stored).run before).receivedClips c ++ handled ∧
      ((start identity displayName stored).run before).Entitled c handled ∧
      handled.length ≤ 1 := by
  have heach : ((start identity displayName stored).run before).OneEach :=
    foldl_invariant (P := OneEach) (fun _ input _ h ↦ h.step input)
      ⟨nofun, nofun⟩
  have hrun : (start identity displayName stored).run (before ++ .setPaused true :: during) =
      (((start identity displayName stored).run before).step (.setPaused true)).run during :=
    List.foldl_append
  rw [hrun]
  generalize (start identity displayName stored).run before = running at heach ⊢
  exact run_entitled (running.step (.setPaused true)) rfl (heach.step _) c hduring

end RunningAgent

end Paused

namespace Reference

/-- The phone connects and pushes a clip, and the loop reads the flag for its frame. -/
def clipPending : List (RunningAgent.Input Unit Unit) :=
  phoneConnects ++ [.next () (.frame (frameOf firstPush)), .readPaused ()]

/-- The session is called and goes on, and the phone pushes another clip. -/
def pushedOn : List (RunningAgent.Input Unit Unit) :=
  [.onFrame () 0 none, .act () true true, .act () true true, .next () (.frame (frameOf secondPush)),
    .readPaused (), .onFrame () 0 none, .act () true true, .act () true true]

end Reference

open Reference in
/-- Of two clips only the one is taken for which the flag had been read before the pause. -/
theorem paused_takes_no_clip_pending :
    (∃ handled, ((RunningAgent.start pcIdentity "PC" storedPairings).run
        (clipPending ++ .setPaused true :: pushedOn)).receivedClips () =
          ((RunningAgent.start pcIdentity "PC" storedPairings).run clipPending).receivedClips () ++
            handled ∧
        ((RunningAgent.start pcIdentity "PC" storedPairings).run clipPending).Entitled () handled ∧
        handled.length ≤ 1) ∧
      ((RunningAgent.start pcIdentity "PC" storedPairings).run
        (clipPending ++ .setPaused true :: pushedOn)).receivedClips () = [("hi", "iPhone")] ∧
      ((RunningAgent.start pcIdentity "PC" storedPairings).run
        (clipPending ++ pushedOn)).receivedClips () = [("hi", "iPhone"), ("ho", "iPhone")] :=
  ⟨RunningAgent.paused_takes_no_clip pcIdentity "PC" storedPairings clipPending (by simp [pushedOn]) (),
    by decide +kernel, by decide +kernel⟩

end AirClip
