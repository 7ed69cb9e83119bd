import AirClip.Agent.VisitUnderway

/-!
# A check goes on

The simulated peer takes what comes for it and sends the next thing.  Whatever happens to a check that is
left alone, it stands where such a check can stand, and as long as it is not complete, it can go on.
-/

open Foundation

namespace AirClip

section Worlds

variable [Primitives] {Ip C : Type} {visit : Visit Ip C} {calls : List StageCall}

namespace Visit

variable [DecidableEq Ip] [DecidableEq C] [Ciborium] [TextCodecs] {world : Acceptance Ip C}
  {input : RunningAgent.Input Ip C}

/-! ## The peer -/

omit [DecidableEq Ip] [DecidableEq C] [Ciborium] in
/-- What has been printed of the pairing stays. -/
theorem Confirmed.advanced {peer peer' : SimulatedPeer} {sas : List.Vector String 4}
    (h : visit.Confirmed peer sas) (hadvanced : peer.Advanced peer') : visit.Confirmed peer' sas :=
  ⟨hadvanced.phase, hadvanced.sas.trans h.sas,
    h.record.imp fun _ hrecord ↦ hadvanced.record.trans hrecord⟩

omit [DecidableEq Ip] [DecidableEq C] in
/-- The peer goes on with its session, and the pairing exchange stands where it did. -/
theorem Exchanging.advanced {peer peer' : SimulatedPeer} {agent : Agent C} {task : Task}
    {toPc toPhone : List Frame} (h : visit.Exchanging peer agent task toPc toPhone)
    (hphase : ∀ fsm, peer.phase ≠ .pairAck fsm) (hadvanced : peer.Advanced peer') :
    visit.Exchanging peer' agent task toPc toPhone := by
  cases h with
  | handed hasked | received hasked | answering hasked | answered hasked =>
    exact absurd hasked (hphase _)
  | confirmed hpast hconfirms hrest hpeers hkeystore =>
    exact .confirmed (hpast.advanced hadvanced) hconfirms hrest hpeers hkeystore
  | checking hpast hconfirms hsas hpeers hkeystore =>
    exact .checking (hpast.advanced hadvanced) hconfirms hsas hpeers hkeystore
  | completing hpast nowMs hsas hpeers hkeystore =>
    exact .completing (hpast.advanced hadvanced) nowMs hsas hpeers hkeystore
  | storing hpast hsas hpeers hall => exact .storing (hpast.advanced hadvanced) hsas hpeers hall
  | closing hpast hsas hpeers => exact .closing (hpast.advanced hadvanced) hsas hpeers
  | paired hpast hsas hpeers => exact .paired (hpast.advanced hadvanced) hsas hpeers

omit [DecidableEq C] in
/-- The peer goes on with its session, and sends one frame at most. -/
theorem Underway.advances (h : visit.Underway calls world) {peer : SimulatedPeer} {wire : InFlight}
    (hphase : ∀ fsm, world.peer.phase ≠ .pairAck fsm) (hadvanced : world.peer.Advanced peer)
    (hsecond : visit.Second world.running peer wire)
    (hlength : wire.toPc.length ≤ world.session.toPc.length + 1) :
    let advanced : Acceptance Ip C := { world with peer, session := wire }
    visit.Underway calls advanced ∧ advanced.left visit.toLinks < world.left visit.toLinks := by
  intro advanced
  refine ⟨⟨h.desk, h.admitted, hadvanced.identity.trans h.identity, ?_, hsecond, h.known⟩, ?_⟩
  · obtain ⟨hconnection, hexchanging⟩ := h.first.confirmed hphase
    exact .exchanging hconnection rfl (hexchanging.advanced hphase hadvanced)
  · have hless := hadvanced.left
    change 7 * peer.phase.left + 6 * (world.pairing.toPc.length + wire.toPc.length) +
      world.running.taskLeft visit.pairing + world.running.taskLeft visit.session < _
    rw [Acceptance.left]
    omega

/-- The peer comes back with a HELLO. -/
theorem Underway.reconnect [X25519Commutes] [Ciborium.Lawful] [TextCodecs.Lawful]
    (h : visit.Underway calls world) {nowMs : UInt64} (hclock : visit.Clock nowMs) (seed : Key32) :
    let reconnected := world.step visit.toLinks (.reconnect nowMs (some seed) true true)
    visit.Underway calls reconnected ∧ ((∃ record, world.peer.phase = .paired record) →
      reconnected.left visit.toLinks < world.left visit.toLinks) := by
  intro reconnected
  by_cases hpaired : ∃ record, world.peer.phase = .paired record
  · obtain ⟨record, hphase⟩ := hpaired
    cases h.second with
    | apart hwire hconnection hpast =>
      obtain ⟨fsm, hasked⟩ | ⟨pairedMs, hpaired⟩ := hpast
      · cases hphase.symm.trans hasked
      · obtain ⟨peer, hello, hreconnect, hadvanced, hspeaking⟩ := reconnects h.identity hpaired hclock
          seed world.running.stage (.inl rfl : ConnectionTask.absent = .absent ∨ _)
        have hstep : reconnected = { world with peer, session := ⟨[hello], []⟩ } := by
          change world.step visit.toLinks (.reconnect nowMs (some seed) true true) = _
          rw [Acceptance.step, hpaired]
          dsimp only
          rw [hreconnect, hwire]
          rfl
        have hsecond : visit.Second world.running peer ⟨[hello], []⟩ := .speaking hconnection hspeaking
        obtain ⟨hunderway, hleft⟩ :=
          h.advances (by rw [hphase]; simp) hadvanced hsecond (Nat.le_add_left 1 _)
        rw [hstep]
        exact ⟨hunderway, fun _ ↦ hleft⟩
    | speaking _ hspeaking => exact absurd hphase (hspeaking.phase_ne_paired record)
  · have hstep : reconnected = world := by
      change world.step visit.toLinks (.reconnect nowMs (some seed) true true) = _
      rw [Acceptance.step]
      split
      · next record hphase => exact absurd ⟨record, hphase⟩ hpaired
      · rfl
    rw [hstep]
    exact ⟨h, fun h ↦ absurd h hpaired⟩

omit [DecidableEq C] in
/-- The peer takes PAIR_ACK and confirms, if it has come. -/
theorem Underway.takePairAck (h : visit.Underway calls world) {fsm : PhonePairing}
    (hphase : world.peer.phase = .pairAck fsm) (nowMs laterMs : UInt64) (randomId : Octets 8) :
    let taken := world.takePairing visit.toLinks nowMs laterMs (some randomId) true
    visit.Underway calls taken ∧
      (world.pairing.toPhone ≠ [] → taken.left visit.toLinks < world.left visit.toLinks) := by
  intro taken
  have hnone (hphone : world.pairing.toPhone = [])
      (hup : world.running.hungUp visit.pairing = false) : visit.Underway calls taken ∧
        (world.pairing.toPhone ≠ [] → taken.left visit.toLinks < world.left visit.toLinks) := by
    have hsame : taken = world := by
      change world.takePairing visit.toLinks nowMs laterMs (some randomId) true = world
      rw [Acceptance.takePairing, InFlight.inbound, hphone, hup]
      rfl
    rw [hsame]
    exact ⟨h, fun hnot ↦ absurd hphone hnot⟩
  cases hfirst : h.first with
  | asked hwire hconnection =>
    refine hnone (by rw [hwire]) ?_
    obtain hconnection | hconnection := hconnection <;> rw [RunningAgent.hungUp, hconnection]
  | @exchanging task hconnection htask hexchanging =>
    obtain ⟨hphone, hnot⟩ | ⟨machine, ack, sas, hasked, hto, hphone, hanswer, hnext⟩ :=
      hexchanging.owed hphase
    · refine hnone hphone ?_
      rw [RunningAgent.hungUp, hconnection]
      exact decide_eq_false (htask ▸ hnot)
    · obtain ⟨peer, confirm, htake, hidentity, hpaired, hpast, hconfirms⟩ :=
        take_pairAck hasked hanswer nowMs laterMs (some randomId)
      have htaken : taken = { world with peer, pairing := ⟨[confirm], []⟩ } := by
        change world.takePairing visit.toLinks nowMs laterMs (some randomId) true = _
        rw [Acceptance.takePairing, InFlight.inbound, hphone]
        dsimp only
        rw [htake, hto]
        rfl
      have hsecond : visit.Second world.running peer world.session := by
        cases h.second with
        | apart hwire hconnection => exact .apart hwire hconnection (.inr ⟨nowMs, hpaired⟩)
        | speaking _ hspeaking => exact absurd hphase (hspeaking.phase_ne fsm)
      rw [htaken]
      refine ⟨⟨h.desk, h.admitted, hidentity.trans h.identity, ?_, hsecond, h.known⟩, fun _ ↦ ?_⟩
      · exact .exchanging hconnection htask (hnext peer confirm hpast hconfirms)
      · rw [Acceptance.left, Acceptance.left, hto, hasked]
        change 7 * peer.phase.left + 6 * (1 + world.session.toPc.length) +
          world.running.taskLeft visit.pairing + world.running.taskLeft visit.session < _
        rw [hpaired]
        change 7 * 5 + _ + _ + _ < 7 * 6 + 6 * (0 + _) + _ + _
        omega

omit [DecidableEq C] in
/-- The peer takes what it waits for on its second connection, if it has come. -/
theorem Underway.takeAnswer [Ciborium.Lawful] [AeadCorrect] [AeadAvailable]
    (h : visit.Underway calls world) {connection : ConnectionTask}
    (hconnection : world.running.connections visit.session = connection)
    (hspeaking : visit.Speaking world.peer world.running.stage world.running.events connection
      world.session.toPc world.session.toPhone) (hgoes : world.peer.phase ≠ .complete)
    (nowMs laterMs : UInt64) (randomId : Octets 8) :
    let taken := world.takeSession visit.toLinks nowMs laterMs (some randomId) true
    visit.Underway calls taken ∧
      (world.session.toPhone ≠ [] → taken.left visit.toLinks < world.left visit.toLinks) := by
  intro taken
  obtain ⟨-, ⟨hphone, hopen⟩ | ⟨awaited, reply, task, rest, rfl, hto, hphone, hexpects, hanswered, hdue,
    hphase, hquiet⟩⟩ := hspeaking.owed hgoes
  · have hup : world.running.hungUp visit.session = false := by
      rw [RunningAgent.hungUp, hconnection]
      obtain rfl | rfl | ⟨hello, rfl⟩ | ⟨task, rfl⟩ := hspeaking.open_or_absent
      · rfl
      · rfl
      · rfl
      · dsimp only
        split
        · next ok hreturned => exact absurd hreturned (hopen task ok rfl)
        · rfl
    have hsame : taken = world := by
      change world.takeSession visit.toLinks nowMs laterMs (some randomId) true = world
      rw [Acceptance.takeSession, InFlight.inbound, hphone, hup]
      rfl
    rw [hsame]
    exact ⟨h, fun hnot ↦ absurd hphone hnot⟩
  · rw [h.desk.stage] at hexpects
    obtain ⟨hadvanced, hfollows⟩ := hexpects.take hanswered hdue nowMs laterMs randomId
    generalize hresult : world.peer.take (.frame reply) nowMs laterMs (some randomId) true = result
      at hadvanced hfollows
    obtain ⟨peer, frames⟩ := result
    have htaken : taken = { world with peer, session := ⟨frames, []⟩ } := by
      change world.takeSession visit.toLinks nowMs laterMs (some randomId) true = _
      rw [Acceptance.takeSession, InFlight.inbound, hphone]
      dsimp only
      rw [hresult, hto]
      rfl
    have hnext : visit.Second world.running peer ⟨frames, []⟩ ∧ frames.length ≤ 1 := by
      obtain ⟨rfl, hshown⟩ | ⟨awaited', frame, rfl, hexpects', hrequested⟩ := hfollows
      · rw [← h.desk.stage] at hshown
        exact ⟨.speaking hconnection (.done hshown), Nat.zero_le 1⟩
      · rw [← h.desk.stage] at hexpects' hrequested
        exact ⟨.speaking hconnection (.sent hexpects' hphase hquiet hrequested), le_rfl⟩
    obtain ⟨hunderway, hleft⟩ := h.advances hspeaking.phase_ne hadvanced hnext.1
      (hnext.2.trans (Nat.le_add_left 1 _))
    rw [htaken]
    exact ⟨hunderway, fun _ ↦ hleft⟩

/-- The peer takes what it waits for, if it has come. -/
theorem Underway.take [Ciborium.Lawful] [AeadCorrect] [AeadAvailable] (h : visit.Underway calls world)
    (nowMs laterMs : UInt64) (randomId : Octets 8) :
    let taken := world.step visit.toLinks (.take nowMs laterMs (some randomId) true)
    visit.Underway calls taken ∧
      ((∃ fsm, world.peer.phase = .pairAck fsm) → world.pairing.toPhone ≠ [] →
        taken.left visit.toLinks < world.left visit.toLinks) ∧
      ((∀ fsm, world.peer.phase ≠ .pairAck fsm) → world.peer.phase ≠ .complete →
        world.session.toPhone ≠ [] → taken.left visit.toLinks < world.left visit.toLinks) := by
  intro taken
  by_cases hasked : ∃ fsm, world.peer.phase = .pairAck fsm
  · obtain ⟨fsm, hphase⟩ := hasked
    have hawaited : world.peer.awaited = some .pairAck := by rw [SimulatedPeer.awaited, hphase]
    have htaken : taken = world.takePairing visit.toLinks nowMs laterMs (some randomId) true := by
      change world.step visit.toLinks (.take nowMs laterMs (some randomId) true) = _
      rw [Acceptance.step, hawaited]
    obtain ⟨hunderway, hleft⟩ := h.takePairAck hphase nowMs laterMs randomId
    rw [htaken]
    exact ⟨hunderway, fun _ ↦ hleft, fun hnot ↦ absurd hphase (hnot fsm)⟩
  · have hnone (hawaited : world.peer.awaited = none) : taken = world := by
      change world.step visit.toLinks (.take nowMs laterMs (some randomId) true) = _
      rw [Acceptance.step, hawaited]
    cases h.second with
    | apart hwire _ hphase =>
      obtain hphase | ⟨pairedMs, hphase⟩ := hphase
      · exact absurd hphase hasked
      · rw [hnone (by rw [SimulatedPeer.awaited, hphase])]
        exact ⟨h, fun h ↦ absurd h hasked, fun _ _ h ↦ absurd (by rw [hwire]) h⟩
    | speaking hconnection hspeaking =>
      obtain ⟨ty, hawaited, hty⟩ | ⟨hshown, -⟩ := hspeaking.waits
      · have hgoes : world.peer.phase ≠ .complete := by
          intro hcomplete
          rw [SimulatedPeer.awaited, hcomplete] at hawaited
          cases hawaited
        have htaken : taken = world.takeSession visit.toLinks nowMs laterMs (some randomId) true := by
          change world.step visit.toLinks (.take nowMs laterMs (some randomId) true) = _
          rw [Acceptance.step, hawaited]
          split
          · next h => cases h
          · next h => exact absurd (Option.some.inj h) hty
          · rfl
        obtain ⟨hunderway, hleft⟩ :=
          h.takeAnswer hconnection hspeaking hgoes nowMs laterMs randomId
        rw [htaken]
        exact ⟨hunderway, fun h ↦ absurd h hasked, fun _ _ ↦ hleft⟩
      · rw [hnone (by rw [SimulatedPeer.awaited, hshown.phase])]
        exact ⟨h, fun h ↦ absurd h hasked, fun _ h ↦ absurd hshown.phase h⟩

theorem Underway.enterPairing (h : visit.Underway calls world) (nowMs : UInt64) :
    let entered := world.proceed visit.toLinks (.enter visit.pairing nowMs)
    visit.Underway calls entered ∧ (world.running.connections visit.pairing = .pairing →
      (world.running.tasks visit.pairing).takes (.readOffer visit.pairing) →
        entered.left visit.toLinks < world.left visit.toLinks) := by
  apply h.exchanges
  · intro hpairing
    rw [RunningAgent.step, hpairing]
  · intro hconnection
    obtain hconnection | hconnection := hconnection <;> rw [RunningAgent.step, hconnection]
  · intro task htask hexchanging
    exact hexchanging.readOffer htask h.desk.identity h.desk.displayName

theorem Underway.onFramePairing [X25519Commutes] [Ciborium.Lawful] (h : visit.Underway calls world)
    {nowMs : UInt64} (hclock : visit.Clock nowMs) (seed : Key32) :
    let handled := world.proceed visit.toLinks (.onFrame visit.pairing nowMs (some seed))
    visit.Underway calls handled ∧ (world.running.connections visit.pairing = .pairing →
      (world.running.tasks visit.pairing).takes (.onFrame visit.pairing nowMs (some seed)) →
        handled.left visit.toLinks < world.left visit.toLinks) := by
  apply h.exchanges
  · intro hpairing
    rw [RunningAgent.step, hpairing]
  · intro hconnection
    obtain hconnection | hconnection := hconnection <;> rw [RunningAgent.step, hconnection]
  · intro task htask hexchanging
    exact hexchanging.onFrame htask hclock seed

theorem Underway.actPairing [TextCodecs.Lawful] (h : visit.Underway calls world) (loads : Bool) :
    let acted := world.proceed visit.toLinks (.act visit.pairing loads true)
    visit.Underway calls acted ∧ (world.running.connections visit.pairing = .pairing →
      (world.running.tasks visit.pairing).takes (.act visit.pairing loads true) →
        acted.left visit.toLinks < world.left visit.toLinks) := by
  apply h.exchanges
  · intro hpairing
    rw [RunningAgent.step, hpairing]
  · intro hconnection
    obtain hconnection | hconnection := hconnection <;> rw [RunningAgent.step, hconnection]
  · intro task htask hexchanging
    exact hexchanging.act htask loads

theorem Underway.endPairing (h : visit.Underway calls world)
    (hdropped : ∀ fsm, world.peer.phase ≠ .pairAck fsm) (hread : world.pairing.toPc = []) :
    visit.Underway calls (world.proceed visit.toLinks (.next visit.pairing .ended)) := by
  have hstep (hpairing : world.running.connections visit.pairing = .pairing) :
      world.running.step (.next visit.pairing .ended) =
        world.running.pair (.nextFrame visit.pairing none) := by
    rw [RunningAgent.step, hpairing]
    rfl
  refine (h.exchanges hstep ?_ ?_).1
  · intro hconnection
    obtain hconnection | hconnection := hconnection <;> rw [RunningAgent.step, hconnection]
  · intro task htask hexchanging
    exact hexchanging.ended htask hdropped hread

/-- The loop of the second connection reads the flag, and finds it unset. -/
theorem Underway.readPaused (h : visit.Underway calls world) :
    let read := world.proceed visit.toLinks (.readPaused visit.session)
    visit.Underway calls read ∧ ∀ task frame,
      world.running.connections visit.session = .session task → task.phase = .received frame →
        world.running.flags visit.session = none →
          read.left visit.toLinks < world.left visit.toLinks := by
  intro read
  have hrunning : read.running = world.running.step (.readPaused visit.session) := rfl
  obtain hopen | ⟨task, hsession⟩ := h.second.standing
  · have hstill : world.running.step (.readPaused visit.session) = world.running := by
      obtain hconnection | hconnection | ⟨hello, hconnection⟩ := hopen <;>
        rw [RunningAgent.step, hconnection]
    refine ⟨h.still hstill, fun task frame hsession ↦ ?_⟩
    obtain hconnection | hconnection | ⟨hello, hconnection⟩ := hopen <;>
      cases hconnection.symm.trans hsession
  have hread : world.running.step (.readPaused visit.session) =
      world.running.readPaused visit.session task := by
    rw [RunningAgent.step, hsession]
  by_cases hready : (∃ frame, task.phase = .received frame) ∧ world.running.flags visit.session = none
  · obtain ⟨⟨frame, hphase⟩, hnone⟩ := hready
    have hstep : world.running.step (.readPaused visit.session) =
        world.running.setFlag visit.session (some false) := by
      rw [hread, RunningAgent.readPaused, hphase, hnone, h.desk.unpaused]
    have hsame : visit.Undisturbed world.running (world.running.step (.readPaused visit.session)) := by
      rw [hstep]
      exact undisturbed_setFlag world.running (by simp)
    have hflag : (world.running.step (.readPaused visit.session)).flags visit.session = some false := by
      rw [hstep]
      exact Function.update_self ..
    have hsent : (world.running.step (.readPaused visit.session)).sent = world.running.sent := by
      rw [hsame.agent]
    have hpairing : read.pairing = world.pairing :=
      Acceptance.proceed_pairing_self (RunningAgent.written_congr hsame.atPairing hsent)
    have hwire : read.session = world.session :=
      Acceptance.proceed_session_self (RunningAgent.written_congr hsame.atSession hsent)
    have hother : (world.running.step (.readPaused visit.session)).taskLeft visit.pairing =
        world.running.taskLeft visit.pairing := by
      apply RunningAgent.taskLeft_congr hsame.atPairing
      · rw [hsame.agent]
      · rw [hstep]
        exact Function.update_of_ne visit.ne ..
    have hbefore : world.running.taskLeft visit.session = 4 := by
      rw [RunningAgent.taskLeft_session hsession, hphase, hnone]
      rfl
    have hafter : (world.running.step (.readPaused visit.session)).taskLeft visit.session = 3 := by
      rw [RunningAgent.taskLeft_session (hsame.atSession.trans hsession), hphase, hflag]
      rfl
    refine ⟨h.undisturbed hsame, fun _ _ _ _ _ ↦ ?_⟩
    rw [Acceptance.left, Acceptance.left, hrunning, hpairing, hwire, hother, hbefore, hafter]
    exact Nat.lt_succ_self _
  · have hstill : world.running.step (.readPaused visit.session) = world.running := by
      rw [hread]
      unfold RunningAgent.readPaused
      split
      · next frame hphase hnone => exact absurd ⟨⟨frame, hphase⟩, hnone⟩ hready
      · rfl
    refine ⟨h.still hstill, fun task' frame hsession' hphase hnone ↦ ?_⟩
    cases hsession.symm.trans hsession'
    exact absurd ⟨⟨frame, hphase⟩, hnone⟩ hready

theorem Underway.onFrameSession (h : visit.Underway calls world) {nowMs : UInt64}
    (hclock : visit.Clock nowMs) (seed : Key32) :
    let handled := world.proceed visit.toLinks (.onFrame visit.session nowMs (some seed))
    visit.Underway calls handled ∧ ∀ task, world.running.connections visit.session = .session task →
      world.running.flags visit.session ≠ none → world.peer.phase ≠ .complete →
        task.takes (.onFrame false nowMs (some seed)) →
          handled.left visit.toLinks < world.left visit.toLinks := by
  intro handled
  have hstill (hopen : world.running.connections visit.session = .absent ∨
      world.running.connections visit.session = .waiting ∨
        ∃ hello, world.running.connections visit.session = .greeted hello) :
      world.running.step (.onFrame visit.session nowMs (some seed)) = world.running := by
    obtain hconnection | hconnection | ⟨hello, hconnection⟩ := hopen <;>
      rw [RunningAgent.step, hconnection]
  have hcall (task : SessionTask) (hsession : world.running.connections visit.session = .session task) :
      world.running.step (.onFrame visit.session nowMs (some seed)) =
        world.running.call visit.session task nowMs (some seed) := by
    rw [RunningAgent.step, hsession]
  cases hflag : world.running.flags visit.session with
  | none =>
    refine ⟨h.still ?_, fun _ _ hsome ↦ absurd rfl hsome⟩
    obtain hopen | ⟨task, hsession⟩ := h.second.standing
    · exact hstill hopen
    · rw [hcall task hsession, RunningAgent.call, hflag]
  | some paused =>
    have hunset : paused = false := by
      cases paused
      · rfl
      · exact absurd hflag h.desk.flag
    have hflags : visit.Flags world.running
        (Function.update world.running.flags visit.session none) := by
      refine ⟨Function.update_of_ne visit.ne .., ?_⟩
      rw [Function.update_self]
      simp
    have hdriven (task : SessionTask)
        (hsession : world.running.connections visit.session = .session task) :
        world.running.step (.onFrame visit.session nowMs (some seed)) =
          { world.running.drive visit.session task (.onFrame false nowMs (some seed)) with
            flags := Function.update world.running.flags visit.session none } := by
      rw [hcall task hsession, RunningAgent.call, hflag, hunset]
      rfl
    obtain ⟨hunderway, hleft⟩ := h.speaks hflags hdriven hstill fun task hspeaking hgoes ↦
      hspeaking.onFrame hgoes hclock seed
    exact ⟨hunderway, fun task hsession _ ↦ hleft task hsession⟩

theorem Underway.actSession [Ciborium.Lawful] [AeadCorrect] [AeadAvailable]
    (h : visit.Underway calls world) (loads : Bool) :
    let acted := world.proceed visit.toLinks (.act visit.session loads true)
    visit.Underway calls acted ∧ ∀ task, world.running.connections visit.session = .session task →
      world.peer.phase ≠ .complete → task.takes (.act world.running.stage true) →
        acted.left visit.toLinks < world.left visit.toLinks := by
  apply h.speaks h.desk.flags
  · intro task hsession
    rw [RunningAgent.step, hsession]
    rfl
  · intro hconnection
    obtain hconnection | hconnection | ⟨hello, hconnection⟩ := hconnection <;>
      rw [RunningAgent.step, hconnection]
  · intro task hspeaking hgoes
    exact hspeaking.act hgoes

theorem Underway.endSession (h : visit.Underway calls world)
    (hcomplete : world.peer.phase = .complete) :
    visit.Underway calls (world.proceed visit.toLinks (.next visit.session .ended)) := by
  have hstep (task : SessionTask) (hsession : world.running.connections visit.session = .session task) :
      world.running.step (.next visit.session .ended) =
        { world.running.drive visit.session task (.next .ended) with
          flags := world.running.flags } := by
    rw [RunningAgent.step, hsession]
    rfl
  refine (h.speaks h.desk.flags hstep ?_ ?_).1
  · intro hconnection
    obtain hconnection | hconnection | ⟨hello, hconnection⟩ := hconnection <;>
      rw [RunningAgent.step, hconnection]
  · exact fun task _ hgoes ↦ absurd hcomplete hgoes

/-- Whatever happens to a check that is left alone, it stands where one stands that is. -/
theorem Underway.step [X25519Commutes] [Ciborium.Lawful] [TextCodecs.Lawful] [AeadCorrect]
    [AeadAvailable] (h : visit.Underway calls world) {input : Acceptance.Input Ip C}
    (hcalm : Acceptance.Calm visit world input) :
    visit.Underway calls (world.step visit.toLinks input) := by
  cases hcalm with
  | elsewhere helsewhere => exact h.undisturbed (Visit.undisturbed h.desk.foreign helsewhere)
  | acceptPairing => exact h.acceptPairing.1
  | acceptSession hconnected => exact (h.acceptSession hconnected).1
  | enterPairing nowMs => exact (h.enterPairing nowMs).1
  | enterSession nowMs hknown => exact (h.enterSession nowMs hknown).1
  | onFramePairing hclock seed => exact (h.onFramePairing hclock seed).1
  | readPaused => exact h.readPaused.1
  | onFrameSession hclock seed => exact (h.onFrameSession hclock seed).1
  | actPairing loads => exact (h.actPairing loads).1
  | actSession loads => exact (h.actSession loads).1
  | endPairing hdropped hread => exact h.endPairing hdropped hread
  | endSession hcomplete => exact h.endSession hcomplete
  | pairingArrives => exact h.pairingArrives.1
  | sessionArrives => exact h.sessionArrives.1
  | take nowMs laterMs randomId => exact (h.take nowMs laterMs randomId).1
  | reconnect hclock seed => exact (h.reconnect hclock seed).1

/-! ## Progress -/

section Progress

variable [X25519Commutes] [Ciborium.Lawful] [TextCodecs.Lawful] [AeadCorrect] [AeadAvailable]

omit [DecidableEq Ip] [DecidableEq C] [Ciborium] [TextCodecs] [X25519Commutes] [Ciborium.Lawful]
  [TextCodecs.Lawful] [AeadCorrect] [AeadAvailable] in
theorem clock_earliest : visit.Clock visit.earliest := ⟨le_rfl, visit.ordered⟩

/-- Something can happen that brings the check nearer to its end. -/
def GoesOn (visit : Visit Ip C) (world : Acceptance Ip C) : Prop :=
  ∃ input, Acceptance.Calm visit world input ∧
    (world.step visit.toLinks input).left visit.toLinks < world.left visit.toLinks

/-- The pairing exchange can go on, or the phone has paired. -/
theorem Underway.pairing_goesOn (h : visit.Underway calls world) : visit.GoesOn world ∨
    visit.Introduced world.running.peers ∧ ∀ fsm, world.peer.phase ≠ .pairAck fsm := by
  cases h.first with
  | asked hwire hconnection =>
    left
    obtain habsent | hwaiting := hconnection
    · exact ⟨_, .acceptPairing, h.acceptPairing.2 habsent⟩
    · refine ⟨_, .pairingArrives, h.pairingArrives.2 (by rw [hwire]; simp) ?_⟩
      rw [RunningAgent.listens, hwaiting]
  | exchanging hconnection htask hexchanging =>
    obtain hready | hready | hready | ⟨⟨fsm, hphase⟩, hphone⟩ | ⟨hto, window, machine, hacting⟩ |
      hpaired := hexchanging.ready
    · exact .inl ⟨_, .enterPairing 0, (h.enterPairing 0).2 hconnection (htask ▸ hready)⟩
    · exact .inl ⟨_, .onFramePairing clock_earliest visit.phoneSeed,
        (h.onFramePairing clock_earliest visit.phoneSeed).2 hconnection (htask ▸ hready _ _)⟩
    · exact .inl ⟨_, .actPairing true, (h.actPairing true).2 hconnection (htask ▸ hready true)⟩
    · exact .inl ⟨_, .take 0 0 (List.Vector.replicate 8 0),
        (h.take 0 0 (List.Vector.replicate 8 0)).2.1 ⟨fsm, hphase⟩ hphone⟩
    · refine .inl ⟨_, .pairingArrives, h.pairingArrives.2 hto ?_⟩
      rw [RunningAgent.listens, hconnection]
      dsimp only
      rw [htask, hacting]
    · exact .inr hpaired

/-- As long as the check is not complete, it can go on. -/
theorem Underway.goesOn (h : visit.Underway calls world) :
    world.peer.phase = .complete ∨ visit.GoesOn world := by
  obtain hpairing | ⟨hintroduced, hphase⟩ := h.pairing_goesOn
  · exact .inr hpairing
  by_cases hcomplete : world.peer.phase = .complete
  · exact .inl hcomplete
  right
  cases h.second with
  | apart _ _ hpast =>
    obtain ⟨fsm, hasked⟩ | ⟨pairedMs, hpaired⟩ := hpast
    · exact absurd hasked (hphase fsm)
    · exact ⟨_, .reconnect clock_earliest visit.phoneSeed,
        (h.reconnect clock_earliest visit.phoneSeed).2 ⟨_, hpaired⟩⟩
  | speaking hconnection hspeaking =>
    obtain rfl | rfl | ⟨hello, rfl⟩ | ⟨task, rfl⟩ := hspeaking.open_or_absent
    · obtain ⟨hello, hto, -⟩ := hspeaking.accepted.greets
      have hconnected : world.session.toPc ≠ [] := by
        rw [hto]
        simp
      exact ⟨_, .acceptSession hconnected, (h.acceptSession hconnected).2 hconnection⟩
    · obtain ⟨hello, hto, -⟩ := hspeaking.greets
      refine ⟨_, .sessionArrives, h.sessionArrives.2 hcomplete (by rw [hto]; simp) ?_⟩
      rw [RunningAgent.listens, hconnection]
    · obtain ⟨pairedMs, hmem, -⟩ := hintroduced
      have hknown : ∃ record ∈ world.running.peers, record.peerKey = .ok visit.phoneKey :=
        ⟨_, hmem, HonestDevices.peerKey_new ..⟩
      exact ⟨_, .enterSession 0 hknown, (h.enterSession 0 hknown).2 hello hconnection⟩
    · obtain hready | hready | ⟨hto, hlistens⟩ | hphone | hdone := hspeaking.ready
      · cases hflag : world.running.flags visit.session with
        | none =>
          obtain ⟨frame, hphase⟩ := SessionTask.received_of_takes (hready 0 none)
          exact ⟨_, .readPaused, h.readPaused.2 task frame hconnection hphase hflag⟩
        | some paused =>
          exact ⟨_, .onFrameSession clock_earliest visit.phoneSeed,
            (h.onFrameSession clock_earliest visit.phoneSeed).2 task hconnection (by rw [hflag]; simp)
              hcomplete (hready _ _)⟩
      · exact ⟨_, .actSession true, (h.actSession true).2 task hconnection hcomplete hready⟩
      · refine ⟨_, .sessionArrives, h.sessionArrives.2 hcomplete hto ?_⟩
        rw [RunningAgent.listens, hconnection]
        exact decide_eq_true hlistens
      · exact ⟨_, .take 0 0 (List.Vector.replicate 8 0),
          (h.take 0 0 (List.Vector.replicate 8 0)).2.2 hphase hcomplete hphone⟩
      · exact absurd hdone hcomplete

end Progress

end Visit

end Worlds

end AirClip
