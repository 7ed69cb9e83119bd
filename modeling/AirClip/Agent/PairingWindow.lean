import AirClip.Agent.PairingServer

/-!
# The pairing window

The slot of the pairing window is set by the user and emptied by the task whose pairing has completed,
which may be minutes after it has read its offer.  The task empties the slot whatever it holds.  Along a
run, every completed pairing closes its own window only, and the newest offer stays open until it is used,
exactly if no task comes to its end while the slot holds an offer it has not started from.
-/

open Foundation

namespace AirClip

section Window

variable [Primitives]

/-- The window of the machine a task is at. -/
def Task.window? : Task → Option ℕ
  | .received window _ _ | .acting window _ _ => some window
  | _ => none

/-- The machine has completed, and what follows has not been carried out to its end. -/
def Task.Completing : Task → Prop
  | .acting _ _ actions => ∃ record, .completed record ∈ actions
  | .storing .. | .closing _ => True
  | _ => False

namespace Agent

variable {C : Type} [Ciborium] [TextCodecs]

/-- The connection has started from the offer of this window. -/
def StartedFrom (agent : Agent C) (c : C) (window : ℕ) : Prop :=
  ∃ call ∈ agent.handled, call.connection = c ∧ call.window = window

/-- A pairing that has started from the offer of this window has completed. -/
def Used (agent : Agent C) (window : ℕ) : Prop :=
  ∃ call ∈ agent.handled, call.window = window ∧ ∃ record, .completed record ∈ call.actions

/-- The input brings the task of the connection to its end, where it closes the window. -/
inductive Closes (agent : Agent C) (c : C) : Input C → Prop
  | act {record : PairingRecord} (htask : agent.tasks c = .closing record) (loads works : Bool) :
      Closes agent c (.act c loads works)

variable [DecidableEq C]

/-- A task that ends empties the slot if it holds the offer the task has started from, and leaves it alone
if it holds another. -/
def ClosesOwn (agent : Agent C) (input : Input C) : Prop :=
  ∀ {c window offer}, agent.Closes c input → agent.pairing = some (window, offer) →
    (agent.StartedFrom c window → (agent.step input).pairing = none) ∧
      (¬ agent.StartedFrom c window → (agent.step input).pairing = some (window, offer))

/-- As long as the newest offer has not been used it is in the slot, and every connection that asks for
it is served. -/
def NewestServed (agent : Agent C) : Prop :=
  ∀ {newest}, agent.windows = newest + 1 → ¬ agent.Used newest →
    ∃ offer, agent.pairing = some (newest, offer) ∧
      ∀ {c frame}, agent.tasks c = .handed frame →
        (agent.step (.readOffer c)).tasks c = .received newest (agent.machineFor offer) frame

/-- A task that ends finds the slot empty or with the offer it has started from. -/
def OwnSlot (agent : Agent C) (input : Input C) : Prop :=
  ∀ {c window offer}, agent.Closes c input → agent.pairing = some (window, offer) →
    agent.StartedFrom c window

/-! ## The slot -/

/-- What a step does to the slot. -/
inductive SlotStep (agent : Agent C) (input : Input C) (agent' : Agent C) : Prop
  | same (hpairing : agent'.pairing = agent.pairing) (hwindows : agent'.windows = agent.windows)
  | opened (offer : PairingOffer) (hpairing : agent'.pairing = some (agent.windows, offer))
      (hwindows : agent'.windows = agent.windows + 1)
  | closed {c : C} (hcloses : agent.Closes c input) (hpairing : agent'.pairing = none)
      (hwindows : agent'.windows = agent.windows)

theorem slot_cases (agent : Agent C) (input : Input C) :
    agent.SlotStep input (agent.step input) := by
  cases input with
  | openPairingWindow token hosts nowMs =>
    change agent.SlotStep _ (agent.openPairingWindow token hosts nowMs)
    unfold openPairingWindow
    split
    · exact .same rfl rfl
    · split
      · exact .same rfl rfl
      · exact .opened _ rfl rfl
  | firstFrame c frame =>
    rw [step]
    split
    · exact .same rfl rfl
    · exact .same rfl rfl
  | readOffer c =>
    rw [step]
    split
    · exact .same rfl rfl
    · exact .same rfl rfl
    · exact .same rfl rfl
  | onFrame c nowMs seed =>
    rw [step]
    split
    · exact .same rfl rfl
    · exact .same rfl rfl
  | act c loads works =>
    rw [step]
    split
    · next window pairing action rest _ =>
      cases action with
      | send | completed => cases works <;> exact .same rfl rfl
      | showSas | failed => exact .same rfl rfl
    · exact .same rfl rfl
    · next htask => exact .closed (.act htask loads works) rfl rfl
    · exact .same rfl rfl
  | nextFrame c frame =>
    rw [step]
    unfold receive
    split
    · exact .same rfl rfl
    · exact .same rfl rfl
    · exact .same rfl rfl

theorem Closes.pairing {agent : Agent C} {c : C} {input : Input C} (h : agent.Closes c input) :
    (agent.step input).pairing = none := by
  cases h with
  | act htask loads works =>
    rw [step, htask]
    rfl

/-! ## One window for each connection -/

/-- All calls of a connection are made for one window, and a task that is completing has been completed by
one of them. -/
structure OneWindow (agent : Agent C) : Prop where
  called : agent.CalledOnce
  window : ∀ {call w}, call ∈ agent.handled → (agent.tasks call.connection).window? = some w →
    call.window = w
  same : ∀ {call call'}, call ∈ agent.handled → call' ∈ agent.handled →
    call.connection = call'.connection → call.window = call'.window
  completed : ∀ {c}, (agent.tasks c).Completing →
    ∃ call ∈ agent.handled, call.connection = c ∧ ∃ record, .completed record ∈ call.actions

omit [Ciborium] [TextCodecs] [DecidableEq C] in
theorem Moves.window {agent : Agent C} {task task' : Task} (h : agent.Moves task task')
    (hcalled : task.Called) {w : ℕ} (hw : task'.window? = some w) : task.window? = some w := by
  cases h with
  | hand | read => exact hcalled.elim
  | act | receive => exact hw
  | close | finish => cases hw

omit [Ciborium] [TextCodecs] [DecidableEq C] in
theorem Moves.completing {agent : Agent C} {task task' : Task} (h : agent.Moves task task')
    (hcompleting : task'.Completing) : task.Completing := by
  cases h with
  | hand | read | receive | finish => exact hcompleting.elim
  | act =>
    obtain ⟨record, hmem⟩ := hcompleting
    exact ⟨record, List.mem_cons_of_mem _ hmem⟩
  | close => trivial

/-- A task that moves keeps to its window and to what has completed it. -/
theorem OneWindow.moved {agent agent' : Agent C} (h : agent.OneWindow) {c : C} {task : Task}
    (hhandled : agent'.handled = agent.handled)
    (htasks : agent'.tasks = Function.update agent.tasks c task)
    (hcalled' : agent'.CalledOnce)
    (hwindow : (agent.tasks c).Called → ∀ {w}, task.window? = some w →
      (agent.tasks c).window? = some w)
    (hcompleting : task.Completing → (agent.tasks c).Completing) : agent'.OneWindow := by
  refine ⟨hcalled', ?_, ?_, ?_⟩
  · intro call w hmem hw
    rw [hhandled] at hmem
    rw [htasks] at hw
    by_cases hc : call.connection = c
    · rw [hc, Function.update_self] at hw
      have hcalled := h.called.called call hmem
      rw [hc] at hcalled
      exact h.window hmem (hc ▸ hwindow hcalled hw)
    · rw [Function.update_of_ne hc] at hw
      exact h.window hmem hw
  · rw [hhandled]
    exact h.same
  · intro d hd
    rw [htasks] at hd
    rw [hhandled]
    by_cases hdc : d = c
    · subst hdc
      rw [Function.update_self] at hd
      exact h.completed (hcompleting hd)
    · rw [Function.update_of_ne hdc] at hd
      exact h.completed hd

/-- The call of a machine belongs to the window its task is at. -/
theorem OneWindow.handle {agent : Agent C} (h : agent.OneWindow) {c : C} {window : ℕ}
    {pairing : PcPairing} {frame : Frame} (nowMs : UInt64) (seed : Option Key32)
    (htask : agent.tasks c = .received window pairing frame) :
    (agent.handle c window pairing frame nowMs seed).OneWindow := by
  have hearlier {call : Handling C} (hmem : call ∈ agent.handled) (hc : call.connection = c) :
      call.window = window := h.window hmem (by rw [hc, htask]; rfl)
  refine ⟨h.called.handle nowMs seed htask, ?_, ?_, ?_⟩
  · intro call w hmem hw
    change (Function.update agent.tasks c _ call.connection).window? = some w at hw
    by_cases hc : call.connection = c
    · rw [hc, Function.update_self] at hw
      cases hw
      obtain hmem | hmem := List.mem_append.mp hmem
      · exact hearlier hmem hc
      · cases List.mem_singleton.mp hmem
        rfl
    · rw [Function.update_of_ne hc] at hw
      obtain hmem | hmem := List.mem_append.mp hmem
      · exact h.window hmem hw
      · cases List.mem_singleton.mp hmem
        exact absurd rfl hc
  · intro call call' hmem hmem' hconnection
    obtain hmem | hmem := List.mem_append.mp hmem <;> obtain hmem' | hmem' := List.mem_append.mp hmem'
    · exact h.same hmem hmem' hconnection
    · cases List.mem_singleton.mp hmem'
      exact hearlier hmem hconnection
    · cases List.mem_singleton.mp hmem
      exact (hearlier hmem' hconnection.symm).symm
    · cases List.mem_singleton.mp hmem
      cases List.mem_singleton.mp hmem'
      rfl
  · intro d hd
    change (Function.update agent.tasks c _ d).Completing at hd
    by_cases hdc : d = c
    · subst hdc
      rw [Function.update_self] at hd
      exact ⟨_, List.mem_append_right _ List.mem_cons_self, rfl, hd⟩
    · rw [Function.update_of_ne hdc] at hd
      obtain ⟨call, hmem, hconnection, hcompleted⟩ := h.completed hd
      exact ⟨call, List.mem_append_left _ hmem, hconnection, hcompleted⟩

theorem OneWindow.step {agent : Agent C} (h : agent.OneWindow) (input : Input C) :
    (agent.step input).OneWindow := by
  have hcalled := h.called.step input
  have hstepped := agent.step_cases input
  generalize agent.step input = agent' at hstepped hcalled
  cases hstepped with
  | still hsame htasks =>
    refine ⟨hcalled, ?_, ?_, ?_⟩
    · rw [hsame.handled, htasks]
      exact h.window
    · rw [hsame.handled]
      exact h.same
    · rw [hsame.handled, htasks]
      exact h.completed
  | moved hsame hmoves htasks =>
    exact h.moved hsame.handled htasks hcalled hmoves.window hmoves.completing
  | called htask => exact h.handle _ _ htask
  | saved htask hidentity hhandled hpersisted htasks =>
    apply h.moved hhandled htasks hcalled
    · intro _ w hw
      cases hw
    · intro _
      rw [htask]
      exact ⟨_, List.mem_cons_self⟩

/-! ## The newest offer -/

/-- The slot holds the newest offer, or none when there is no offer or the newest has been used. -/
structure NewestKept (agent : Agent C) : Prop where
  one : agent.OneWindow
  newest : ∀ {window offer}, agent.pairing = some (window, offer) → agent.windows = window + 1
  used : agent.pairing = none → ∀ {newest}, agent.windows = newest + 1 → agent.Used newest

/-- What has been used stays so. -/
theorem Used.step {agent : Agent C} {window : ℕ} (h : agent.Used window) (input : Input C) :
    (agent.step input).Used window := by
  obtain ⟨call, hmem, hused⟩ := h
  have hstepped := agent.step_cases input
  generalize agent.step input = agent' at hstepped
  cases hstepped with
  | still hsame | moved hsame => exact ⟨call, hsame.handled ▸ hmem, hused⟩
  | called => exact ⟨call, List.mem_append_left _ hmem, hused⟩
  | saved _ _ hhandled => exact ⟨call, hhandled ▸ hmem, hused⟩

omit [DecidableEq C] in
/-- A task that ends has used the offer it has started from. -/
theorem OneWindow.used {agent : Agent C} (h : agent.OneWindow) {c : C} {window : ℕ}
    (hstarted : agent.StartedFrom c window) {input : Input C} (hcloses : agent.Closes c input) :
    agent.Used window := by
  obtain ⟨call, hmem, hconnection, hwindow⟩ := hstarted
  cases hcloses with
  | act htask =>
    obtain ⟨call', hmem', hconnection', hcompleted⟩ := h.completed (by rw [htask]; trivial)
    exact ⟨call', hmem', (h.same hmem' hmem (hconnection'.trans hconnection.symm)).trans hwindow,
      hcompleted⟩

theorem NewestKept.step {agent : Agent C} (h : agent.NewestKept) {input : Input C}
    (hown : agent.OwnSlot input) : (agent.step input).NewestKept := by
  have hused {newest : ℕ} (hearlier : agent.Used newest) := hearlier.step input
  have hslot := agent.slot_cases input
  refine ⟨h.one.step input, ?_, ?_⟩
  · intro window offer hpairing
    cases hslot with
    | same hsame hwindows => exact hwindows.trans (h.newest (hsame.symm.trans hpairing))
    | opened offer hopened hwindows =>
      cases hopened.symm.trans hpairing
      exact hwindows
    | closed _ hnone => cases hnone.symm.trans hpairing
  · intro hpairing newest hnewest
    cases hslot with
    | same hsame hwindows =>
      exact hused (h.used (hsame.symm.trans hpairing) (hwindows.symm.trans hnewest))
    | opened offer hopened => cases hopened.symm.trans hpairing
    | closed hcloses _ hwindows =>
      have hbefore := hwindows.symm.trans hnewest
      cases hoffer : agent.pairing with
      | none => exact hused (h.used hoffer hbefore)
      | some slot =>
        obtain ⟨window, offer⟩ := slot
        cases (h.newest hoffer).symm.trans hbefore
        exact hused (h.one.used (hown hcloses hoffer) hcloses)

theorem NewestKept.served {agent : Agent C} (h : agent.NewestKept) : agent.NewestServed := by
  intro newest hnewest hunused
  cases hoffer : agent.pairing with
  | none => exact absurd (h.used hoffer hnewest) hunused
  | some slot =>
    obtain ⟨window, offer⟩ := slot
    cases (h.newest hoffer).symm.trans hnewest
    refine ⟨offer, rfl, fun htask ↦ ?_⟩
    rw [Agent.step, htask, hoffer]
    exact Function.update_self ..

omit [DecidableEq C] in
theorem NewestKept.start (identity : IdentityKeypair) (displayName : String)
    (stored : List PairingRecord) : (start identity displayName stored : Agent C).NewestKept :=
  { one := ⟨⟨List.Pairwise.nil, fun _ ↦ nofun⟩, nofun, nofun, False.elim⟩
    newest := nofun
    used := nofun }

/-- Where the newest offer has been kept, a step closes no window but the task's own, and serves the newest
offer on, exactly if the slot of a task that ends is its own. -/
theorem NewestKept.ownSlot_iff {agent : Agent C} (h : agent.NewestKept) (input : Input C) :
    agent.OwnSlot input ↔ agent.ClosesOwn input ∧ (agent.step input).NewestServed := by
  constructor
  · intro hown
    refine ⟨fun hcloses hoffer ↦ ⟨fun _ ↦ hcloses.pairing, fun hother ↦ ?_⟩, (h.step hown).served⟩
    exact absurd (hown hcloses hoffer) hother
  · intro hcloses c window offer hends hoffer
    by_contra hother
    cases hends.pairing.symm.trans ((hcloses.1 hends hoffer).2 hother)

/-- In every run, the tasks that end close their own windows only, and after every step the newest unused
offer is served to every connection that asks for it, exactly if no task ends while the slot holds an
offer it has not started from. -/
theorem closes_own_window_iff (identity : IdentityKeypair) (displayName : String)
    (stored : List PairingRecord) (inputs : List (Input C)) :
    EveryStep step (fun agent input ↦ agent.ClosesOwn input ∧ (agent.step input).NewestServed)
        (start identity displayName stored) inputs ↔
      EveryStep step OwnSlot (start identity displayName stored) inputs :=
  (EveryStep.congr (fun _ _ hown hkept ↦ hkept.step hown) (fun _ input hkept ↦ hkept.ownSlot_iff input)
    (NewestKept.start identity displayName stored) inputs).symm

end Agent

end Window

namespace Reference

/-- The phone's pairing has completed and is about to end when the user opens the window anew. -/
def reopened : Agent Bool :=
  (Agent.start devices.pc devices.pcName []).run
    [.openPairingWindow (some devices.token) devices.hosts devices.issuedMs,
      .firstFrame false pairReq, .readOffer false, .onFrame false 2000 (some devices.pcSeed),
      .act false true true, .act false true true, .nextFrame false (some pairConfirm),
      .onFrame false 3000 none, .act false true true, .act false true true,
      .openPairingWindow (some (pad 16 [0x5B])) devices.hosts 4000]

/-- The window that has just been opened is closed by the task of the one before. -/
def closedAnew : Agent Bool := reopened.step (.act false true true)

end Reference

open Reference in
/-- The end of the first pairing empties the slot of the second window, which nothing has used, and the
next PAIR_REQ is turned away. -/
theorem completing_closes_newer_window :
    ¬ reopened.ClosesOwn (.act false true true) ∧ ¬ closedAnew.NewestServed ∧
      (closedAnew.run [.firstFrame true pairReq, .readOffer true]).tasks true = .ended := by
  have hclosing : ∃ record, reopened.tasks false = .closing record :=
    ⟨.new devices.phone.deviceId devices.phone.publicBytes devices.phoneName 3000, by decide +kernel⟩
  have hslot : reopened.pairing.map Prod.fst = some 1 := by decide +kernel
  have hother : ¬ ∃ call ∈ reopened.handled, call.connection = false ∧ call.window = 1 := by
    decide +kernel
  have hempty : closedAnew.pairing.isNone := by decide +kernel
  have hunused : ¬ ∃ call ∈ closedAnew.handled, call.window = 1 := by decide +kernel
  refine ⟨?_, ?_, by decide +kernel⟩
  · intro hcloses
    obtain ⟨record, htask⟩ := hclosing
    obtain ⟨⟨window, offer⟩, hoffer, rfl⟩ := Option.map_eq_some_iff.mp hslot
    have hsome : closedAnew.pairing = some (1, offer) :=
      (hcloses (.act htask true true) hoffer).2 hother
    rw [Option.isNone_iff_eq_none.mp hempty] at hsome
    cases hsome
  · intro hserved
    obtain ⟨offer, hoffer, -⟩ := hserved (by decide +kernel : closedAnew.windows = 1 + 1)
      fun ⟨call, hmem, hwindow, _⟩ ↦ hunused ⟨call, hmem, hwindow⟩
    rw [Option.isNone_iff_eq_none.mp hempty] at hoffer
    cases hoffer

end AirClip
