import AirClip.Phone.PersistedPairings

/-!
# What the user has compared

A confirmation takes whatever exchange is pending, not the one whose emoji were on the screen.  The two are
the same as long as no code is scanned while an earlier pairing is under way, or its emoji have not been
shown yet, or a confirmation has still to begin.  Two pairings at a time can have the user confirm a
computer whose emoji they have never seen.
-/

open Foundation

namespace AirClip

section Compared

variable [Primitives] [NetAddresses]

/-- The task has a code to pair with, and has not got to the emoji. -/
def CommandTask.Begins : CommandTask → Prop
  | .scanned .. | .dialing .. => True
  | _ => False

namespace PhoneApp

variable {T : Type}

def Begins (app : PhoneApp T) (t : T) : Prop := (app.tasks t).Begins

omit [NetAddresses] in
theorem begins_of_update [DecidableEq T] {tasks : T → CommandTask} {t other : T} {moved : CommandTask}
    (h : (Function.update tasks t moved other).Begins) :
    other = t ∧ moved.Begins ∨ other ≠ t ∧ (tasks other).Begins := by
  by_cases ht : other = t
  · rw [ht, Function.update_self] at h
    exact .inl ⟨ht, h⟩
  · rw [Function.update_of_ne ht] at h
    exact .inr ⟨ht, h⟩

/-- The main actor has to show emoji. -/
def Reports (app : PhoneApp T) (emoji : List String) : Prop := .event (.pairingSas emoji) ∈ app.jobs

/-- No pairing is under way, no emoji have still to be shown, and no confirmation has still to begin. -/
structure Settled (app : PhoneApp T) : Prop where
  begins : ∀ t, ¬ app.Begins t
  reports : ∀ emoji, ¬ app.Reports emoji
  matched : ∀ t emoji, app.tasks t ≠ .matched emoji

/-- A code is scanned only when no pairing is under way. -/
def OneAtATime (app : PhoneApp T) : Input T → Prop
  | .beginPairing .. => app.Settled
  | _ => True

/-- If an exchange is pending, its emoji are these. -/
def Agrees (app : PhoneApp T) (emoji : List String) : Prop :=
  ∀ pending, app.core.pending = some pending → pending.sas.toList = emoji

/-- What has been compared so far are the emoji of the exchange that has been taken. -/
def ComparedOwn (app : PhoneApp T) : Prop :=
  ∀ shown number, (shown, number) ∈ app.compared →
    ∃ exchange, app.exchanges[number]? = some exchange ∧ exchange.sas = shown

/-- Whatever emoji the user may still find to match are those of the pending exchange. -/
structure Comparing (app : PhoneApp T) : Prop where
  shown : ∀ emoji, app.phase = .confirming emoji → app.Agrees emoji
  reported : ∀ emoji, app.Reports emoji → app.Agrees emoji
  matched : ∀ t emoji, app.tasks t = .matched emoji → app.Agrees emoji
  alone : ∀ t, app.Begins t → (∀ t', app.Begins t' → t' = t) ∧
    (∀ emoji, app.phase ≠ .confirming emoji) ∧ (∀ emoji, ¬ app.Reports emoji) ∧
      ∀ t' emoji, app.tasks t' ≠ .matched emoji
  last : ∀ pending, app.core.pending = some pending → ∃ earlier exchange,
    app.exchanges = earlier ++ [exchange] ∧ exchange.sas = pending.sas.toList
  compared : app.ComparedOwn

/-- Nothing comes up that the user could find to match. -/
structure Quiet (app app' : PhoneApp T) : Prop where
  pending : app'.core.pending = app.core.pending ∨ app'.core.pending = none
  phase : ∀ emoji, app'.phase = .confirming emoji → app.phase = .confirming emoji
  reports : ∀ emoji, app'.Reports emoji → app.Reports emoji
  matched : ∀ t emoji, app'.tasks t = .matched emoji → app.tasks t = .matched emoji
  begins : ∀ t, app'.Begins t → app.Begins t
  exchanges : app'.exchanges = app.exchanges
  compared : app'.compared = app.compared

namespace Comparing

variable {app app' : PhoneApp T}

theorem agrees_mono {emoji : List String} (h : app.Agrees emoji)
    (hpending : app'.core.pending = app.core.pending ∨ app'.core.pending = none) : app'.Agrees emoji := by
  intro pending hsome
  obtain hsame | hnone := hpending
  · exact h pending (hsame ▸ hsome)
  · rw [hnone] at hsome
    cases hsome

theorem last_mono (h : app.Comparing)
    (hpending : app'.core.pending = app.core.pending ∨ app'.core.pending = none)
    (hexchanges : app'.exchanges = app.exchanges) (pending : PendingPairing)
    (hsome : app'.core.pending = some pending) : ∃ earlier exchange,
      app'.exchanges = earlier ++ [exchange] ∧ exchange.sas = pending.sas.toList := by
  obtain hsame | hnone := hpending
  · rw [hexchanges]
    exact h.last pending (hsame ▸ hsome)
  · rw [hnone] at hsome
    cases hsome

theorem quiet (h : app.Comparing) (hquiet : app.Quiet app') : app'.Comparing where
  shown emoji hphase := agrees_mono (h.shown emoji (hquiet.phase emoji hphase)) hquiet.pending
  reported emoji hreports := agrees_mono (h.reported emoji (hquiet.reports emoji hreports)) hquiet.pending
  matched t emoji htask := agrees_mono (h.matched t emoji (hquiet.matched t emoji htask)) hquiet.pending
  alone t ht := by
    obtain ⟨halone, hphase, hreports, hmatched⟩ := h.alone t (hquiet.begins t ht)
    exact ⟨fun t' ht' ↦ halone t' (hquiet.begins t' ht'),
      fun emoji hshown ↦ hphase emoji (hquiet.phase emoji hshown),
      fun emoji hreported ↦ hreports emoji (hquiet.reports emoji hreported),
      fun t' emoji htask ↦ hmatched t' emoji (hquiet.matched t' emoji htask)⟩
  last := h.last_mono hquiet.pending hquiet.exchanges
  compared := by
    rw [ComparedOwn, hquiet.compared, hquiet.exchanges]
    exact h.compared

/-- The emoji of the pending exchange are shown. -/
theorem showed (h : app.Comparing) {index : ℕ} {emoji : List String}
    (hjob : app.jobs[index]? = some (.event (.pairingSas emoji))) :
    Comparing { app with jobs := app.jobs.eraseIdx index, phase := .confirming emoji } := by
  have hreports : app.Reports emoji := List.mem_of_getElem? hjob
  refine ⟨fun other hphase ↦ ?_, fun other hother ↦ ?_, h.matched, fun t ht ↦ ?_, h.last, h.compared⟩
  · cases hphase
    exact h.reported emoji hreports
  · exact h.reported other (List.mem_of_mem_eraseIdx hother)
  · exact absurd hreports ((h.alone t ht).2.2.1 emoji)

variable [DecidableEq T]

/-- A code is scanned when nothing is under way. -/
theorem scanned (h : app.Comparing) (hsettled : app.Settled) {t : T} (qrUrl displayName : String) :
    Comparing { app.setTask t (.scanned qrUrl displayName) with phase := .connecting } := by
  have hmatched (t' : T) (emoji : List String) :
      Function.update app.tasks t (.scanned qrUrl displayName) t' ≠ .matched emoji := fun htask ↦
    hsettled.matched t' emoji ((task_of_update htask).resolve_right nofun)
  refine ⟨nofun, h.reported, fun t' emoji htask ↦ absurd htask (hmatched t' emoji), ?_, h.last, h.compared⟩
  have hbegins (t' : T) (ht' : (Function.update app.tasks t (.scanned qrUrl displayName) t').Begins) :
      t' = t := by
    obtain ⟨ht', -⟩ | ⟨-, hold⟩ := begins_of_update ht'
    · exact ht'
    · exact absurd hold (hsettled.begins t')
  intro t' ht'
  exact ⟨fun other hother ↦ (hbegins other hother).trans (hbegins t' ht').symm, nofun, hsettled.reports,
    hmatched⟩

/-- An exchange gets to its emoji. -/
theorem awaited (h : app.Comparing) {t : T} (ht : app.Begins t) (qr : QrPayload) (nowMs : UInt64)
    (pending : PendingPairing) :
    Comparing { app.finish t [.event (.pairingSas pending.sas.toList)] with
      core := app.core.await pending
      exchanges := app.exchanges ++ [⟨qr, nowMs, pending.sas.toList⟩] } := by
  obtain ⟨halone, hphase, hreports, hmatched⟩ := h.alone t ht
  refine ⟨fun emoji hshown ↦ absurd hshown (hphase emoji), fun emoji hreported ↦ ?_,
    fun t' emoji htask ↦ ?_, fun t' ht' ↦ ?_, fun other hsome ↦ ?_, fun shown number hmem ↦ ?_⟩
  · obtain hold | hnew := List.mem_append.mp hreported
    · exact absurd hold (hreports emoji)
    · cases List.mem_singleton.mp hnew
      intro other hsome
      cases hsome
      rfl
  · exact absurd ((task_of_update htask).resolve_right nofun) (hmatched t' emoji)
  · obtain ⟨-, hidle⟩ | ⟨hne, hold⟩ := begins_of_update ht'
    · cases hidle
    · exact absurd (halone t' hold) hne
  · cases hsome
    exact ⟨_, _, rfl, rfl⟩
  · obtain ⟨exchange, hexchange, hsas⟩ := h.compared shown number hmem
    exact ⟨exchange, getElem?_append_of_eq_some hexchange _, hsas⟩

/-- The user finds the emoji on the screen to match. -/
theorem found (h : app.Comparing) {t : T} {emoji : List String} (hphase : app.phase = .confirming emoji) :
    (app.setTask t (.matched emoji)).Comparing := by
  refine ⟨h.shown, h.reported, fun t' other htask ↦ ?_, fun t' ht' ↦ ?_, h.last, h.compared⟩
  · obtain hold | hnew := task_of_update htask
    · exact h.matched t' other hold
    · cases hnew
      exact h.shown emoji hphase
  · obtain ⟨-, hmatched⟩ | ⟨-, hold⟩ := begins_of_update ht'
    · cases hmatched
    · exact absurd hphase ((h.alone t' hold).2.1 emoji)

/-- A confirmation takes the pending exchange. -/
theorem took (h : app.Comparing) {t : T} {shown : List String} {pending : PendingPairing}
    (htask : app.tasks t = .matched shown) (hpending : app.core.pending = some pending) :
    Comparing { app.setTask t (.confirming (app.exchanges.length - 1) pending) with
      core := app.core.take
      compared := app.compared ++ [(shown, app.exchanges.length - 1)] } := by
  have hnothing (emoji : List String) : Agrees { app.setTask t
      (.confirming (app.exchanges.length - 1) pending) with
        core := app.core.take
        compared := app.compared ++ [(shown, app.exchanges.length - 1)] } emoji := nofun
  refine ⟨fun _ _ ↦ hnothing _, fun _ _ ↦ hnothing _, fun _ _ _ ↦ hnothing _, fun t' ht' ↦ ?_, nofun,
    fun other number hmem ↦ ?_⟩
  · obtain ⟨-, hconfirming⟩ | ⟨-, hold⟩ := begins_of_update ht'
    · cases hconfirming
    · exact absurd htask ((h.alone t' hold).2.2.2 t shown)
  · obtain hold | hnew := List.mem_append.mp hmem
    · exact h.compared other number hold
    · cases List.mem_singleton.mp hnew
      obtain ⟨earlier, exchange, hexchanges, hsas⟩ := h.last pending hpending
      refine ⟨exchange, ?_, hsas.trans (h.matched t shown htask pending hpending)⟩
      change app.exchanges[app.exchanges.length - 1]? = some exchange
      rw [hexchanges, List.length_append, List.length_singleton, Nat.add_sub_cancel]
      exact List.getElem?_concat_length ..

end Comparing

variable [TextCodecs] [DecidableEq T] [SerdeJson] [Ciborium] [DebugText] [ErrorText]

omit [TextCodecs] [DecidableEq T] [SerdeJson] [Ciborium] [DebugText] [ErrorText] in
theorem quiet_launched (app : PhoneApp T) (core : CoreState) (hpending : core.pending = none)
    (identitySeed : Option Bytes) : app.Quiet (refreshPeers { app.clear with
      running := true, core, keychain.identitySeed := identitySeed }) :=
  ⟨.inr hpending, nofun, nofun, fun _ _ ↦ nofun, fun _ ↦ nofun, rfl, rfl⟩

omit [TextCodecs] [SerdeJson] [Ciborium] [DebugText] [ErrorText] in
/-- A task moves on, and reports no emoji. -/
theorem quiet_moved {app app' : PhoneApp T} {t : T} {task : CommandTask} {jobs : List MainJob}
    (htasks : app'.tasks = Function.update app.tasks t task) (hjobs : app'.jobs = app.jobs ++ jobs)
    (hmatched : ∀ emoji, task ≠ .matched emoji) (hbegins : task.Begins → app.Begins t)
    (hfailures : ∀ emoji, .event (.pairingSas emoji) ∉ jobs)
    (hpending : app'.core.pending = app.core.pending) (hphase : app'.phase = app.phase)
    (hexchanges : app'.exchanges = app.exchanges) (hcompared : app'.compared = app.compared) :
    app.Quiet app' where
  pending := .inl hpending
  phase emoji hshown := hphase ▸ hshown
  reports emoji hreports := by
    rw [Reports, hjobs] at hreports
    exact (List.mem_append.mp hreports).resolve_right (hfailures emoji)
  matched t' emoji htask := by
    rw [htasks] at htask
    exact (task_of_update htask).resolve_right (hmatched emoji)
  begins t' ht' := by
    rw [Begins, htasks] at ht'
    obtain ⟨rfl, hnew⟩ | ⟨-, hold⟩ := begins_of_update ht'
    · exact hbegins hnew
    · exact hold
  exchanges := hexchanges
  compared := hcompared

omit [TextCodecs] [DecidableEq T] [SerdeJson] [Ciborium] [DebugText] in
/-- A job that shows no emoji. -/
theorem quiet_runJob (app : PhoneApp T) {index : ℕ} {job : MainJob}
    (hjob : ∀ emoji, job ≠ .event (.pairingSas emoji)) :
    app.Quiet (runJob { app with jobs := app.jobs.eraseIdx index } job) := by
  have hfewer (emoji : List String) (h : .event (.pairingSas emoji) ∈ app.jobs.eraseIdx index) :
      app.Reports emoji := List.mem_of_mem_eraseIdx h
  cases job with
  | event event =>
    cases event with
    | pairingSas emoji => exact absurd rfl (hjob emoji)
    | paired => exact ⟨.inl rfl, nofun, hfewer, fun _ _ ↦ id, fun _ ↦ id, rfl, rfl⟩
    | pairingFailed => exact ⟨.inl rfl, nofun, hfewer, fun _ _ ↦ id, fun _ ↦ id, rfl, rfl⟩
    | peerUnreachable => exact ⟨.inl rfl, fun _ ↦ id, hfewer, fun _ _ ↦ id, fun _ ↦ id, rfl, rfl⟩
  | threw failure => exact ⟨.inl rfl, nofun, hfewer, fun _ _ ↦ id, fun _ ↦ id, rfl, rfl⟩

theorem Comparing.step {app : PhoneApp T} (h : app.Comparing) {input : Input T}
    (hone : app.OneAtATime input) : (app.step input).Comparing := by
  have hstepped := app.step_cases input
  generalize app.step input = app' at hstepped ⊢
  cases hstepped with
  | still => exact h
  | stopped => exact h.quiet ⟨.inl rfl, nofun, nofun, fun _ _ ↦ nofun, fun _ ↦ nofun, rfl, rfl⟩
  | launched => exact h.quiet (app.quiet_launched _ rfl _)
  | scanned => exact h.scanned hone _ _
  | @dialed t _ _ _ htask =>
    have hbegins : app.Begins t := by
      rw [Begins, htask]
      trivial
    exact h.quiet (quiet_moved rfl (List.append_nil _).symm nofun (fun _ ↦ hbegins) nofun rfl rfl rfl rfl)
  | threw hjobs => exact h.quiet (quiet_moved rfl rfl nofun nofun hjobs.1 rfl rfl rfl rfl)
  | shown htask =>
    apply h.awaited
    rw [Begins, htask]
    trivial
  | matched hphase => exact h.found hphase
  | took htask hpending => exact h.took htask hpending
  | sent =>
    exact h.quiet (quiet_moved rfl (List.append_nil _).symm nofun nofun nofun rfl rfl rfl rfl)
  | stored =>
    rw [storePairings_frame]
    exact h.quiet (quiet_moved rfl rfl nofun nofun (by simp) rfl rfl rfl rfl)
  | cancelled => exact h.quiet ⟨.inr rfl, nofun, fun _ ↦ id, fun _ _ ↦ id, fun _ ↦ id, rfl, rfl⟩
  | forgetting => exact h.quiet ⟨.inl rfl, fun _ ↦ id, fun _ ↦ id, fun _ _ ↦ id, fun _ ↦ id, rfl, rfl⟩
  | forgot =>
    rw [storePairings_frame]
    exact h.quiet ⟨.inl rfl, fun _ ↦ id, fun _ ↦ id, fun _ _ ↦ id, fun _ ↦ id, rfl, rfl⟩
  | forgotten => exact h.quiet ⟨.inl rfl, nofun, fun _ ↦ id, fun _ _ ↦ id, fun _ ↦ id, rfl, rfl⟩
  | hinted _ hpending =>
    exact h.quiet ⟨.inl hpending, fun _ ↦ id, fun _ ↦ id, fun _ _ ↦ id, fun _ ↦ id, rfl, rfl⟩
  | @ran index job hjob =>
    by_cases hemoji : ∃ emoji, job = .event (.pairingSas emoji)
    · obtain ⟨emoji, rfl⟩ := hemoji
      exact h.showed hjob
    · exact h.quiet (app.quiet_runJob fun emoji heq ↦ hemoji ⟨emoji, heq⟩)

omit [TextCodecs] [DecidableEq T] [Ciborium] [DebugText] [ErrorText] in
theorem settled_launch (app : PhoneApp T) (readsSeed readsPairings : Bool) (access : KeychainAccess)
    (random : Option Key32) : (app.launch readsSeed readsPairings access random).Settled := by
  rw [launch]
  dsimp only
  split <;> exact ⟨fun _ ↦ id, fun _ ↦ List.not_mem_nil, fun _ _ ↦ by simp [clear, refreshPeers]⟩

/-- As long as no code is scanned while a pairing is under way, the user confirms an exchange only after
having found its own emoji to match, however the commands and the jobs of the main actor interleave. -/
theorem confirms_what_was_compared (keychain : Keychain) (identity : IdentityKeypair)
    {inputs : List (Input T)} (hone : EveryStep step OneAtATime (installed keychain identity) inputs) :
    ∀ number record, (number, record) ∈ ((installed keychain identity).run inputs).confirmed →
      ∃ exchange, ((installed keychain identity).run inputs).exchanges[number]? = some exchange ∧
        (exchange.sas, number) ∈ ((installed keychain identity).run inputs).compared ∧
        record = exchange.record := by
  intro number record hconfirmed
  have hcomparing : ((installed keychain identity).run inputs).Comparing := by
    apply hone.invariant (fun app input hinput h ↦ h.step hinput)
    exact ⟨nofun, nofun, fun _ _ ↦ nofun, fun _ ↦ nofun, nofun, fun _ _ ↦ nofun⟩
  have hexchanged : ((installed keychain identity).run inputs).Exchanged := by
    apply foldl_invariant (P := Exchanged) (fun app input _ h ↦ h.step (app.step_cases input).exchangeStep)
    exact (accounted_installed keychain identity).exchanged
  obtain ⟨exchange, hexchange, hrecord⟩ := hexchanged.written number record hconfirmed
  obtain ⟨⟨shown, number⟩, hcompared, rfl⟩ :=
    List.mem_map.mp (hexchanged.compared number (List.mem_map_of_mem hconfirmed))
  obtain ⟨own, hown, hsas⟩ := hcomparing.compared shown number hcompared
  cases hexchange.symm.trans hown
  exact ⟨exchange, hexchange, hsas ▸ hcompared, hrecord⟩

end PhoneApp

end Compared

namespace Reference

/-- A second computer answers up to the emoji. -/
def answeredByLaptop : PairingEnvironment :=
  ⟨fun _ ↦ true, some (pad 32 [18]), .ok (), .ok pairAck, 4000⟩

/-- The user cancels while the first code is being dialled and scans that of a second computer; the first
exchange gets to its emoji, which are shown, and so does the second, whose emoji have still to be shown when
the user finds the first to match. -/
def twoAtATime : List (PhoneApp.Input Bool) :=
  [.launch true true keychainWorks none, .beginPairing false pairing.qrUrl devices.phoneName,
    .startPairing false, .cancelPairing, .beginPairing true laptopPairing.qrUrl devices.phoneName,
    .startPairing true, .exchange false answeredPairing, .runJob 0, .exchange true answeredByLaptop,
    .confirmPairing false, .confirmSas false, .sendConfirm false (.ok ())]

end Reference

open Reference PhoneApp in
/-- With one code the emoji that have been compared are those of the exchange. -/
theorem confirms_what_was_compared_double_tap :
    doubleTapped.confirmed.map Prod.fst = [0] ∧ ∃ record exchange,
      doubleTapped.exchanges[0]? = some exchange ∧ (exchange.sas, 0) ∈ doubleTapped.compared ∧
        record = exchange.record := by
  have hconfirmed := doubleTapped_confirmed.1
  have hsettled : ((installed phoneKeychain devices.phone : PhoneApp Bool).step
      (.launch true true keychainWorks none)).Settled :=
    settled_launch (installed phoneKeychain devices.phone) true true keychainWorks none
  have hone : EveryStep step OneAtATime (installed phoneKeychain devices.phone) doubleTap :=
    ⟨trivial, hsettled, trivial, trivial, trivial, trivial, trivial, trivial, trivial, trivial, trivial,
      trivial, trivial, trivial⟩
  have hmatched := confirms_what_was_compared phoneKeychain devices.phone hone
  rw [← doubleTapped] at hmatched
  have hmem : 0 ∈ doubleTapped.confirmed.map Prod.fst := hconfirmed ▸ List.mem_singleton_self 0
  obtain ⟨⟨number, record⟩, hrecord, rfl⟩ := List.mem_map.mp hmem
  exact ⟨hconfirmed, record, hmatched _ record hrecord⟩

open Reference PhoneApp in
/-- With two the user has confirmed the second computer, and has compared the emoji of the first. -/
theorem other_exchange_confirmed :
    ((installed phoneKeychain devices.phone).run twoAtATime).confirmed.map
      (fun entry ↦ (entry.1, entry.2.displayName)) = [(1, "Laptop")] ∧
    ((installed phoneKeychain devices.phone).run twoAtATime).compared.map
      (fun entry ↦ (entry.2, ((installed phoneKeychain devices.phone).run twoAtATime).exchanges.map
        fun exchange ↦ decide (exchange.sas = entry.1))) = [(1, [true, false])] := by
  decide +kernel

end AirClip
