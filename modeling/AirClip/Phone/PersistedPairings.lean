import AirClip.Phone.PhoneApp

/-!
# The pairings that stay

Commands of the core overlap, and the process may end between any two of their parts.  Even so each
exchange is confirmed at most once, after the user has found some emoji to match, and no pairing gets into
the state or into the Keychain but from an exchange whose confirmation has been written.  While the
Keychain works, it holds at every moment the pairings that the state holds, so a launch restores them.
-/

open Foundation

namespace AirClip

section Persisted

variable [Primitives] [NetAddresses]

/-- The record that the exchange leads to. -/
def ShownExchange.record [TextCodecs] (exchange : ShownExchange) : PairingRecord :=
  exchange.qr.recordAt exchange.nowMs

namespace PhoneApp

variable {T : Type} [TextCodecs]

/-! ## Exchanges -/

/-- The tasks that hold an exchange are among those that have held it. -/
def KeepsConfirming (app app' : PhoneApp T) : Prop :=
  ∀ t number pending, app'.tasks t = .confirming number pending → app.tasks t = .confirming number pending

/-- What a step does to the exchanges. -/
inductive ExchangeStep [DecidableEq T] (app app' : PhoneApp T) : Prop
  | same (hexchanges : app'.exchanges = app.exchanges) (hcompared : app'.compared = app.compared)
      (hconfirmed : app'.confirmed = app.confirmed) (htasks : app.KeepsConfirming app')
      (hpending : app'.core.pending = app.core.pending ∨ app'.core.pending = none)
  | shown {exchange : ShownExchange} {pending : PendingPairing}
      (hexchanges : app'.exchanges = app.exchanges ++ [exchange])
      (hcompared : app'.compared = app.compared) (hconfirmed : app'.confirmed = app.confirmed)
      (htasks : app.KeepsConfirming app') (hpending : app'.core.pending = some pending)
      (hrecord : pending.record = exchange.record)
  | took {t : T} {shown : List String} {pending : PendingPairing}
      (hexchanges : app'.exchanges = app.exchanges)
      (hcompared : app'.compared = app.compared ++ [(shown, app.exchanges.length - 1)])
      (hconfirmed : app'.confirmed = app.confirmed)
      (htasks : app'.tasks = Function.update app.tasks t (.confirming (app.exchanges.length - 1) pending))
      (hpending : app.core.pending = some pending) (hnone : app'.core.pending = none)
  | sent {t : T} {number : ℕ} {pending : PendingPairing} {record : PairingRecord}
      (hexchanges : app'.exchanges = app.exchanges) (hcompared : app'.compared = app.compared)
      (hconfirmed : app'.confirmed = app.confirmed ++ [(number, pending.record)])
      (htask : app.tasks t = .confirming number pending)
      (htasks : app'.tasks = Function.update app.tasks t (.storing record))
      (hpending : app'.core.pending = app.core.pending)

omit [NetAddresses] [TextCodecs] in
/-- Of the tasks only one has moved. -/
theorem task_of_update [DecidableEq T] {tasks : T → CommandTask} {t other : T} {task moved : CommandTask}
    (h : Function.update tasks t moved other = task) : tasks other = task ∨ moved = task := by
  by_cases ht : other = t
  · rw [ht, Function.update_self] at h
    exact .inr h
  · rw [Function.update_of_ne ht] at h
    exact .inl h

omit [TextCodecs] in
theorem keepsConfirming_update [DecidableEq T] {app app' : PhoneApp T} {t : T} {task : CommandTask}
    (htasks : app'.tasks = Function.update app.tasks t task)
    (htask : ∀ number pending, task ≠ .confirming number pending) : app.KeepsConfirming app' := by
  intro other number pending hother
  rw [htasks] at hother
  exact (task_of_update hother).resolve_right (htask number pending)

omit [Primitives] [NetAddresses] [TextCodecs] in
theorem getElem?_append_of_eq_some {exchanges : List ShownExchange} {number : ℕ} {exchange : ShownExchange}
    (h : exchanges[number]? = some exchange) (later : List ShownExchange) :
    (exchanges ++ later)[number]? = some exchange := by
  rw [List.getElem?_append_left (List.getElem?_eq_some_iff.mp h).1, h]

/-- Each exchange is taken once at most, by one task, which confirms it once at most. -/
structure Exchanged (app : PhoneApp T) : Prop where
  taken : (app.compared.map Prod.snd).Nodup
  bounded : ∀ number ∈ app.compared.map Prod.snd, number < app.exchanges.length
  pending : ∀ pending, app.core.pending = some pending → ∃ earlier exchange,
    app.exchanges = earlier ++ [exchange] ∧ pending.record = exchange.record ∧
      earlier.length ∉ app.compared.map Prod.snd
  confirming : ∀ t number pending, app.tasks t = .confirming number pending →
    number ∈ app.compared.map Prod.snd ∧ number ∉ app.confirmed.map Prod.fst ∧
      ∃ exchange, app.exchanges[number]? = some exchange ∧ pending.record = exchange.record
  apart : ∀ t t' number pending pending', app.tasks t = .confirming number pending →
    app.tasks t' = .confirming number pending' → t = t'
  once : (app.confirmed.map Prod.fst).Nodup
  compared : ∀ number ∈ app.confirmed.map Prod.fst, number ∈ app.compared.map Prod.snd
  written : ∀ number record, (number, record) ∈ app.confirmed → ∃ exchange,
    app.exchanges[number]? = some exchange ∧ record = exchange.record

namespace Exchanged

variable {app app' : PhoneApp T}

theorem same (h : app.Exchanged) (hexchanges : app'.exchanges = app.exchanges)
    (hcompared : app'.compared = app.compared) (hconfirmed : app'.confirmed = app.confirmed)
    (htasks : app.KeepsConfirming app')
    (hpending : app'.core.pending = app.core.pending ∨ app'.core.pending = none) :
    app'.Exchanged where
  taken := hcompared ▸ h.taken
  bounded := hcompared ▸ hexchanges ▸ h.bounded
  pending pending hsome := by
    obtain hsame | hnone := hpending
    · rw [hexchanges, hcompared]
      exact h.pending pending (hsame ▸ hsome)
    · rw [hnone] at hsome
      cases hsome
  confirming t number pending htask := by
    rw [hexchanges, hcompared, hconfirmed]
    exact h.confirming t number pending (htasks t number pending htask)
  apart t t' number pending pending' ht ht' :=
    h.apart t t' number pending pending' (htasks _ _ _ ht) (htasks _ _ _ ht')
  once := hconfirmed ▸ h.once
  compared := hconfirmed ▸ hcompared ▸ h.compared
  written := hconfirmed ▸ hexchanges ▸ h.written

/-- Another exchange gets to its emoji. -/
theorem shown (h : app.Exchanged) {exchange : ShownExchange} {pending : PendingPairing}
    (hexchanges : app'.exchanges = app.exchanges ++ [exchange])
    (hcompared : app'.compared = app.compared) (hconfirmed : app'.confirmed = app.confirmed)
    (htasks : app.KeepsConfirming app') (hpending : app'.core.pending = some pending)
    (hrecord : pending.record = exchange.record) : app'.Exchanged where
  taken := hcompared ▸ h.taken
  bounded number hmem := by
    rw [hcompared] at hmem
    rw [hexchanges, List.length_append]
    exact (h.bounded number hmem).trans_le (Nat.le_add_right _ _)
  pending other hsome := by
    cases hpending.symm.trans hsome
    refine ⟨app.exchanges, exchange, hexchanges, hrecord, fun hmem ↦ ?_⟩
    rw [hcompared] at hmem
    exact lt_irrefl _ (h.bounded _ hmem)
  confirming t number pending htask := by
    obtain ⟨htaken, hfresh, earlier, hearlier, hmatches⟩ :=
      h.confirming t number pending (htasks t number pending htask)
    rw [hcompared, hconfirmed, hexchanges]
    exact ⟨htaken, hfresh, earlier, getElem?_append_of_eq_some hearlier _, hmatches⟩
  apart t t' number pending pending' ht ht' :=
    h.apart t t' number pending pending' (htasks _ _ _ ht) (htasks _ _ _ ht')
  once := hconfirmed ▸ h.once
  compared := hconfirmed ▸ hcompared ▸ h.compared
  written number record hmem := by
    obtain ⟨earlier, hearlier, hmatches⟩ := h.written number record (hconfirmed ▸ hmem)
    rw [hexchanges]
    exact ⟨earlier, getElem?_append_of_eq_some hearlier _, hmatches⟩

variable [DecidableEq T]

/-- A confirmation takes the exchange that is pending. -/
theorem took (h : app.Exchanged) {t : T} {shown : List String} {pending : PendingPairing}
    (hexchanges : app'.exchanges = app.exchanges)
    (hcompared : app'.compared = app.compared ++ [(shown, app.exchanges.length - 1)])
    (hconfirmed : app'.confirmed = app.confirmed)
    (htasks : app'.tasks = Function.update app.tasks t (.confirming (app.exchanges.length - 1) pending))
    (hpending : app.core.pending = some pending) (hnone : app'.core.pending = none) :
    app'.Exchanged := by
  obtain ⟨earlier, exchange, hlast, hrecord, hfresh⟩ := h.pending pending hpending
  have hnumber : app.exchanges.length - 1 = earlier.length := by
    rw [hlast, List.length_append, List.length_singleton, Nat.add_sub_cancel]
  rw [hnumber] at hcompared htasks
  have hnumbers : app'.compared.map Prod.snd = app.compared.map Prod.snd ++ [earlier.length] := by
    rw [hcompared, List.map_append, List.map_singleton]
  have hold {t' : T} {number : ℕ} {pending' : PendingPairing} (ht : t' ≠ t)
      (htask : app'.tasks t' = .confirming number pending') :
      app.tasks t' = .confirming number pending' ∧ number ≠ earlier.length := by
    rw [htasks, Function.update_of_ne ht] at htask
    refine ⟨htask, ?_⟩
    rintro rfl
    exact hfresh (h.confirming _ _ _ htask).1
  have hself {number : ℕ} {pending' : PendingPairing}
      (htask : app'.tasks t = .confirming number pending') :
      number = earlier.length ∧ pending' = pending := by
    rw [htasks, Function.update_self] at htask
    cases htask
    exact ⟨rfl, rfl⟩
  refine ⟨?_, ?_, ?_, ?_, ?_, hconfirmed ▸ h.once, ?_, hconfirmed ▸ hexchanges ▸ h.written⟩
  · rw [hnumbers, ← List.concat_eq_append]
    exact h.taken.concat hfresh
  · intro number hmem
    rw [hnumbers] at hmem
    rw [hexchanges]
    obtain hmem | hmem := List.mem_append.mp hmem
    · exact h.bounded number hmem
    · rw [List.mem_singleton.mp hmem, hlast, List.length_append]
      exact Nat.lt_succ_self _
  · intro other hsome
    rw [hnone] at hsome
    cases hsome
  · intro t' number pending' htask
    rw [hnumbers, hconfirmed, hexchanges]
    by_cases ht : t' = t
    · subst ht
      obtain ⟨rfl, rfl⟩ := hself htask
      refine ⟨List.mem_append_right _ (List.mem_singleton_self _), ?_, exchange, ?_, hrecord⟩
      · exact fun hmem ↦ hfresh (h.compared _ hmem)
      · rw [hlast]
        exact List.getElem?_concat_length ..
    · obtain ⟨htaken, hunconfirmed, hexchange⟩ := h.confirming _ _ _ (hold ht htask).1
      exact ⟨List.mem_append_left _ htaken, hunconfirmed, hexchange⟩
  · intro t₁ t₂ number pending₁ pending₂ h₁ h₂
    by_cases ht₁ : t₁ = t
    · by_cases ht₂ : t₂ = t
      · exact ht₁.trans ht₂.symm
      · subst ht₁
        exact absurd (hself h₁).1 (hold ht₂ h₂).2
    · by_cases ht₂ : t₂ = t
      · subst ht₂
        exact absurd (hself h₂).1 (hold ht₁ h₁).2
      · exact h.apart _ _ _ _ _ (hold ht₁ h₁).1 (hold ht₂ h₂).1
  · intro number hmem
    rw [hconfirmed] at hmem
    rw [hnumbers]
    exact List.mem_append_left _ (h.compared number hmem)

/-- The confirmation of an exchange is written. -/
theorem sent (h : app.Exchanged) {t : T} {number : ℕ} {pending : PendingPairing}
    {record : PairingRecord} (hexchanges : app'.exchanges = app.exchanges)
    (hcompared : app'.compared = app.compared)
    (hconfirmed : app'.confirmed = app.confirmed ++ [(number, pending.record)])
    (htask : app.tasks t = .confirming number pending)
    (htasks : app'.tasks = Function.update app.tasks t (.storing record))
    (hpending : app'.core.pending = app.core.pending) : app'.Exchanged := by
  obtain ⟨htaken, hfresh, exchange, hexchange, hrecord⟩ := h.confirming t number pending htask
  have hnumbers : app'.confirmed.map Prod.fst = app.confirmed.map Prod.fst ++ [number] := by
    rw [hconfirmed, List.map_append, List.map_singleton]
  have hkeeps : app.KeepsConfirming app' := keepsConfirming_update htasks nofun
  refine ⟨hcompared ▸ h.taken, hcompared ▸ hexchanges ▸ h.bounded,
    hcompared ▸ hexchanges ▸ hpending ▸ h.pending, ?_, ?_, ?_, ?_, ?_⟩
  · intro t' number' pending' htask'
    obtain ⟨htaken', hfresh', hexchange'⟩ := h.confirming t' number' pending' (hkeeps _ _ _ htask')
    rw [hcompared, hnumbers, hexchanges]
    refine ⟨htaken', fun hmem ↦ ?_, hexchange'⟩
    obtain hmem | hmem := List.mem_append.mp hmem
    · exact hfresh' hmem
    · cases List.mem_singleton.mp hmem
      have ht := h.apart t' t number pending' pending (hkeeps _ _ _ htask') htask
      rw [ht, htasks, Function.update_self] at htask'
      cases htask'
  · exact fun t₁ t₂ number' pending₁ pending₂ h₁ h₂ ↦
      h.apart t₁ t₂ number' pending₁ pending₂ (hkeeps _ _ _ h₁) (hkeeps _ _ _ h₂)
  · rw [hnumbers, ← List.concat_eq_append]
    exact h.once.concat hfresh
  · intro number' hmem
    rw [hnumbers] at hmem
    rw [hcompared]
    obtain hmem | hmem := List.mem_append.mp hmem
    · exact h.compared number' hmem
    · exact List.mem_singleton.mp hmem ▸ htaken
  · intro number' record' hmem
    rw [hconfirmed] at hmem
    rw [hexchanges]
    obtain hmem | hmem := List.mem_append.mp hmem
    · exact h.written number' record' hmem
    · cases List.mem_singleton.mp hmem
      exact ⟨exchange, hexchange, hrecord⟩

theorem step (h : app.Exchanged) (hstep : app.ExchangeStep app') : app'.Exchanged := by
  cases hstep with
  | same hexchanges hcompared hconfirmed htasks hpending =>
    exact h.same hexchanges hcompared hconfirmed htasks hpending
  | shown hexchanges hcompared hconfirmed htasks hpending hrecord =>
    exact h.shown hexchanges hcompared hconfirmed htasks hpending hrecord
  | took hexchanges hcompared hconfirmed htasks hpending hnone =>
    exact h.took hexchanges hcompared hconfirmed htasks hpending hnone
  | sent hexchanges hcompared hconfirmed htask htasks hpending =>
    exact h.sent hexchanges hcompared hconfirmed htask htasks hpending

end Exchanged

/-! ## Records -/

/-- A record that is in the list, or comes of an exchange that has been confirmed. -/
def Vouched (stored : List PairingRecord) (app : PhoneApp T) (record : PairingRecord) : Prop :=
  record ∈ stored ∨ ∃ number exchange, (number, record) ∈ app.confirmed ∧
    app.exchanges[number]? = some exchange ∧ record = exchange.record

variable [DecidableEq T] [SerdeJson] [Ciborium] [DebugText] [ErrorText]

theorem Stepped.exchangeStep {app app' : PhoneApp T} {input : Input T} (h : app.Stepped input app') :
    app.ExchangeStep app' := by
  have hkeeps (app : PhoneApp T) : app.KeepsConfirming app := fun _ _ _ ↦ id
  cases h with
  | still => exact .same rfl rfl rfl (hkeeps app) (.inl rfl)
  | stopped => exact .same rfl rfl rfl (fun _ _ _ ↦ nofun) (.inl rfl)
  | launched => exact .same rfl rfl rfl (fun _ _ _ ↦ nofun) (.inr rfl)
  | scanned => exact .same rfl rfl rfl (keepsConfirming_update rfl nofun) (.inl rfl)
  | dialed => exact .same rfl rfl rfl (keepsConfirming_update rfl nofun) (.inl rfl)
  | threw => exact .same rfl rfl rfl (keepsConfirming_update rfl nofun) (.inl rfl)
  | shown htask hbegin =>
    exact .shown rfl rfl rfl (keepsConfirming_update rfl nofun) rfl (beginPairing_eq_ok hbegin).1
  | matched => exact .same rfl rfl rfl (keepsConfirming_update rfl nofun) (.inl rfl)
  | took htask hpending => exact .took rfl rfl rfl rfl hpending rfl
  | sent htask hconfirm =>
    obtain ⟨-, -, rfl⟩ := PendingPairing.confirm_eq_ok.mp hconfirm
    exact .sent rfl rfl rfl htask rfl rfl
  | stored htask =>
    rw [storePairings_frame]
    exact .same rfl rfl rfl (keepsConfirming_update rfl nofun) (.inl rfl)
  | cancelled => exact .same rfl rfl rfl (hkeeps app) (.inr rfl)
  | forgetting => exact .same rfl rfl rfl (hkeeps app) (.inl rfl)
  | forgot =>
    rw [storePairings_frame]
    exact .same rfl rfl rfl (hkeeps app) (.inl rfl)
  | forgotten => exact .same rfl rfl rfl (hkeeps app) (.inl rfl)
  | hinted _ hpending => exact .same rfl rfl rfl (hkeeps app) (.inl hpending)
  | ran =>
    rw [runJob_frame]
    exact .same rfl rfl rfl (hkeeps app) (.inl rfl)

omit [SerdeJson] [Ciborium] [DebugText] [ErrorText] in
/-- What has happened stays so. -/
theorem Vouched.mono {stored : List PairingRecord} {app app' : PhoneApp T} {record : PairingRecord}
    (h : app.Vouched stored record) (hstep : app.ExchangeStep app') : app'.Vouched stored record := by
  refine h.imp_right ?_
  rintro ⟨number, exchange, hconfirmed, hexchange, hrecord⟩
  cases hstep with
  | same hexchanges _ hconfirmed' =>
    exact ⟨number, exchange, hconfirmed' ▸ hconfirmed, hexchanges ▸ hexchange, hrecord⟩
  | shown hexchanges _ hconfirmed' =>
    exact ⟨number, exchange, hconfirmed' ▸ hconfirmed,
      hexchanges ▸ getElem?_append_of_eq_some hexchange _, hrecord⟩
  | took hexchanges _ hconfirmed' =>
    exact ⟨number, exchange, hconfirmed' ▸ hconfirmed, hexchanges ▸ hexchange, hrecord⟩
  | sent hexchanges _ hconfirmed' =>
    exact ⟨number, exchange, hconfirmed' ▸ List.mem_append_left _ hconfirmed, hexchanges ▸ hexchange,
      hrecord⟩

/-- Where the pairings of a state come from. -/
theorem Stepped.peers {app app' : PhoneApp T} {input : Input T} (h : app.Stepped input app') :
    ∀ record ∈ app'.core.peers, record ∈ app.core.peers ∨ record ∈ storedPeers app.keychain ∨
      ∃ t, app.tasks t = .storing record := by
  intro record hmem
  cases h with
  | launched =>
    change record ∈ (if _ then storedPeers app.keychain else []) at hmem
    split_ifs at hmem
    · exact .inr (.inl hmem)
    · cases hmem
  | @stored t stored access htask =>
    rw [storePairings_frame] at hmem
    obtain hmem | hmem := List.mem_append.mp hmem
    · exact .inl (List.mem_filter.mp hmem).1
    · exact .inr (.inr ⟨t, List.mem_singleton.mp hmem ▸ htask⟩)
  | forgot =>
    rw [storePairings_frame] at hmem
    exact .inl (List.mem_filter.mp hmem).1
  | hinted hpeers => exact .inl (hpeers ▸ hmem)
  | ran =>
    rw [runJob_frame] at hmem
    exact .inl hmem
  | _ => exact .inl hmem

omit [DecidableEq T] [Ciborium] [DebugText] [ErrorText] [TextCodecs] in
theorem storedPeers_storePairings [SerdeJson.Lawful] (app : PhoneApp T) (access : KeychainAccess) :
    storedPeers (app.storePairings access).keychain = storedPeers app.keychain ∨
      storedPeers (app.storePairings access).keychain = (app.storePairings access).core.peers := by
  obtain hsame | ⟨json, hjson, hwritten⟩ := app.storePairings_cases access
  · rw [hsame]
    exact .inl rfl
  · rw [hwritten, storedPeers]
    refine .inr ?_
    dsimp only
    rw [Option.bind_some, SerdeJson.Lawful.fromSlice_toVec hjson]
    rfl

/-- The Keychain holds what it has held, or what the state holds. -/
theorem Stepped.keychain [SerdeJson.Lawful] {app app' : PhoneApp T} {input : Input T}
    (h : app.Stepped input app') : storedPeers app'.keychain = storedPeers app.keychain ∨
      storedPeers app'.keychain = app'.core.peers := by
  cases h with
  | stored | forgot => exact storedPeers_storePairings _ _
  | ran =>
    rw [runJob_frame]
    exact .inl rfl
  | _ => exact .inl rfl

/-- A task stores a record whose confirmation has been written. -/
theorem Stepped.storing {app app' : PhoneApp T} {input : Input T} (h : app.Stepped input app') {t : T}
    {record : PairingRecord} (htask : app'.tasks t = .storing record) :
    app.tasks t = .storing record ∨ ∃ number, (number, record) ∈ app'.confirmed := by
  cases h with
  | stopped | launched => cases htask
  | scanned | dialed | threw | shown | matched | took =>
    exact .inl ((task_of_update htask).resolve_right nofun)
  | sent =>
    refine (task_of_update htask).imp_right fun hmoved ↦ ?_
    cases hmoved
    exact ⟨_, List.mem_append_right _ (List.mem_singleton_self _)⟩
  | stored =>
    rw [storePairings_frame] at htask
    exact .inl ((task_of_update htask).resolve_right nofun)
  | forgot =>
    rw [storePairings_frame] at htask
    exact .inl htask
  | ran =>
    rw [runJob_frame] at htask
    exact .inl htask
  | _ => exact .inl htask

/-- All that is kept is vouched for. -/
structure Accounted (stored : List PairingRecord) (app : PhoneApp T) : Prop where
  exchanged : app.Exchanged
  peers : ∀ record ∈ app.core.peers, app.Vouched stored record
  keychain : ∀ record ∈ storedPeers app.keychain, app.Vouched stored record
  storing : ∀ t record, app.tasks t = .storing record → app.Vouched stored record

omit [DecidableEq T] [Ciborium] [DebugText] [ErrorText] in
theorem accounted_installed (keychain : Keychain) (identity : IdentityKeypair) :
    (installed keychain identity : PhoneApp T).Accounted (storedPeers keychain) where
  exchanged := ⟨List.nodup_nil, nofun, nofun, fun _ _ _ ↦ nofun, fun _ _ _ _ _ ↦ nofun, List.nodup_nil,
    nofun, fun _ _ ↦ nofun⟩
  peers _ := .inl
  keychain _ := .inl
  storing _ _ := nofun

theorem Accounted.step [SerdeJson.Lawful] {stored : List PairingRecord} {app : PhoneApp T}
    (h : app.Accounted stored) (input : Input T) : (app.step input).Accounted stored := by
  have hstepped := app.step_cases input
  generalize app.step input = app' at hstepped ⊢
  have hstep := hstepped.exchangeStep
  have hexchanged := h.exchanged.step hstep
  have hpeers : ∀ record ∈ app'.core.peers, app'.Vouched stored record := by
    intro record hmem
    obtain hmem | hmem | ⟨t, htask⟩ := hstepped.peers record hmem
    · exact (h.peers record hmem).mono hstep
    · exact (h.keychain record hmem).mono hstep
    · exact (h.storing t record htask).mono hstep
  refine ⟨hexchanged, hpeers, fun record hmem ↦ ?_, fun t record htask ↦ ?_⟩
  · obtain hkept | hwritten := hstepped.keychain
    · exact (h.keychain record (hkept ▸ hmem)).mono hstep
    · exact hpeers record (hwritten ▸ hmem)
  · obtain hkept | ⟨number, hconfirmed⟩ := hstepped.storing htask
    · exact (h.storing t record hkept).mono hstep
    · obtain ⟨exchange, hexchange, hrecord⟩ := hexchanged.written number record hconfirmed
      exact .inr ⟨number, exchange, hconfirmed, hexchange, hrecord⟩

/-! ## The Keychain and the state -/

/-- The input meets with no failure of the Keychain. -/
def Input.Reliable : Input T → Prop
  | .launch _ readsPairings _ _ => readsPairings
  | .storePeer _ access | .forgetNext access => access.Works
  | _ => True

instance : (input : Input T) → Decidable input.Reliable
  | .launch _ readsPairings _ _ => inferInstanceAs (Decidable readsPairings)
  | .storePeer _ access | .forgetNext access =>
    inferInstanceAs (Decidable (access.updates ∧ access.adds))
  | .beginPairing .. | .startPairing _ | .exchange .. | .confirmPairing _ | .confirmSas _
  | .sendConfirm .. | .cancelPairing | .forgetPeer | .addPeerHint .. | .clearPeerHints | .runJob _ =>
    isTrue trivial

/-- No device occurs twice, neither in the state nor in the Keychain. -/
def DistinctPeers (app : PhoneApp T) : Prop :=
  (app.core.peers.map PairingRecord.deviceId).Nodup ∧
    ((storedPeers app.keychain).map PairingRecord.deviceId).Nodup

omit [Primitives] [NetAddresses] [DecidableEq T] [SerdeJson] [Ciborium] [DebugText] [ErrorText]
  [TextCodecs] in
theorem nodup_replaced {peers : List PairingRecord} (h : (peers.map PairingRecord.deviceId).Nodup)
    (record : PairingRecord) :
    ((peers.filter (fun peer ↦ peer.deviceId ≠ record.deviceId) ++ [record]).map
      PairingRecord.deviceId).Nodup := by
  rw [List.map_append, List.map_singleton, ← List.concat_eq_append]
  apply (h.sublist (List.filter_sublist.map _)).concat
  intro hmem
  obtain ⟨other, hother, hid⟩ := List.mem_map.mp hmem
  exact of_decide_eq_true (List.mem_filter.mp hother).2 hid

theorem DistinctPeers.step [SerdeJson.Lawful] {app : PhoneApp T} (h : app.DistinctPeers)
    (input : Input T) : (app.step input).DistinctPeers := by
  have hstepped := app.step_cases input
  generalize app.step input = app' at hstepped ⊢
  have hpeers : (app'.core.peers.map PairingRecord.deviceId).Nodup := by
    cases hstepped with
    | launched =>
      change (List.map _ (if _ then storedPeers app.keychain else [])).Nodup
      split_ifs
      · exact h.2
      · exact List.nodup_nil
    | stored =>
      rw [storePairings_frame]
      exact nodup_replaced h.1 _
    | forgot =>
      rw [storePairings_frame]
      exact h.1.sublist (List.filter_sublist.map _)
    | hinted hpeers => exact hpeers ▸ h.1
    | ran =>
      rw [runJob_frame]
      exact h.1
    | _ => exact h.1
  refine ⟨hpeers, ?_⟩
  obtain hkept | hwritten := hstepped.keychain
  · exact hkept ▸ h.2
  · exact hwritten ▸ hpeers

/-- A launch would find the pairings of the state. -/
def Kept (app : PhoneApp T) : Prop := storedPeers app.keychain = app.core.peers

/-- The pairings of the state can be written as JSON. -/
def Serializes (app : PhoneApp T) : Prop := (SerdeJson.toVec app.core.peers).isOk

/-- The Keychain works, and the pairings that the input leads to can be written. -/
def KeychainTakes (app : PhoneApp T) (input : Input T) : Prop :=
  input.Reliable ∧ (app.step input).Serializes

instance (app : PhoneApp T) (input : Input T) : Decidable (app.KeychainTakes input) :=
  inferInstanceAs (Decidable (input.Reliable ∧ (SerdeJson.toVec (app.step input).core.peers).isOk))

omit [DecidableEq T] [Ciborium] [DebugText] [ErrorText] [TextCodecs] in
theorem kept_storePairings [SerdeJson.Lawful] (app : PhoneApp T) {access : KeychainAccess}
    (hworks : access.Works) (hserializes : (app.storePairings access).Serializes) :
    (app.storePairings access).Kept := by
  rw [storePairings_frame] at hserializes
  change (SerdeJson.toVec app.core.peers).isOk at hserializes
  cases hjson : SerdeJson.toVec app.core.peers with
  | error =>
    rw [hjson] at hserializes
    cases hserializes
  | ok json =>
  rw [storePairings, hjson]
  dsimp only
  rw [KeychainStore.write_works _ _ hworks, Kept, storedPeers]
  dsimp only
  rw [Option.bind_some, SerdeJson.Lawful.fromSlice_toVec hjson]
  rfl

theorem Kept.step [SerdeJson.Lawful] {app : PhoneApp T} (h : app.Kept) {input : Input T}
    (htakes : app.KeychainTakes input) : (app.step input).Kept := by
  obtain ⟨hreliable, hserializes⟩ := htakes
  have hstepped := app.step_cases input
  generalize app.step input = app' at hstepped hserializes ⊢
  cases hstepped with
  | launched =>
    change storedPeers app.keychain = if _ then storedPeers app.keychain else []
    exact (if_pos hreliable).symm
  | stored | forgot => exact kept_storePairings _ hreliable hserializes
  | hinted hpeers => exact h.trans hpeers.symm
  | ran =>
    rw [runJob_frame]
    exact h
  | _ => exact h

/-- Whatever commands overlap and whenever the app is launched again: each exchange is confirmed at most
once, and only after the user has found some emoji to match; each pairing that the app knows, in memory or
in the Keychain, has been there at first or comes of an exchange whose confirmation has been written; no
device gets there twice; and while the Keychain works and takes each list of pairings of the run, the two
are the same. -/
theorem persisted_pairings_confirmed [SerdeJson.Lawful] (keychain : Keychain)
    (identity : IdentityKeypair) (inputs : List (Input T)) :
    (∀ record,
      record ∈ ((installed keychain identity).run inputs).core.peers ∨
        record ∈ storedPeers ((installed keychain identity).run inputs).keychain →
      ((installed keychain identity).run inputs).Vouched (storedPeers keychain) record) ∧
    (((installed keychain identity).run inputs).confirmed.map Prod.fst).Nodup ∧
    (∀ number ∈ ((installed keychain identity).run inputs).confirmed.map Prod.fst,
      ∃ shown, (shown, number) ∈ ((installed keychain identity).run inputs).compared) ∧
    (((storedPeers keychain).map PairingRecord.deviceId).Nodup →
      ((installed keychain identity).run inputs).DistinctPeers) ∧
    (EveryStep step KeychainTakes (installed keychain identity) inputs →
      ((installed keychain identity).run inputs).Kept) := by
  have haccounted : ((installed keychain identity).run inputs).Accounted (storedPeers keychain) := by
    apply foldl_invariant (P := Accounted (storedPeers keychain)) (fun _ input _ h ↦ h.step input)
    exact accounted_installed keychain identity
  refine ⟨fun record hmem ↦ hmem.elim (haccounted.peers record) (haccounted.keychain record),
    haccounted.exchanged.once, fun number hmem ↦ ?_, fun hdistinct ↦ ?_, fun htakes ↦ ?_⟩
  · obtain ⟨⟨shown, number⟩, hcompared, rfl⟩ :=
      List.mem_map.mp (haccounted.exchanged.compared number hmem)
    exact ⟨shown, hcompared⟩
  · apply foldl_invariant (P := DistinctPeers) (fun _ input _ h ↦ h.step input)
    exact ⟨hdistinct, hdistinct⟩
  · exact htakes.invariant (Q := Kept) (fun _ _ htakes h ↦ h.step htakes) rfl

end PhoneApp

end Persisted

namespace Reference

scoped instance errorText : ErrorText := ⟨fun _ ↦ "error"⟩

def keychainWorks : KeychainAccess := ⟨true, true⟩

/-- The Keychain has an identity and no pairings. -/
def phoneKeychain : Keychain := ⟨some devices.phone.secret.toList, none⟩

/-- The user taps twice and cancels while the first confirmation is under way; then the app is launched
again. -/
def doubleTap : List (PhoneApp.Input Bool) :=
  [.launch true true keychainWorks none, .beginPairing false pairing.qrUrl devices.phoneName,
    .startPairing false, .exchange false answeredPairing, .runJob 0, .confirmPairing false,
    .confirmPairing true, .confirmSas false, .cancelPairing, .confirmSas true,
    .sendConfirm false (.ok ()), .storePeer false keychainWorks, .launch true true keychainWorks none]

def doubleTapped : PhoneApp Bool := (PhoneApp.installed phoneKeychain devices.phone).run doubleTap

theorem doubleTap_taken : EveryStep PhoneApp.step PhoneApp.KeychainTakes
    (PhoneApp.installed phoneKeychain devices.phone) doubleTap := by decide +kernel

theorem doubleTapped_confirmed : doubleTapped.confirmed.map Prod.fst = [0] ∧
    doubleTapped.core.peers.map PairingRecord.displayName = [devices.pcName] := by decide +kernel

end Reference

open Reference in
/-- The exchange is confirmed once, and its pairing is there after the launch. -/
theorem persisted_pairings_confirmed_double_tap :
    (doubleTapped.confirmed.map Prod.fst = [0] ∧
      doubleTapped.core.peers.map PairingRecord.displayName = [devices.pcName]) ∧
    (∀ record, record ∈ doubleTapped.core.peers ∨ record ∈ PhoneApp.storedPeers doubleTapped.keychain →
      doubleTapped.Vouched [] record) ∧
    (doubleTapped.confirmed.map Prod.fst).Nodup ∧
    (∀ number ∈ doubleTapped.confirmed.map Prod.fst, ∃ shown, (shown, number) ∈ doubleTapped.compared) ∧
    doubleTapped.DistinctPeers ∧ doubleTapped.Kept := by
  have hpersisted := PhoneApp.persisted_pairings_confirmed phoneKeychain devices.phone doubleTap
  rw [← doubleTapped] at hpersisted
  obtain ⟨hvouched, honce, hcompared, hdistinct, hkept⟩ := hpersisted
  exact ⟨doubleTapped_confirmed, hvouched, honce, hcompared, hdistinct List.nodup_nil,
    hkept doubleTap_taken⟩

end AirClip
