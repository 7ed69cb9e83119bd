import Mathlib.Tactic

/-!
# Throttling by fixed windows

A throttle counts the calls of a source window by window.  A window opens with the first call behind the
last one, its first calls are granted, and the call beyond them starts a ban.  Since the windows do not
overlap and each opens with a granted call, no interval of the length of a window contains more than
two windows less one call.
-/

namespace Foundation

/-- At most `limit` calls are granted in a window, and the next one starts a ban that outlasts it. -/
structure Throttle where
  limit : ℕ
  window : ℕ
  ban : ℕ
  limit_pos : 0 < limit
  window_pos : 0 < window
  window_le_ban : window ≤ ban

namespace Throttle

/-- What is kept of a source: the start of its window, the calls in it, and the end of its ban. -/
@[ext]
structure State where
  start : Option ℕ
  count : ℕ
  bannedUntil : ℕ
deriving DecidableEq

def State.Banned (state : State) (now : ℕ) : Prop := now < state.bannedUntil

instance (state : State) (now : ℕ) : Decidable (state.Banned now) :=
  inferInstanceAs (Decidable (now < state.bannedUntil))

/-- Nothing is known of the source yet. -/
def fresh : State := ⟨none, 0, 0⟩

theorem fresh_free (now : ℕ) : ¬ fresh.Banned now := Nat.not_lt_zero now

variable (throttle : Throttle)

/-- The start of the window a call falls into, and the number of calls in it so far. -/
def current (state : State) (now : ℕ) : ℕ × ℕ :=
  match state.start with
  | none => (now, state.count)
  | some start => if throttle.window ≤ now - start then (now, 0) else (start, state.count)

/-- A ban has no part in the windows. -/
theorem current_ban (state : State) (bannedUntil now : ℕ) :
    throttle.current { state with bannedUntil } now = throttle.current state now := rfl

theorem current_snd_le (state : State) (now : ℕ) : (throttle.current state now).2 ≤ state.count := by
  unfold current
  split
  · exact le_rfl
  · split_ifs
    · exact Nat.zero_le _
    · exact le_rfl

def allow (state : State) (now : ℕ) : Bool × State :=
  if state.Banned now then (false, state)
  else
    let window := throttle.current state now
    if window.2 < throttle.limit then (true, ⟨some window.1, window.2 + 1, 0⟩)
    else (false, ⟨some window.1, window.2 + 1, now + throttle.ban⟩)

/-- The times at which calls are granted. -/
def granted (state : State) : List ℕ → List ℕ
  | [] => []
  | now :: times =>
    (if (throttle.allow state now).1 then [now] else []) ++ granted (throttle.allow state now).2 times

/-- The state after some calls. -/
def after (state : State) (times : List ℕ) : State :=
  times.foldl (fun state now ↦ (throttle.allow state now).2) state

theorem allow_banned {state : State} {now : ℕ} (h : state.Banned now) :
    throttle.allow state now = (false, state) := if_pos h

theorem allow_granted {state : State} {now : ℕ} (hfree : ¬ state.Banned now)
    (hcount : (throttle.current state now).2 < throttle.limit) :
    throttle.allow state now = (true, ⟨some (throttle.current state now).1,
      (throttle.current state now).2 + 1, 0⟩) := (if_neg hfree).trans (if_pos hcount)

theorem allow_refused {state : State} {now : ℕ} (hfree : ¬ state.Banned now)
    (hcount : throttle.limit ≤ (throttle.current state now).2) :
    throttle.allow state now = (false, ⟨some (throttle.current state now).1,
      (throttle.current state now).2 + 1, now + throttle.ban⟩) :=
  (if_neg hfree).trans (if_neg hcount.not_gt)

/-- The first call behind a ban and its window is granted. -/
theorem allow_released {start count bannedUntil now : ℕ} (hban : bannedUntil ≤ now)
    (hwindow : start + throttle.window ≤ now) :
    (throttle.allow ⟨some start, count, bannedUntil⟩ now).1 = true := by
  have hnew : throttle.current ⟨some start, count, bannedUntil⟩ now = (now, 0) :=
    if_pos (Nat.le_sub_of_add_le' hwindow)
  have hfree : ¬ State.Banned ⟨some start, count, bannedUntil⟩ now := hban.not_gt
  have hcount : (throttle.current ⟨some start, count, bannedUntil⟩ now).2 < throttle.limit := by
    rw [hnew]
    exact throttle.limit_pos
  rw [throttle.allow_granted hfree hcount]

/-- Only a ban and a full window stand against a call. -/
theorem banned_or_full {state : State} {now : ℕ} (h : (throttle.allow state now).1 = false) :
    state.Banned now ∨ throttle.limit ≤ (throttle.current state now).2 := by
  by_contra hneither
  obtain ⟨hfree, hcount⟩ := not_or.mp hneither
  rw [throttle.allow_granted hfree (not_le.mp hcount)] at h
  cases h

/-! ## Grants, each with the start of its window -/

/-- Windows do not overlap, each opens with a grant, and none has more grants than the limit. -/
structure Spread (log : List (ℕ × ℕ)) : Prop where
  within : ∀ grant ∈ log, grant.2 ≤ grant.1 ∧ grant.1 < grant.2 + throttle.window
  apart : ∀ grant ∈ log, ∀ other ∈ log, grant.2 < other.2 → grant.2 + throttle.window ≤ other.2
  opened : ∀ grant ∈ log, (grant.2, grant.2) ∈ log
  full : ∀ start, log.countP (fun grant ↦ grant.2 = start) ≤ throttle.limit

/-- Of two kinds of entries that exclude each other there are at most as many as of both together. -/
theorem countP_add_countP_le {α : Type*} {p q r : α → Bool} (entries : List α)
    (hp : ∀ entry ∈ entries, p entry → r entry) (hq : ∀ entry ∈ entries, q entry → r entry)
    (hdisjoint : ∀ entry ∈ entries, p entry → ¬ q entry) :
    entries.countP p + entries.countP q ≤ entries.countP r := by
  induction entries with
  | nil => simp
  | cons entry entries ih =>
    have hrest := ih (fun other hmem ↦ hp other (List.mem_cons_of_mem _ hmem))
      (fun other hmem ↦ hq other (List.mem_cons_of_mem _ hmem))
      (fun other hmem ↦ hdisjoint other (List.mem_cons_of_mem _ hmem))
    have hp := hp entry List.mem_cons_self
    have hq := hq entry List.mem_cons_self
    have hdisjoint := hdisjoint entry List.mem_cons_self
    simp only [List.countP_cons]
    cases hpEntry : p entry <;> cases hqEntry : q entry <;> simp_all <;> omega

variable {throttle}

/-- Of the windows that open before an interval of their length at most one reaches into it, and its
opening is left out. -/
theorem Spread.countP_before_lt {log : List (ℕ × ℕ)} (h : throttle.Spread log) (a : ℕ) :
    log.countP (fun grant ↦ a ≤ grant.1 ∧ grant.2 < a) < throttle.limit := by
  by_cases hnone : log.countP (fun grant ↦ a ≤ grant.1 ∧ grant.2 < a) = 0
  · rw [hnone]
    exact throttle.limit_pos
  obtain ⟨first, hfirst, hbefore⟩ := List.countP_pos_iff.mp (Nat.pos_of_ne_zero hnone)
  obtain ⟨hreaches, hstart⟩ := of_decide_eq_true hbefore
  have hone : 0 < log.countP (fun grant ↦ grant = (first.2, first.2)) :=
    List.countP_pos_iff.mpr ⟨_, h.opened first hfirst, by simp⟩
  have hsum := countP_add_countP_le (p := fun grant : ℕ × ℕ ↦ a ≤ grant.1 ∧ grant.2 < a)
    (q := fun grant ↦ grant = (first.2, first.2)) (r := fun grant ↦ grant.2 = first.2) log ?_ ?_ ?_
  · have hfull := h.full first.2
    omega
  · intro grant hmem hgrant
    obtain ⟨hreaches', hstart'⟩ := of_decide_eq_true hgrant
    have hwithin := h.within first hfirst
    have hwithin' := h.within grant hmem
    have hapart := h.apart grant hmem first hfirst
    have hapart' := h.apart first hfirst grant hmem
    rw [decide_eq_true_eq]
    omega
  · intro grant _ hgrant
    rw [of_decide_eq_true hgrant]
    exact decide_eq_true rfl
  · intro grant _ hgrant hopening
    obtain ⟨hreaches', -⟩ := of_decide_eq_true hgrant
    rw [of_decide_eq_true hopening] at hreaches'
    exact absurd hreaches' hstart.not_ge

/-- Of the windows that open in an interval of their length there is at most one. -/
theorem Spread.countP_inside_le {log : List (ℕ × ℕ)} (h : throttle.Spread log) (a : ℕ) :
    log.countP (fun grant ↦ a ≤ grant.2 ∧ grant.1 < a + throttle.window) ≤ throttle.limit := by
  by_cases hnone : log.countP (fun grant ↦ a ≤ grant.2 ∧ grant.1 < a + throttle.window) = 0
  · rw [hnone]
    exact Nat.zero_le _
  obtain ⟨first, hfirst, hinside⟩ := List.countP_pos_iff.mp (Nat.pos_of_ne_zero hnone)
  obtain ⟨hstart, hreaches⟩ := of_decide_eq_true hinside
  calc
    _ ≤ log.countP (fun grant ↦ grant.2 = first.2) := by
      apply List.countP_mono_left
      intro grant hmem hgrant
      obtain ⟨hstart', hreaches'⟩ := of_decide_eq_true hgrant
      have hwithin := h.within first hfirst
      have hwithin' := h.within grant hmem
      have hapart := h.apart grant hmem first hfirst
      have hapart' := h.apart first hfirst grant hmem
      rw [decide_eq_true_eq]
      omega
    _ ≤ throttle.limit := h.full first.2

theorem Spread.countP_interval_le {log : List (ℕ × ℕ)} (h : throttle.Spread log) (a : ℕ) :
    log.countP (fun grant ↦ a ≤ grant.1 ∧ grant.1 < a + throttle.window) ≤
      2 * throttle.limit - 1 := by
  have hbefore := h.countP_before_lt a
  have hinside := h.countP_inside_le a
  have hsplit := log.countP_eq_countP_filter_add
    (fun grant ↦ a ≤ grant.1 ∧ grant.1 < a + throttle.window) (fun grant ↦ grant.2 < a)
  rw [List.countP_filter, List.countP_filter] at hsplit
  calc
    _ = _ := hsplit
    _ ≤ log.countP (fun grant ↦ a ≤ grant.1 ∧ grant.2 < a) +
        log.countP (fun grant ↦ a ≤ grant.2 ∧ grant.1 < a + throttle.window) := by
      apply Nat.add_le_add
      · apply List.countP_mono_left
        intro grant _ hgrant
        simp only [Bool.and_eq_true, decide_eq_true_eq] at hgrant ⊢
        exact ⟨hgrant.1.1, hgrant.2⟩
      · apply List.countP_mono_left
        intro grant _ hgrant
        simp only [Bool.and_eq_true, Bool.not_eq_true', decide_eq_true_eq, decide_eq_false_iff_not,
          not_lt] at hgrant ⊢
        exact ⟨hgrant.2, hgrant.1.2⟩
    _ ≤ 2 * throttle.limit - 1 := by omega

/-! ## The grants of a run -/

/-- What the throttle keeps agrees with what it has granted up to some time. -/
structure Accounts (state : State) (log : List (ℕ × ℕ)) (now : ℕ) : Prop where
  spread : throttle.Spread log
  start_none : state.start = none → log = [] ∧ state.count = 0
  start_some : ∀ start, state.start = some start → start ≤ now ∧ (start, start) ∈ log ∧
    ∀ grant ∈ log, grant.2 ≤ start
  counted : ∀ start, state.start = some start →
    log.countP (fun grant ↦ grant.2 = start) = min state.count throttle.limit
  count_le : state.count ≤ throttle.limit + 1
  banned : ∀ start, state.start = some start → state.count = throttle.limit + 1 →
    start + throttle.window ≤ state.bannedUntil

theorem accounts_fresh (now : ℕ) : throttle.Accounts fresh [] now where
  spread := ⟨by simp, by simp, by simp, by simp⟩
  start_none _ := ⟨rfl, rfl⟩
  start_some := nofun
  counted := nofun
  count_le := Nat.zero_le _
  banned := nofun

/-- The window a call falls into, unless a ban stands against the call. -/
structure Window (throttle : Throttle) (log : List (ℕ × ℕ)) (now : ℕ) (window : ℕ × ℕ) : Prop where
  start_le : window.1 ≤ now
  lt_end : now < window.1 + throttle.window
  apart : ∀ grant ∈ log, grant.2 = window.1 ∨ grant.2 + throttle.window ≤ window.1
  opened : (window.1, window.1) ∈ log ∨ window = (now, 0)
  counted : log.countP (fun grant ↦ grant.2 = window.1) = window.2
  count_le : window.2 ≤ throttle.limit

theorem Accounts.current {state : State} {log : List (ℕ × ℕ)} {earlier now : ℕ}
    (h : throttle.Accounts state log earlier) (hle : earlier ≤ now) (hfree : ¬ state.Banned now) :
    throttle.Window log now (throttle.current state now) := by
  have hwindow := throttle.window_pos
  have hban : state.bannedUntil ≤ now := not_lt.mp hfree
  unfold Throttle.current
  split
  · next hstart =>
    obtain ⟨rfl, hcount⟩ := h.start_none hstart
    exact ⟨le_rfl, by dsimp only; omega, by simp, .inr (by rw [hcount]), by simp [hcount],
      by simp [hcount]⟩
  · next start hstart =>
    obtain ⟨hstart_le, hopened, hlast⟩ := h.start_some start hstart
    split_ifs with hover
    · have hbehind (grant : ℕ × ℕ) (hmem : grant ∈ log) : grant.2 + throttle.window ≤ now := by
        have hgrant := hlast grant hmem
        omega
      refine ⟨le_rfl, by dsimp only; omega, fun grant hmem ↦ .inr (hbehind grant hmem), .inr rfl, ?_,
        Nat.zero_le _⟩
      rw [List.countP_eq_zero]
      intro grant hmem hgrant
      have hlater := hbehind grant hmem
      have hsame : grant.2 = now := of_decide_eq_true hgrant
      omega
    · have hcount := h.count_le
      have hcounted := h.counted start hstart
      have hbanned := h.banned start hstart
      refine ⟨hstart_le.trans hle, by dsimp only; omega, fun grant hmem ↦ ?_, .inl hopened, ?_, ?_⟩
      · obtain hsame | hbefore := (hlast grant hmem).eq_or_lt
        · exact .inl hsame
        · exact .inr (h.spread.apart grant hmem _ hopened hbefore)
      · rw [hcounted]
        dsimp only
        omega
      · dsimp only
        omega

/-- A grant takes its place in the last window. -/
theorem Spread.grant {log : List (ℕ × ℕ)} (h : throttle.Spread log) {now : ℕ} {window : ℕ × ℕ}
    (hwindow : throttle.Window log now window) (hcount : window.2 < throttle.limit) :
    throttle.Spread (log ++ [(now, window.1)]) where
  within := by
    intro grant hmem
    obtain hearlier | hlast := List.mem_append.mp hmem
    · exact h.within grant hearlier
    · rw [List.mem_singleton.mp hlast]
      exact ⟨hwindow.start_le, hwindow.lt_end⟩
  apart := by
    intro grant hmem other hother hlt
    obtain hearlier | hlast := List.mem_append.mp hmem
    · obtain hearlier' | hlast' := List.mem_append.mp hother
      · exact h.apart grant hearlier other hearlier' hlt
      · rw [List.mem_singleton.mp hlast'] at hlt ⊢
        exact (hwindow.apart grant hearlier).resolve_left hlt.ne
    · rw [List.mem_singleton.mp hlast] at hlt ⊢
      obtain hearlier' | hlast' := List.mem_append.mp hother
      · have hapart := hwindow.apart other hearlier'
        dsimp only at hlt ⊢
        omega
      · rw [List.mem_singleton.mp hlast'] at hlt
        exact absurd hlt (lt_irrefl _)
  opened := by
    intro grant hmem
    obtain hearlier | hlast := List.mem_append.mp hmem
    · exact List.mem_append_left _ (h.opened grant hearlier)
    · rw [List.mem_singleton.mp hlast]
      obtain hopened | rfl := hwindow.opened
      · exact List.mem_append_left _ hopened
      · exact List.mem_append_right _ (List.mem_singleton_self _)
  full := by
    intro start
    rw [List.countP_append, List.countP_singleton]
    dsimp only
    split_ifs with hsame
    · rw [← of_decide_eq_true hsame, hwindow.counted]
      exact hcount
    · exact h.full start

/-- A window with room counts the grant. -/
theorem Window.granted {log : List (ℕ × ℕ)} {now bannedUntil : ℕ} {window : ℕ × ℕ}
    (h : throttle.Window log now window) (hspread : throttle.Spread log)
    (hcount : window.2 < throttle.limit) :
    throttle.Accounts ⟨some window.1, window.2 + 1, bannedUntil⟩ (log ++ [(now, window.1)]) now := by
  have hspread' := hspread.grant h hcount
  refine ⟨hspread', nofun, ?_, ?_, ?_, ?_⟩
  · rintro start ⟨⟩
    refine ⟨h.start_le, hspread'.opened (now, window.1) (List.mem_append_right _
      (List.mem_singleton_self _)), fun grant hmem ↦ ?_⟩
    obtain hearlier | hlast := List.mem_append.mp hmem
    · have hapart := h.apart grant hearlier
      omega
    · rw [List.mem_singleton.mp hlast]
  · rintro start ⟨⟩
    rw [List.countP_append, h.counted, List.countP_singleton, if_pos (by simp)]
    exact (min_eq_left hcount).symm
  · dsimp only
    omega
  · intro start _ hfull
    dsimp only at hfull
    omega

/-- A full window counts the refusal and bans until after its end. -/
theorem Window.refused {log : List (ℕ × ℕ)} {now : ℕ} {window : ℕ × ℕ}
    (h : throttle.Window log now window) (hspread : throttle.Spread log)
    (hcount : throttle.limit ≤ window.2) :
    throttle.Accounts ⟨some window.1, window.2 + 1, now + throttle.ban⟩ log now := by
  have hfull : window.2 = throttle.limit := le_antisymm h.count_le hcount
  have hopened : (window.1, window.1) ∈ log := by
    refine h.opened.resolve_right ?_
    rintro rfl
    exact absurd throttle.limit_pos (not_lt.mpr hcount)
  refine ⟨hspread, nofun, ?_, ?_, ?_, ?_⟩
  · rintro start ⟨⟩
    refine ⟨h.start_le, hopened, fun grant hmem ↦ ?_⟩
    have hapart := h.apart grant hmem
    omega
  · rintro start ⟨⟩
    rw [h.counted]
    dsimp only
    omega
  · dsimp only
    omega
  · rintro start ⟨⟩ _
    have hstart := h.start_le
    have hban := throttle.window_le_ban
    dsimp only
    omega

theorem Accounts.mono {state : State} {log : List (ℕ × ℕ)} {earlier now : ℕ}
    (h : throttle.Accounts state log earlier) (hle : earlier ≤ now) :
    throttle.Accounts state log now :=
  { h with start_some := fun start hstart ↦
      ⟨(h.start_some start hstart).1.trans hle, (h.start_some start hstart).2⟩ }

/-- What the throttle keeps still agrees after a call. -/
theorem Accounts.allow {state : State} {log : List (ℕ × ℕ)} {earlier now : ℕ}
    (h : throttle.Accounts state log earlier) (hle : earlier ≤ now) :
    ∃ grants, throttle.Accounts (throttle.allow state now).2 (log ++ grants) now ∧
      grants.map Prod.fst = if (throttle.allow state now).1 then [now] else [] := by
  by_cases hbanned : state.Banned now
  · rw [throttle.allow_banned hbanned]
    refine ⟨[], ?_, rfl⟩
    rw [List.append_nil]
    exact h.mono hle
  have hwindow := h.current hle hbanned
  by_cases hcount : (throttle.current state now).2 < throttle.limit
  · rw [throttle.allow_granted hbanned hcount]
    exact ⟨_, hwindow.granted h.spread hcount, rfl⟩
  · rw [throttle.allow_refused hbanned (not_lt.mp hcount)]
    refine ⟨[], ?_, rfl⟩
    rw [List.append_nil]
    exact hwindow.refused h.spread (not_lt.mp hcount)

/-- And so it does after any calls in the order of their times. -/
theorem Accounts.run {state : State} {log : List (ℕ × ℕ)} {now last : ℕ} {times : List ℕ}
    (h : throttle.Accounts state log now) (hsorted : (now :: times).Pairwise (· ≤ ·))
    (hlast : ∀ time ∈ now :: times, time ≤ last) :
    ∃ grants, throttle.Accounts (throttle.after state times) (log ++ grants) last ∧
      grants.map Prod.fst = throttle.granted state times := by
  induction times generalizing state log now with
  | nil =>
    refine ⟨[], ?_, rfl⟩
    rw [List.append_nil]
    exact h.mono (hlast now List.mem_cons_self)
  | cons time times ih =>
    obtain ⟨hle, hrest⟩ := List.pairwise_cons.mp hsorted
    obtain ⟨grants, hstep, hgrants⟩ := h.allow (hle time List.mem_cons_self)
    obtain ⟨more, hrun, hmore⟩ := ih hstep hrest fun other hmem ↦
      hlast other (List.mem_cons_of_mem _ hmem)
    refine ⟨grants ++ more, ?_, ?_⟩
    · rwa [← List.append_assoc]
    · rw [List.map_append, hgrants, hmore, granted]

theorem accounts_after {times : List ℕ} (hsorted : times.Pairwise (· ≤ ·)) {last : ℕ}
    (hlast : ∀ time ∈ times, time ≤ last) :
    ∃ log, throttle.Accounts (throttle.after fresh times) log last ∧
      log.map Prod.fst = throttle.granted fresh times := by
  apply (accounts_fresh 0).run
  · exact List.pairwise_cons.mpr ⟨fun _ _ ↦ Nat.zero_le _, hsorted⟩
  · exact List.forall_mem_cons.mpr ⟨Nat.zero_le _, hlast⟩

/-- No interval of the length of a window contains the grants of two full windows. -/
theorem granted_interval_le {times : List ℕ} (hsorted : times.Pairwise (· ≤ ·)) (a : ℕ) :
    (throttle.granted fresh times).countP (fun time ↦ a ≤ time ∧ time < a + throttle.window) ≤
      2 * throttle.limit - 1 := by
  obtain ⟨log, haccounts, hlog⟩ := throttle.accounts_after hsorted
    (fun time hmem ↦ List.single_le_sum (by simp) time hmem)
  rw [← hlog, List.countP_map]
  exact haccounts.spread.countP_interval_le a

/-! ## Refusals -/

/-- The grants of the current window are those since its start. -/
theorem Window.countP_since {log : List (ℕ × ℕ)} {now : ℕ} {window : ℕ × ℕ}
    (h : throttle.Window log now window) (hspread : throttle.Spread log) :
    log.countP (fun grant ↦ window.1 ≤ grant.1) = window.2 := by
  rw [← h.counted]
  apply List.countP_congr
  intro grant hmem
  have hwithin := hspread.within grant hmem
  have hapart := h.apart grant hmem
  simp only [decide_eq_true_eq]
  omega

/-- A window that is full is the one that is kept. -/
theorem Accounts.start_of_full {state : State} {log : List (ℕ × ℕ)} {earlier now : ℕ}
    (h : throttle.Accounts state log earlier)
    (hfull : throttle.limit ≤ (throttle.current state now).2) :
    state.start = some (throttle.current state now).1 := by
  have hlimit := throttle.limit_pos
  unfold Throttle.current at hfull ⊢
  split at hfull
  · next hstart =>
    have hempty := (h.start_none hstart).2
    dsimp only at hfull
    omega
  · next start hstart =>
    split_ifs at hfull ⊢
    · dsimp only at hfull
      omega
    · exact hstart

/-- A call that is refused without a ban starts one, and the first call behind the ban is granted. -/
theorem Accounts.ban {state : State} {log : List (ℕ × ℕ)} {earlier now : ℕ}
    (h : throttle.Accounts state log earlier) (hle : earlier ≤ now) (hfree : ¬ state.Banned now)
    (hrefused : (throttle.allow state now).1 = false) :
    (throttle.allow state now).2.bannedUntil = now + throttle.ban ∧
      ∀ later, now + throttle.ban ≤ later →
        (throttle.allow (throttle.allow state now).2 later).1 = true := by
  have hcount := (throttle.banned_or_full hrefused).resolve_left hfree
  have hstart := (h.current hle hfree).start_le
  rw [throttle.allow_refused hfree hcount]
  have hwindow := throttle.window_le_ban
  exact ⟨rfl, fun later hlater ↦ throttle.allow_released hlater (by omega)⟩

/-! ## Calls that are all granted -/

/-- The windows of some calls: each opens with the first call behind the one before. -/
def windows (length : ℕ) : List ℕ → List (List ℕ)
  | [] => []
  | first :: times =>
    (first :: times.takeWhile (· < first + length)) ::
      windows length (times.dropWhile (· < first + length))
termination_by times => times.length
decreasing_by exact Nat.lt_succ_of_le (List.dropWhile_sublist _).length_le

variable (throttle)

theorem granted_sublist (state : State) (times : List ℕ) :
    (throttle.granted state times).Sublist times := by
  induction times generalizing state with
  | nil => exact List.Sublist.refl _
  | cons now times ih =>
    rw [granted]
    split_ifs
    · exact (ih _).cons_cons now
    · exact (ih _).cons now

/-- All calls are granted if the first is, and then the rest. -/
theorem granted_cons_eq_iff {state : State} {now : ℕ} {times : List ℕ} :
    throttle.granted state (now :: times) = now :: times ↔
      (throttle.allow state now).1 = true ∧
        throttle.granted (throttle.allow state now).2 times = times := by
  rw [granted]
  split_ifs with hallowed
  · simp [hallowed]
  · have hshort := (throttle.granted_sublist (throttle.allow state now).2 times).length_le
    constructor
    · intro hall
      have hlength := congrArg List.length hall
      rw [List.nil_append, List.length_cons] at hlength
      omega
    · exact fun hall ↦ absurd hall.1 hallowed

/-- The calls in an open window fill it up, and those behind it find a throttle as if it were fresh. -/
theorem granted_open_eq_iff {start count : ℕ} (hcount : count ≤ throttle.limit) (times : List ℕ) :
    throttle.granted ⟨some start, count, 0⟩ times = times ↔
      count + (times.takeWhile (· < start + throttle.window)).length ≤ throttle.limit ∧
        throttle.granted fresh (times.dropWhile (· < start + throttle.window)) =
          times.dropWhile (· < start + throttle.window) := by
  have hwindow := throttle.window_pos
  induction times generalizing count with
  | nil => simpa [granted] using hcount
  | cons now times ih =>
    have hfree : ¬ State.Banned ⟨some start, count, 0⟩ now := Nat.not_lt_zero now
    by_cases hinside : now < start + throttle.window
    · have hcurrent : throttle.current ⟨some start, count, 0⟩ now = (start, count) :=
        if_neg (by omega)
      rw [granted_cons_eq_iff, List.takeWhile_cons_of_pos (by simpa using hinside),
        List.dropWhile_cons_of_pos (by simpa using hinside), List.length_cons]
      by_cases hfull : count < throttle.limit
      · rw [throttle.allow_granted hfree (by rwa [hcurrent]), hcurrent]
        dsimp only
        rw [eq_self, true_and]
        refine (ih hfull).trans (and_congr_left fun _ ↦ ?_)
        omega
      · rw [throttle.allow_refused hfree (by rwa [hcurrent, ← not_lt])]
        constructor
        · exact fun hall ↦ nomatch hall.1
        · intro hall
          omega
    · have hcurrent : throttle.current ⟨some start, count, 0⟩ now = (now, 0) :=
        if_pos (by omega)
      have hnew : throttle.allow ⟨some start, count, 0⟩ now = throttle.allow fresh now := by
        rw [throttle.allow_granted hfree (by rw [hcurrent]; exact throttle.limit_pos), hcurrent]
        exact (throttle.allow_granted (fresh_free now) throttle.limit_pos).symm
      rw [List.takeWhile_cons_of_neg (by simpa using hinside),
        List.dropWhile_cons_of_neg (by simpa using hinside), granted_cons_eq_iff, hnew,
        ← granted_cons_eq_iff, List.length_nil, Nat.add_zero]
      exact (and_iff_right hcount).symm

/-- All calls are granted exactly if no window holds more than the limit. -/
theorem granted_eq_iff (times : List ℕ) : throttle.granted fresh times = times ↔
    ∀ window ∈ windows throttle.window times, window.length ≤ throttle.limit := by
  induction times using windows.induct throttle.window with
  | case1 => simp [granted, windows]
  | case2 first times ih =>
    have hfirst : throttle.allow fresh first = (true, ⟨some first, 1, 0⟩) :=
      throttle.allow_granted (fresh_free first) throttle.limit_pos
    rw [granted_cons_eq_iff, hfirst, eq_self, true_and,
      throttle.granted_open_eq_iff throttle.limit_pos, ih, windows, List.forall_mem_cons,
      List.length_cons, Nat.add_comm]

end Throttle

end Foundation
