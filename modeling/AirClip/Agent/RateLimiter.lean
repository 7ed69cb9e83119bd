import AirClip.Core.Pairing
import AirClip.Foundation.Runs
import AirClip.Foundation.Throttle

/-!
# The rate limiter

Every connection to the agent passes a throttle first, which keeps three maps keyed by address.  Read
at one address they are a throttle by fixed windows, and no other address has a part in it.
-/

open Foundation

namespace AirClip

/-- Connection attempts per address per minute. -/
def rateLimitPerMin : UInt32 := 20

def rateLimitBanMs : UInt64 := 5 * 60 * 1000

/-- Per-source-address connection throttle. -/
structure RateLimiter (Ip : Type) where
  windowStartMs : Ip → Option UInt64
  counts : Ip → Option UInt32
  bannedUntilMs : Ip → Option UInt64

/-- A connection attempt. -/
structure Attempt (Ip : Type) where
  ip : Ip
  now : UInt64
deriving DecidableEq

namespace RateLimiter

variable {Ip : Type} [DecidableEq Ip]

def default : RateLimiter Ip := ⟨fun _ ↦ none, fun _ ↦ none, fun _ ↦ none⟩

/-- The window of an attempt: the one that is open, or a new one. -/
def openWindow (limiter : RateLimiter Ip) (ip : Ip) (now : UInt64) : RateLimiter Ip :=
  let start := (limiter.windowStartMs ip).getD now
  if 60000 ≤ saturatingSub now start then
    { limiter with
      windowStartMs := Function.update limiter.windowStartMs ip (some now)
      counts := Function.update limiter.counts ip (some 0) }
  else { limiter with windowStartMs := Function.update limiter.windowStartMs ip (some start) }

/-- Count an attempt against which no ban stands. -/
def count (limiter : RateLimiter Ip) (ip : Ip) (now : UInt64) : Bool × RateLimiter Ip :=
  let limiter := limiter.openWindow ip now
  let c := (limiter.counts ip).getD 0 + 1
  let limiter := { limiter with counts := Function.update limiter.counts ip (some c) }
  if rateLimitPerMin < c then
    (false, { limiter with
      bannedUntilMs := Function.update limiter.bannedUntilMs ip (some (now + rateLimitBanMs)) })
  else (true, limiter)

def allow (limiter : RateLimiter Ip) (ip : Ip) (now : UInt64) : Bool × RateLimiter Ip :=
  match limiter.bannedUntilMs ip with
  | some bannedUntil =>
    if now < bannedUntil then (false, limiter)
    else
      { limiter with bannedUntilMs := Function.update limiter.bannedUntilMs ip none }.count ip now
  | none => limiter.count ip now

/-- The limiter after some attempts. -/
def after (limiter : RateLimiter Ip) (attempts : List (Attempt Ip)) : RateLimiter Ip :=
  attempts.foldl (fun limiter attempt ↦ (limiter.allow attempt.ip attempt.now).2) limiter

/-- The attempts, each with its decision. -/
def decisions (limiter : RateLimiter Ip) : List (Attempt Ip) → List (Attempt Ip × Bool)
  | [] => []
  | attempt :: attempts =>
    (attempt, (limiter.allow attempt.ip attempt.now).1) ::
      (limiter.allow attempt.ip attempt.now).2.decisions attempts

/-! ## One address -/

/-- What the three maps hold of an address. -/
def entry (limiter : RateLimiter Ip) (ip : Ip) : Option UInt64 × Option UInt32 × Option UInt64 :=
  (limiter.windowStartMs ip, limiter.counts ip, limiter.bannedUntilMs ip)

theorem openWindow_entry_other (limiter : RateLimiter Ip) {ip other : Ip} (hne : other ≠ ip)
    (now : UInt64) : (limiter.openWindow ip now).entry other = limiter.entry other := by
  unfold openWindow
  dsimp only
  split_ifs <;> simp [entry, hne]

theorem count_entry_other (limiter : RateLimiter Ip) {ip other : Ip} (hne : other ≠ ip)
    (now : UInt64) : (limiter.count ip now).2.entry other = limiter.entry other := by
  rw [← limiter.openWindow_entry_other hne now]
  unfold count
  dsimp only
  split_ifs <;> simp [entry, hne]

theorem allow_entry_other (limiter : RateLimiter Ip) {ip other : Ip} (hne : other ≠ ip)
    (now : UInt64) : (limiter.allow ip now).2.entry other = limiter.entry other := by
  unfold allow
  split
  · split_ifs
    · rfl
    · rw [count_entry_other _ hne]
      simp [entry, hne]
  · exact count_entry_other _ hne now

omit [DecidableEq Ip] in
theorem entry_inj {limiter limiter' : RateLimiter Ip} {ip : Ip} :
    limiter.entry ip = limiter'.entry ip ↔
      limiter.windowStartMs ip = limiter'.windowStartMs ip ∧
      limiter.counts ip = limiter'.counts ip ∧
      limiter.bannedUntilMs ip = limiter'.bannedUntilMs ip := by
  simp only [entry, Prod.mk.injEq]

theorem openWindow_entry {limiter limiter' : RateLimiter Ip} {ip : Ip}
    (h : limiter.entry ip = limiter'.entry ip) (now : UInt64) :
    (limiter.openWindow ip now).entry ip = (limiter'.openWindow ip now).entry ip := by
  obtain ⟨hstart, hcount, hbanned⟩ := entry_inj.mp h
  unfold openWindow
  rw [hstart]
  dsimp only
  split_ifs <;> simp [entry, hcount, hbanned]

theorem count_entry {limiter limiter' : RateLimiter Ip} {ip : Ip}
    (h : limiter.entry ip = limiter'.entry ip) (now : UInt64) :
    (limiter.count ip now).1 = (limiter'.count ip now).1 ∧
      (limiter.count ip now).2.entry ip = (limiter'.count ip now).2.entry ip := by
  obtain ⟨hstart, hcount, hbanned⟩ := entry_inj.mp (openWindow_entry h now)
  unfold count
  dsimp only
  rw [hcount]
  split_ifs <;> simp [entry, hstart, hbanned]

theorem allow_entry {limiter limiter' : RateLimiter Ip} {ip : Ip}
    (h : limiter.entry ip = limiter'.entry ip) (now : UInt64) :
    (limiter.allow ip now).1 = (limiter'.allow ip now).1 ∧
      (limiter.allow ip now).2.entry ip = (limiter'.allow ip now).2.entry ip := by
  unfold allow
  rw [(entry_inj.mp h).2.2]
  split
  · split_ifs
    · exact ⟨rfl, h⟩
    · obtain ⟨hstart, hcount, -⟩ := entry_inj.mp h
      apply count_entry
      exact entry_inj.mpr ⟨hstart, hcount, by simp only [Function.update_self]⟩
  · exact count_entry h now

/-- The decisions for an address are those for its own attempts alone. -/
theorem decisions_filter {limiter limiter' : RateLimiter Ip} {ip : Ip}
    (h : limiter.entry ip = limiter'.entry ip) (attempts : List (Attempt Ip)) :
    (limiter.decisions attempts).filter (fun decision ↦ decision.1.ip = ip) =
      limiter'.decisions (attempts.filter fun attempt ↦ attempt.ip = ip) := by
  induction attempts generalizing limiter limiter' with
  | nil => rfl
  | cons attempt attempts ih =>
    by_cases hip : attempt.ip = ip
    · subst hip
      obtain ⟨hallowed, hafter⟩ := allow_entry h attempt.now
      rw [decisions, List.filter_cons_of_pos (by simp), List.filter_cons_of_pos (by simp), decisions,
        ih hafter, hallowed]
    · have hafter : (limiter.allow attempt.ip attempt.now).2.entry ip = limiter'.entry ip :=
        (limiter.allow_entry_other (Ne.symm hip) attempt.now).trans h
      rw [decisions, List.filter_cons_of_neg (by simpa using hip),
        List.filter_cons_of_neg (by simpa using hip), ih hafter]

/-! ## The throttle of an address -/

def limits : Throttle where
  limit := 20
  window := 60000
  ban := 300000
  limit_pos := by decide
  window_pos := by decide
  window_le_ban := by decide

def source (limiter : RateLimiter Ip) (ip : Ip) : Throttle.State :=
  ⟨(limiter.windowStartMs ip).map UInt64.toNat, ((limiter.counts ip).getD 0).toNat,
    ((limiter.bannedUntilMs ip).map UInt64.toNat).getD 0⟩

omit [DecidableEq Ip] in
theorem source_congr {limiter limiter' : RateLimiter Ip} {ip : Ip}
    (h : limiter.entry ip = limiter'.entry ip) : limiter.source ip = limiter'.source ip := by
  obtain ⟨hstart, hcount, hbanned⟩ := entry_inj.mp h
  rw [source, hstart, hcount, hbanned, source]

omit [DecidableEq Ip] in
theorem banned_iff {limiter : RateLimiter Ip} {ip : Ip} {now : UInt64} :
    (limiter.source ip).Banned now.toNat ↔
      ∃ bannedUntil, limiter.bannedUntilMs ip = some bannedUntil ∧ now < bannedUntil := by
  rw [Throttle.State.Banned, source]
  cases limiter.bannedUntilMs ip with
  | none => simp
  | some bannedUntil => simp [UInt64.lt_iff_toNat_lt]

theorem allow_of_banned {limiter : RateLimiter Ip} {ip : Ip} {now : UInt64}
    (h : (limiter.source ip).Banned now.toNat) : limiter.allow ip now = (false, limiter) := by
  obtain ⟨bannedUntil, hbanned, hlt⟩ := banned_iff.mp h
  rw [allow, hbanned]
  exact if_pos hlt

theorem allow_of_free {limiter : RateLimiter Ip} {ip : Ip} {now : UInt64}
    (h : ¬ (limiter.source ip).Banned now.toNat) : limiter.allow ip now =
      { limiter with bannedUntilMs := Function.update limiter.bannedUntilMs ip none }.count ip now := by
  rw [banned_iff] at h
  unfold allow
  split
  · next bannedUntil hbanned => exact if_neg fun hlt ↦ h ⟨bannedUntil, hbanned, hlt⟩
  · next hnone =>
    have hsame : Function.update limiter.bannedUntilMs ip none = limiter.bannedUntilMs := by
      rw [← hnone, Function.update_eq_self]
    rw [hsame]

theorem source_bannedUntil (limiter : RateLimiter Ip) (ip : Ip) (bannedUntil : UInt64) :
    ({ limiter with bannedUntilMs :=
      Function.update limiter.bannedUntilMs ip (some bannedUntil) }.source ip).bannedUntil =
        bannedUntil.toNat := by
  simp only [source, Function.update_self, Option.map_some, Option.getD_some]

theorem toNat_add_ban {now : UInt64} (hnow : now.toNat + 300000 < 2 ^ 64) :
    (now + rateLimitBanMs).toNat = now.toNat + limits.ban := by
  have hban : rateLimitBanMs.toNat = limits.ban := by decide
  have hlimit : limits.ban = 300000 := rfl
  rw [← hlimit] at hnow
  rw [UInt64.toNat_add, hban]
  exact Nat.mod_eq_of_lt hnow

theorem le_saturatingSub_iff {left right window : UInt64} (hwindow : 0 < window.toNat) :
    window ≤ saturatingSub left right ↔ window.toNat ≤ left.toNat - right.toNat := by
  unfold saturatingSub
  split_ifs with hle
  · rw [UInt64.le_iff_toNat_le, UInt64.toNat_sub_of_le _ _ hle]
  · rw [UInt64.le_iff_toNat_le] at hle ⊢
    rw [UInt64.toNat_zero]
    omega

theorem source_openWindow (limiter : RateLimiter Ip) (ip : Ip) (now : UInt64) :
    (limiter.openWindow ip now).source ip =
      ⟨some (limits.current (limiter.source ip) now.toNat).1,
        (limits.current (limiter.source ip) now.toNat).2, (limiter.source ip).bannedUntil⟩ := by
  have hwindow (start : UInt64) : 60000 ≤ saturatingSub now start ↔
      limits.window ≤ now.toNat - start.toNat := le_saturatingSub_iff (by decide)
  unfold openWindow Throttle.current
  cases hstart : limiter.windowStartMs ip with
  | none =>
    have hsame : ¬ 60000 ≤ saturatingSub now now := by
      rw [hwindow, Nat.sub_self]
      exact limits.window_pos.not_ge
    simp [hsame, source, hstart]
  | some start =>
    by_cases hover : limits.window ≤ now.toNat - start.toNat
    · simp [hwindow, hover, source, hstart]
    · simp [hwindow, hover, source, hstart]

theorem source_count {limiter : RateLimiter Ip} {state : Throttle.State} {ip : Ip} {now : UInt64}
    (hstate : limiter.source ip = { state with bannedUntil := 0 })
    (hfree : ¬ state.Banned now.toNat) (hcount : state.count ≤ 21)
    (hnow : now.toNat + 300000 < 2 ^ 64) :
    (limiter.count ip now).1 = (limits.allow state now.toNat).1 ∧
      (limiter.count ip now).2.source ip = (limits.allow state now.toNat).2 := by
  have hopened := limiter.source_openWindow ip now
  rw [hstate, limits.current_ban] at hopened
  obtain ⟨hstart, hcounted, hbanned⟩ := Throttle.State.ext_iff.mp hopened
  generalize hL : limiter.openWindow ip now = opened at hstart hcounted hbanned
  have hcurrent := (limits.current_snd_le state now.toNat).trans hcount
  have hc : ((opened.counts ip).getD 0 + 1).toNat = (limits.current state now.toNat).2 + 1 := by
    rw [← show _ = (limits.current state now.toNat).2 from hcounted] at hcurrent ⊢
    rw [UInt32.toNat_add]
    exact Nat.mod_eq_of_lt (Nat.lt_of_le_of_lt (Nat.succ_le_succ hcurrent) (by decide))
  have hover : rateLimitPerMin < (opened.counts ip).getD 0 + 1 ↔
      limits.limit ≤ (limits.current state now.toNat).2 := by
    rw [UInt32.lt_iff_toNat_lt, hc]
    exact Nat.lt_succ_iff
  unfold count
  rw [hL]
  dsimp only
  by_cases hfull : limits.limit ≤ (limits.current state now.toNat).2
  · rw [limits.allow_refused hfree hfull, if_pos (hover.mpr hfull)]
    refine ⟨rfl, Throttle.State.ext hstart ?_ ?_⟩
    · simp only [source, Function.update_self, Option.getD_some]
      exact hc
    · exact (source_bannedUntil _ ip _).trans (toNat_add_ban hnow)
  · rw [limits.allow_granted hfree (not_le.mp hfull), if_neg (hover.not.mpr hfull)]
    refine ⟨rfl, Throttle.State.ext hstart ?_ hbanned⟩
    simp only [source, Function.update_self, Option.getD_some]
    exact hc

/-- At an address whose counter does not overflow, the limiter is the throttle. -/
theorem source_allow {limiter : RateLimiter Ip} {ip : Ip} {now : UInt64}
    (hcount : (limiter.source ip).count ≤ 21) (hnow : now.toNat + 300000 < 2 ^ 64) :
    (limiter.allow ip now).1 = (limits.allow (limiter.source ip) now.toNat).1 ∧
      (limiter.allow ip now).2.source ip = (limits.allow (limiter.source ip) now.toNat).2 := by
  by_cases hbanned : (limiter.source ip).Banned now.toNat
  · rw [allow_of_banned hbanned, limits.allow_banned hbanned]
    exact ⟨rfl, rfl⟩
  · rw [allow_of_free hbanned]
    exact source_count (by simp [source]) hbanned hcount hnow

/-! ## Runs -/

/-- The times of the attempts of an address. -/
def times (ip : Ip) (attempts : List (Attempt Ip)) : List ℕ :=
  (attempts.filter fun attempt ↦ attempt.ip = ip).map fun attempt ↦ attempt.now.toNat

/-- The times of the attempts of an address that were allowed. -/
def allowedTimes (limiter : RateLimiter Ip) (ip : Ip) (attempts : List (Attempt Ip)) : List ℕ :=
  ((limiter.decisions attempts).filter fun decision ↦ decision.1.ip = ip ∧ decision.2).map
    fun decision ↦ decision.1.now.toNat

theorem times_cons (ip : Ip) (attempt : Attempt Ip) (attempts : List (Attempt Ip)) :
    times ip (attempt :: attempts) =
      (if attempt.ip = ip then [attempt.now.toNat] else []) ++ times ip attempts := by
  by_cases hip : attempt.ip = ip <;> simp [times, hip]

theorem allowedTimes_cons (limiter : RateLimiter Ip) (ip : Ip) (attempt : Attempt Ip)
    (attempts : List (Attempt Ip)) :
    limiter.allowedTimes ip (attempt :: attempts) =
      (if attempt.ip = ip ∧ (limiter.allow attempt.ip attempt.now).1 then [attempt.now.toNat]
        else []) ++ (limiter.allow attempt.ip attempt.now).2.allowedTimes ip attempts := by
  unfold allowedTimes
  rw [decisions, List.filter_cons]
  simp only [decide_eq_true_eq]
  split_ifs <;> rfl

theorem decisions_map_fst (limiter : RateLimiter Ip) (attempts : List (Attempt Ip)) :
    (limiter.decisions attempts).map Prod.fst = attempts := by
  induction attempts generalizing limiter with
  | nil => rfl
  | cons attempt attempts ih => rw [decisions, List.map_cons, ih]

theorem times_of_forall {ip : Ip} {attempts : List (Attempt Ip)}
    (hone : ∀ attempt ∈ attempts, attempt.ip = ip) :
    times ip attempts = attempts.map fun attempt ↦ attempt.now.toNat := by
  rw [times, List.filter_eq_self.mpr fun attempt hmem ↦ decide_eq_true (hone attempt hmem)]

/-- An address is allowed all its attempts exactly if no decision refuses one. -/
theorem allowedTimes_eq_iff {ip : Ip} {attempts : List (Attempt Ip)}
    (hone : ∀ attempt ∈ attempts, attempt.ip = ip) (limiter : RateLimiter Ip) :
    limiter.allowedTimes ip attempts = times ip attempts ↔
      ∀ decision ∈ limiter.decisions attempts, decision.2 = true := by
  have hfst := limiter.decisions_map_fst attempts
  have hip (decision : Attempt Ip × Bool) (hmem : decision ∈ limiter.decisions attempts) :
      decision.1.ip = ip := by
    apply hone
    rw [← hfst]
    exact List.mem_map_of_mem hmem
  rw [times_of_forall hone]
  constructor
  · intro hall decision hmem
    have hlength := congrArg List.length hall
    rw [allowedTimes, List.length_map, List.length_map] at hlength
    nth_rewrite 2 [← hfst] at hlength
    rw [List.length_map, List.length_filter_eq_length_iff] at hlength
    exact (of_decide_eq_true (hlength decision hmem)).2
  · intro hall
    rw [allowedTimes, List.filter_eq_self.mpr fun decision hmem ↦
      decide_eq_true ⟨hip decision hmem, hall decision hmem⟩]
    nth_rewrite 2 [← hfst]
    rw [List.map_map]
    rfl

/-- The attempts come in the order of their times, which are not at the end of the clock. -/
structure Timed (attempts : List (Attempt Ip)) : Prop where
  sorted : attempts.Pairwise fun earlier later ↦ earlier.now ≤ later.now
  bounded : ∀ attempt ∈ attempts, attempt.now.toNat + 300000 < 2 ^ 64

omit [DecidableEq Ip] in
theorem Timed.tail {attempt : Attempt Ip} {attempts : List (Attempt Ip)}
    (h : Timed (attempt :: attempts)) : Timed attempts :=
  ⟨h.sorted.tail, fun later hmem ↦ h.bounded later (List.mem_cons_of_mem _ hmem)⟩

omit [DecidableEq Ip] in
theorem Timed.append_left {before after : List (Attempt Ip)} (h : Timed (before ++ after)) :
    Timed before :=
  ⟨(List.pairwise_append.mp h.sorted).1, fun earlier hmem ↦ h.bounded earlier
    (List.mem_append_left _ hmem)⟩

omit [DecidableEq Ip] in
theorem Timed.head_le {attempt : Attempt Ip} {attempts : List (Attempt Ip)}
    (h : Timed (attempt :: attempts)) :
    ∀ later ∈ attempts, attempt.now.toNat ≤ later.now.toNat :=
  fun later hmem ↦ UInt64.le_iff_toNat_le.mp ((List.pairwise_cons.mp h.sorted).1 later hmem)

/-- At an address the limiter runs as the throttle does. -/
theorem run_source {limiter : RateLimiter Ip} {ip : Ip} {log : List (ℕ × ℕ)} {earlier : ℕ}
    (haccounts : limits.Accounts (limiter.source ip) log earlier) {attempts : List (Attempt Ip)}
    (h : Timed attempts) (hearlier : ∀ attempt ∈ attempts, earlier ≤ attempt.now.toNat) :
    (limiter.after attempts).source ip = limits.after (limiter.source ip) (times ip attempts) ∧
      limiter.allowedTimes ip attempts = limits.granted (limiter.source ip) (times ip attempts) := by
  induction attempts generalizing limiter log earlier with
  | nil => exact ⟨rfl, rfl⟩
  | cons attempt attempts ih =>
    have hbound := h.bounded attempt List.mem_cons_self
    by_cases hip : attempt.ip = ip
    · subst hip
      obtain ⟨hallowed, hsource⟩ := source_allow haccounts.count_le hbound
      obtain ⟨grants, hstep, -⟩ := haccounts.allow (hearlier attempt List.mem_cons_self)
      rw [← hsource] at hstep
      obtain ⟨hafter, hgranted⟩ := ih hstep h.tail h.head_le
      rw [hsource] at hafter hgranted
      rw [times_cons, if_pos rfl, allowedTimes_cons, hgranted, hallowed]
      refine ⟨hafter, ?_⟩
      simp only [true_and, List.singleton_append, Throttle.granted]
    · have hsource := source_congr (limiter.allow_entry_other (Ne.symm hip) attempt.now)
      rw [← hsource] at haccounts ⊢
      obtain ⟨hafter, hgranted⟩ := ih haccounts h.tail fun later hmem ↦
        hearlier later (List.mem_cons_of_mem _ hmem)
      rw [times_cons, if_neg hip, allowedTimes_cons, if_neg (not_and_of_not_left _ hip)]
      exact ⟨hafter, hgranted⟩

/-- The end of a ban is that of the ban before, or of one the attempt has started. -/
theorem allow_bannedUntil {limiter : RateLimiter Ip} {ip : Ip} {now bannedUntil : UInt64}
    (h : (limiter.allow ip now).2.bannedUntilMs ip = some bannedUntil) :
    limiter.bannedUntilMs ip = some bannedUntil ∨
      bannedUntil = now + rateLimitBanMs ∧ (limiter.allow ip now).1 = false ∧
        ¬ (limiter.source ip).Banned now.toNat := by
  by_cases hbanned : (limiter.source ip).Banned now.toNat
  · rw [allow_of_banned hbanned] at h
    exact .inl h
  right
  rw [allow_of_free hbanned] at h ⊢
  generalize hfree : { limiter with
    bannedUntilMs := Function.update limiter.bannedUntilMs ip none } = free at h ⊢
  have hopened : (free.openWindow ip now).bannedUntilMs ip = none := by
    rw [← hfree, openWindow]
    dsimp only
    split_ifs <;> exact Function.update_self ..
  unfold count at h ⊢
  dsimp only at h ⊢
  split_ifs at h ⊢
  · have hend := (Function.update_self ..).symm.trans h
    exact ⟨(Option.some.inj hend).symm, rfl, hbanned⟩
  · cases hopened.symm.trans h

/-! ## What a run guarantees -/

/-- An attempt after some others is allowed. -/
def Allowed (before : List (Attempt Ip)) (attempt : Attempt Ip) : Prop :=
  ((default.after before).allow attempt.ip attempt.now).1 = true

/-- An attempt is refused although no ban runs. -/
def StartsBan (before : List (Attempt Ip)) (attempt : Attempt Ip) : Prop :=
  ¬ Allowed before attempt ∧ ∀ bannedUntil,
    (default.after before).bannedUntilMs attempt.ip = some bannedUntil → bannedUntil ≤ attempt.now

/-- An earlier attempt from the same address has started a ban that still runs. -/
def BanRuns (before : List (Attempt Ip)) (attempt : Attempt Ip) : Prop :=
  ∃ earlier ban later, before = earlier ++ ban :: later ∧ ban.ip = attempt.ip ∧
    StartsBan earlier ban ∧ attempt.now.toNat < ban.now.toNat + 300000

/-- Since the start of the current window, 20 attempts from the same address have been allowed. -/
def WindowFull (before : List (Attempt Ip)) (attempt : Attempt Ip) : Prop :=
  ∃ start, (default.after before).windowStartMs attempt.ip = some start ∧
    attempt.now.toNat < start.toNat + 60000 ∧
    ((default.allowedTimes attempt.ip before).countP fun time ↦ start.toNat ≤ time) = 20

/-- What the limiter guarantees an address in a run. -/
structure Fair (attempts : List (Attempt Ip)) (ip : Ip) : Prop where
  /-- The attempts from other addresses have no part in the decisions. -/
  own : (default.decisions attempts).filter (fun decision ↦ decision.1.ip = ip) =
    default.decisions (attempts.filter fun attempt ↦ attempt.ip = ip)
  sparse : ∀ a, ((default.allowedTimes ip attempts).countP fun time ↦
    a ≤ time ∧ time < a + 60000) ≤ 39
  justified : ∀ before attempt after, attempts = before ++ attempt :: after → attempt.ip = ip →
    ¬ Allowed before attempt → BanRuns before attempt ∨ WindowFull before attempt
  banned : ∀ before ban between attempt after,
    attempts = before ++ ban :: (between ++ attempt :: after) → ban.ip = ip → attempt.ip = ip →
    StartsBan before ban → attempt.now.toNat < ban.now.toNat + 300000 →
      ¬ Allowed (before ++ ban :: between) attempt
  released : ∀ before ban between attempt after,
    attempts = before ++ ban :: (between ++ attempt :: after) → ban.ip = ip → attempt.ip = ip →
    StartsBan before ban → ban.now.toNat + 300000 ≤ attempt.now.toNat →
    (∀ other ∈ between, other.ip = ip → other.now.toNat < ban.now.toNat + 300000) →
      Allowed (before ++ ban :: between) attempt
  counter : ∀ count, (default.after attempts).counts ip = some count → count ≤ 21

theorem after_append (limiter : RateLimiter Ip) (before after : List (Attempt Ip)) :
    limiter.after (before ++ after) = (limiter.after before).after after := List.foldl_append

theorem startsBan_iff {before : List (Attempt Ip)} {attempt : Attempt Ip} :
    StartsBan before attempt ↔
      ((default.after before).allow attempt.ip attempt.now).1 = false ∧
        ¬ ((default.after before).source attempt.ip).Banned attempt.now.toNat := by
  rw [StartsBan, Allowed, Bool.not_eq_true, banned_iff]
  simp only [not_exists, not_and, UInt64.not_lt]

/-- Every ban that is kept goes back to the attempt that has started it. -/
theorem bannedUntil_origin {before : List (Attempt Ip)} {ip : Ip} {bannedUntil : UInt64}
    (h : (default.after before).bannedUntilMs ip = some bannedUntil) :
    ∃ earlier ban later, before = earlier ++ ban :: later ∧ ban.ip = ip ∧ StartsBan earlier ban ∧
      bannedUntil = ban.now + rateLimitBanMs := by
  induction before using List.reverseRecOn with
  | nil => cases h
  | append_singleton before attempt ih =>
    have hkept (hbefore : (default.after before).bannedUntilMs ip = some bannedUntil) :
        ∃ earlier ban later, before ++ [attempt] = earlier ++ ban :: later ∧ ban.ip = ip ∧
          StartsBan earlier ban ∧ bannedUntil = ban.now + rateLimitBanMs := by
      obtain ⟨earlier, ban, later, rfl, hban⟩ := ih hbefore
      exact ⟨earlier, ban, later ++ [attempt], by simp, hban⟩
    rw [after_append] at h
    change ((default.after before).allow attempt.ip attempt.now).2.bannedUntilMs ip = _ at h
    by_cases hip : attempt.ip = ip
    · subst hip
      obtain hbefore | ⟨hend, hrefused, hfree⟩ := allow_bannedUntil h
      · exact hkept hbefore
      · exact ⟨before, attempt, [], rfl, rfl, startsBan_iff.mpr ⟨hrefused, hfree⟩, hend⟩
    · have hentry := (default.after before).allow_entry_other (Ne.symm hip) attempt.now
      rw [(entry_inj.mp hentry).2.2] at h
      exact hkept h

omit [DecidableEq Ip] in
theorem Timed.le {before after : List (Attempt Ip)} {attempt : Attempt Ip}
    (h : Timed (before ++ attempt :: after)) :
    ∀ earlier ∈ before, earlier.now.toNat ≤ attempt.now.toNat :=
  fun earlier hmem ↦ UInt64.le_iff_toNat_le.mp
    ((List.pairwise_append.mp h.sorted).2.2 earlier hmem attempt List.mem_cons_self)

theorem Timed.times_sorted {attempts : List (Attempt Ip)} (h : Timed attempts) (ip : Ip) :
    (times ip attempts).Pairwise (· ≤ ·) := by
  apply List.Pairwise.map _ _ (h.sorted.filter _)
  exact fun earlier later hle ↦ UInt64.le_iff_toNat_le.mp hle

/-- From the start on, an address is throttled by the times of its own attempts. -/
theorem Timed.run_default {attempts : List (Attempt Ip)} (h : Timed attempts) (ip : Ip) :
    (default.after attempts).source ip = limits.after Throttle.fresh (times ip attempts) ∧
      default.allowedTimes ip attempts = limits.granted Throttle.fresh (times ip attempts) := by
  have hfresh : limits.Accounts ((default : RateLimiter Ip).source ip) [] 0 :=
    Throttle.accounts_fresh 0
  exact run_source hfresh h fun _ _ ↦ Nat.zero_le _

/-- What the limiter keeps of an address accounts for what it has allowed it. -/
theorem accounts_after {attempts : List (Attempt Ip)} (h : Timed attempts) (ip : Ip) {last : ℕ}
    (hlast : ∀ attempt ∈ attempts, attempt.now.toNat ≤ last) :
    ∃ log, limits.Accounts ((default.after attempts).source ip) log last ∧
      log.map Prod.fst = default.allowedTimes ip attempts := by
  obtain ⟨hafter, hallowed⟩ := h.run_default ip
  have hbound : ∀ time ∈ times ip attempts, time ≤ last := by
    intro time hmem
    obtain ⟨attempt, hattempt, rfl⟩ := List.mem_map.mp hmem
    exact hlast attempt (List.mem_of_mem_filter hattempt)
  rw [hafter, hallowed]
  exact limits.accounts_after (h.times_sorted ip) hbound

theorem justified {before after : List (Attempt Ip)} {attempt : Attempt Ip}
    (h : Timed (before ++ attempt :: after)) (hrefused : ¬ Allowed before attempt) :
    BanRuns before attempt ∨ WindowFull before attempt := by
  have hbound := h.bounded attempt (List.mem_append_right _ List.mem_cons_self)
  obtain ⟨log, haccounts, hlog⟩ := accounts_after h.append_left attempt.ip h.le
  rw [Allowed, Bool.not_eq_true, (source_allow haccounts.count_le hbound).1] at hrefused
  by_cases hbanned : ((default.after before).source attempt.ip).Banned attempt.now.toNat
  · left
    obtain ⟨bannedUntil, huntil, hlt⟩ := banned_iff.mp hbanned
    obtain ⟨earlier, ban, later, rfl, hip, hstarts, rfl⟩ := bannedUntil_origin huntil
    refine ⟨earlier, ban, later, rfl, hip, hstarts, ?_⟩
    have hban := h.bounded ban (by simp)
    rw [UInt64.lt_iff_toNat_lt, toNat_add_ban hban] at hlt
    exact hlt
  · right
    have hfull := (limits.banned_or_full hrefused).resolve_left hbanned
    have hwindow := haccounts.current le_rfl hbanned
    obtain ⟨start, hstart, hsame⟩ := Option.map_eq_some_iff.mp (haccounts.start_of_full hfull)
    have hend := hwindow.lt_end
    have hlimit : limits.window = 60000 := rfl
    rw [← hsame, hlimit] at hend
    refine ⟨start, hstart, hend, ?_⟩
    rw [← hlog, List.countP_map, hsame]
    exact (hwindow.countP_since haccounts.spread).trans (le_antisymm hwindow.count_le hfull)

/-- Until its end a ban keeps the limiter as it is, and then the next attempt is allowed. -/
theorem ban_kept {before between after : List (Attempt Ip)} {ban : Attempt Ip}
    (h : Timed (before ++ ban :: (between ++ after))) (hstarts : StartsBan before ban)
    (hbetween : ∀ other ∈ between, other.ip = ban.ip →
      other.now.toNat < ban.now.toNat + 300000) :
    ((default.after (before ++ ban :: between)).source ban.ip).bannedUntil =
        ban.now.toNat + 300000 ∧
      ∀ later, ban.now.toNat + 300000 ≤ later → (limits.allow
        ((default.after (before ++ ban :: between)).source ban.ip) later).1 = true := by
  have hbound := h.bounded ban (by simp)
  obtain ⟨log, haccounts, -⟩ := accounts_after h.append_left ban.ip h.le
  obtain ⟨hrefused, hfree⟩ := startsBan_iff.mp hstarts
  obtain ⟨hallow, hsource⟩ := source_allow haccounts.count_le hbound
  obtain ⟨huntil, hreleased⟩ := haccounts.ban le_rfl hfree (hallow.symm.trans hrefused)
  have hlimit : limits.ban = 300000 := rfl
  rw [← hsource, hlimit] at huntil hreleased
  have hstep (limiter : RateLimiter Ip) (other : Attempt Ip) (hmem : other ∈ between)
      (hsame : limiter.source ban.ip =
        ((default.after before).allow ban.ip ban.now).2.source ban.ip) :
      (limiter.allow other.ip other.now).2.source ban.ip =
        ((default.after before).allow ban.ip ban.now).2.source ban.ip := by
    by_cases hip : other.ip = ban.ip
    · have hbanned : (limiter.source other.ip).Banned other.now.toNat := by
        rw [hip, hsame, Throttle.State.Banned, huntil]
        exact hbetween other hmem hip
      rw [allow_of_banned hbanned]
      exact hsame
    · exact (source_congr (limiter.allow_entry_other (Ne.symm hip) other.now)).trans hsame
  have hkept : ((default.after (before ++ ban :: between)).source ban.ip) =
      ((default.after before).allow ban.ip ban.now).2.source ban.ip := by
    rw [after_append]
    exact foldl_invariant (P := fun limiter : RateLimiter Ip ↦ limiter.source ban.ip =
      ((default.after before).allow ban.ip ban.now).2.source ban.ip) hstep rfl
  rw [hkept]
  exact ⟨huntil, hreleased⟩

/-- The limiter is fair to every address: whatever calls of other addresses come in between, its own
are decided alone, at most 39 of them are allowed in any minute, refusals and bans have their reasons
and their ends, and the counter stays small. -/
theorem rate_limiter_fair {attempts : List (Attempt Ip)} (h : Timed attempts) (ip : Ip) :
    Fair attempts ip where
  own := decisions_filter rfl attempts
  sparse := by
    intro a
    rw [(h.run_default ip).2]
    exact limits.granted_interval_le (h.times_sorted ip) a
  justified := by
    rintro before attempt after rfl rfl hrefused
    exact justified h hrefused
  banned := by
    rintro before ban between attempt after rfl hban rfl hstarts hlt hallowed
    have hsplit : Timed ((before ++ ban :: between) ++ attempt :: after) := by simpa using h
    obtain ⟨huntil, -⟩ := ban_kept h hstarts fun other hmem _ ↦
      (hsplit.le other (by simp [hmem])).trans_lt hlt
    rw [hban] at huntil
    rw [Allowed, allow_of_banned] at hallowed
    · cases hallowed
    · rw [Throttle.State.Banned, huntil]
      exact hlt
  released := by
    rintro before ban between attempt after rfl hban rfl hstarts hle hbetween
    have hsplit : Timed ((before ++ ban :: between) ++ attempt :: after) := by simpa using h
    obtain ⟨log, haccounts, -⟩ := accounts_after hsplit.append_left attempt.ip hsplit.le
    obtain ⟨-, hreleased⟩ := ban_kept h hstarts (by rwa [hban])
    rw [hban] at hreleased
    rw [Allowed, (source_allow haccounts.count_le (hsplit.bounded attempt (by simp))).1]
    exact hreleased _ hle
  counter := by
    intro count hcount
    obtain ⟨log, haccounts, -⟩ := accounts_after h ip (fun attempt _ ↦ attempt.now.toNat_lt.le)
    have hle := haccounts.count_le
    rw [source, hcount] at hle
    exact UInt32.le_iff_toNat_le.mpr hle

/-- One address connects 21 times at once, another once, and the first twice more. -/
def floods : List (Attempt ℕ) :=
  List.replicate 20 ⟨1, 1000⟩ ++ ⟨1, 1000⟩ :: ([⟨2, 1000⟩, ⟨1, 300999⟩] ++ [⟨1, 301000⟩])

theorem floods_timed : Timed floods := ⟨by decide, by decide⟩

/-- The flood is banned up to the last millisecond, and not the other address. -/
theorem rate_limiter_fair_floods :
    ¬ Allowed (List.replicate 20 ⟨1, 1000⟩ ++ ⟨1, 1000⟩ :: [⟨2, 1000⟩]) (⟨1, 300999⟩ : Attempt ℕ) ∧
      Allowed (List.replicate 20 ⟨1, 1000⟩ ++ ⟨1, 1000⟩ :: [⟨2, 1000⟩, ⟨1, 300999⟩])
        (⟨1, 301000⟩ : Attempt ℕ) ∧
      default.decisions (floods.filter fun attempt ↦ attempt.ip = 2) = [(⟨2, 1000⟩, true)] := by
  have hstarts : StartsBan (List.replicate 20 ⟨1, 1000⟩) (⟨1, 1000⟩ : Attempt ℕ) :=
    startsBan_iff.mpr (by decide +kernel)
  refine ⟨?_, ?_, ?_⟩
  · exact (rate_limiter_fair floods_timed 1).banned _ _ [⟨2, 1000⟩] ⟨1, 300999⟩ [⟨1, 301000⟩] rfl rfl
      rfl hstarts (by decide)
  · exact (rate_limiter_fair floods_timed 1).released _ _ [⟨2, 1000⟩, ⟨1, 300999⟩] ⟨1, 301000⟩ [] rfl
      rfl rfl hstarts (by decide) (by decide)
  · rw [← (rate_limiter_fair floods_timed 2).own]
    decide +kernel

end RateLimiter

end AirClip
