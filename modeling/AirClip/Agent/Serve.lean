import AirClip.Agent.RateLimiter
import AirClip.Agent.SessionServer

/-!
# The accept loop

`serve` asks the rate limiter about every connection before anything is read from it, so that the
connections of a paired device count like those of any other peer.  They are all served exactly if they
come in windows of no more than the limit.
-/

open Foundation

namespace AirClip

section Serve

variable [Primitives] [Ciborium]

/-- A connection as the listener accepts it, with what its task comes across: the frame it opens with,
if one arrives, the records the agent keeps, the pause flag, the clock and the random draw. -/
structure Connection (Ip : Type) where
  attempt : Attempt Ip
  first : Option Frame
  peerKeys : List PeerKey
  openedMs : UInt64
  paused : Bool
  nowMs : UInt64
  seed : Option Key32

/-- What becomes of a connection. -/
inductive Outcome where
  | dropped
  /-- Closed before or because of its first frame. -/
  | closed
  | pairing (task : Task)
  | session (task : SessionTask)

/-- Either a pairing exchange or a session, decided by the first frame. -/
def handleConnection {Ip : Type} (identity : IdentityKeypair) (connection : Connection Ip) : Outcome :=
  match connection.first with
  | none => .closed
  | some first =>
    match first.ty with
    | .pairReq => .pairing (.handed first)
    | .hello => .session ((SessionTask.start identity connection.peerKeys connection.openedMs
        connection.paused first).onFrame first connection.paused connection.nowMs connection.seed)
    | _ => .closed

/-- The HELLO of a paired device has opened a session. -/
def Outcome.authenticated : Outcome → Bool
  | .session task => task.session.state = .established
  | _ => false

variable {Ip : Type} [DecidableEq Ip]

/-- Every accepted connection with what becomes of it. -/
def serve (identity : IdentityKeypair) (limiter : RateLimiter Ip) :
    List (Connection Ip) → List (Connection Ip × Outcome)
  | [] => []
  | connection :: connections =>
    let (allowed, limiter) := limiter.allow connection.attempt.ip connection.attempt.now
    (connection, if allowed then handleConnection identity connection else .dropped) ::
      serve identity limiter connections

omit [DecidableEq Ip] in
theorem handleConnection_ne_dropped (identity : IdentityKeypair) (connection : Connection Ip) :
    handleConnection identity connection ≠ .dropped := by
  unfold handleConnection
  split
  · exact nofun
  · split <;> exact nofun

/-- A connection is dropped or handled. -/
theorem mem_serve {identity : IdentityKeypair} {limiter : RateLimiter Ip}
    {connections : List (Connection Ip)} {served : Connection Ip × Outcome}
    (h : served ∈ serve identity limiter connections) : served.1 ∈ connections ∧
      (served.2 = .dropped ∨ served.2 = handleConnection identity served.1) := by
  induction connections generalizing limiter with
  | nil => cases h
  | cons connection connections ih =>
    rw [serve] at h
    obtain rfl | hlater := List.mem_cons.mp h
    · refine ⟨List.mem_cons_self, ?_⟩
      dsimp only
      split_ifs
      · exact .inr rfl
      · exact .inl rfl
    · exact ⟨List.mem_cons_of_mem _ (ih hlater).1, (ih hlater).2⟩

/-- `serve` drops a connection exactly if the limiter refuses it. -/
theorem serve_ne_dropped_iff (identity : IdentityKeypair) (limiter : RateLimiter Ip)
    (connections : List (Connection Ip)) :
    (∀ served ∈ serve identity limiter connections, served.2 ≠ .dropped) ↔
      ∀ decision ∈ limiter.decisions (connections.map Connection.attempt), decision.2 = true := by
  induction connections generalizing limiter with
  | nil => simp [serve, RateLimiter.decisions]
  | cons connection connections ih =>
    rw [serve, List.map_cons, RateLimiter.decisions, List.forall_mem_cons, List.forall_mem_cons, ih]
    apply and_congr_left
    intro _
    cases (limiter.allow connection.attempt.ip connection.attempt.now).1 with
    | false => simp
    | true => simpa using handleConnection_ne_dropped identity connection

/-- The connections of an address are served exactly if they come in small windows. -/
theorem served_iff {connections : List (Connection Ip)} {ip : Ip}
    (htimed : RateLimiter.Timed (connections.map Connection.attempt))
    (hone : ∀ connection ∈ connections, connection.attempt.ip = ip) (identity : IdentityKeypair) :
    (∀ served ∈ serve identity .default connections, served.2 ≠ .dropped) ↔
      ∀ window ∈ Throttle.windows 60000 (connections.map fun connection ↦
        connection.attempt.now.toNat), window.length ≤ 20 := by
  have hattempts : ∀ attempt ∈ connections.map Connection.attempt, attempt.ip = ip :=
    List.forall_mem_map.mpr hone
  have hgranted := (htimed.run_default ip).2
  have hmap : (connections.map Connection.attempt).map (fun attempt ↦ attempt.now.toNat) =
      connections.map fun connection ↦ connection.attempt.now.toNat := List.map_map
  calc
    _ ↔ _ := serve_ne_dropped_iff identity .default connections
    _ ↔ _ := (RateLimiter.allowedTimes_eq_iff hattempts .default).symm
    _ ↔ RateLimiter.limits.granted Throttle.fresh
          (RateLimiter.times ip (connections.map Connection.attempt)) =
        RateLimiter.times ip (connections.map Connection.attempt) := by
      rw [hgranted]
    _ ↔ _ := by
      rw [RateLimiter.limits.granted_eq_iff, RateLimiter.times_of_forall hattempts, hmap]
      exact Iff.rfl

/-- Where every connection that is served is authenticated, all of them are exactly if no window of
their times holds more than 20, authenticated as they are. -/
theorem authenticated_served_iff {connections : List (Connection Ip)} {ip : Ip}
    (htimed : RateLimiter.Timed (connections.map Connection.attempt))
    (hone : ∀ connection ∈ connections, connection.attempt.ip = ip) {identity : IdentityKeypair}
    (hauthenticated : ∀ served ∈ serve identity .default connections,
      served.2 ≠ .dropped → served.2.authenticated) :
    (∀ served ∈ serve identity .default connections,
      served.2 ≠ .dropped ∧ served.2.authenticated) ↔
      ∀ window ∈ Throttle.windows 60000 (connections.map fun connection ↦
        connection.attempt.now.toNat), window.length ≤ 20 := by
  rw [← served_iff htimed hone identity]
  apply forall₂_congr
  intro served hmem
  exact and_iff_left_of_imp (hauthenticated served hmem)

end Serve

namespace Reference

/-- The phone connects anew for an operation, at some second. -/
def visit (second : ℕ) : Connection Unit :=
  let nowMs := UInt64.ofNat (1000 * second)
  { attempt := ⟨(), nowMs⟩
    first := (Session.startPhone phoneIdentity pcPeer nowMs
      (some (pad 32 [UInt8.ofNat (second + 1)]))).toOption.map Prod.snd
    peerKeys := [phonePeer]
    openedMs := nowMs
    paused := false
    nowMs := nowMs
    seed := some (pad 32 [11]) }

def visits (count : ℕ) : List (Connection Unit) := (List.range count).map visit

theorem visit_authenticated :
    ∀ second < 21, (handleConnection pcIdentity (visit second)).authenticated := by
  decide +kernel

theorem visits_authenticated {count : ℕ} (h : count ≤ 21) :
    ∀ served ∈ serve pcIdentity .default (visits count),
      served.2 ≠ .dropped → served.2.authenticated := by
  intro served hmem hserved
  obtain ⟨hvisit, houtcome⟩ := mem_serve hmem
  obtain ⟨second, hsecond, hsame⟩ := List.mem_map.mp hvisit
  rw [houtcome.resolve_left hserved, ← hsame]
  exact visit_authenticated second ((List.mem_range.mp hsecond).trans_le h)

end Reference

open Reference in
theorem authenticated_served_iff_twenty :
    (serve pcIdentity .default (visits 20)).length = 20 ∧
      ∀ served ∈ serve pcIdentity .default (visits 20),
        served.2 ≠ .dropped ∧ served.2.authenticated := by
  have htimed : RateLimiter.Timed ((visits 20).map Connection.attempt) :=
    ⟨by decide +kernel, by decide +kernel⟩
  refine ⟨by decide +kernel, ?_⟩
  apply (authenticated_served_iff htimed
    (fun connection _ ↦ Subsingleton.elim connection.attempt.ip ())
    (visits_authenticated (by decide))).mpr
  decide +kernel

open Reference in
/-- The 21st authenticated connection within a minute is dropped. -/
theorem authenticated_is_dropped : ¬ ∀ connections : List (Connection Unit),
    RateLimiter.Timed (connections.map Connection.attempt) →
    (∀ served ∈ serve pcIdentity .default connections,
      served.2 ≠ .dropped → served.2.authenticated) →
    ∀ served ∈ serve pcIdentity .default connections, served.2 ≠ .dropped := by
  intro hserved
  have hall := hserved (visits 21) ⟨by decide +kernel, by decide +kernel⟩
    (visits_authenticated (by decide))
  rw [serve_ne_dropped_iff] at hall
  revert hall
  decide +kernel

end AirClip
