import AirClip.Foundation.Runs
import AirClip.Phone.Handle

/-!
# The hosts of a pairing

A confirmed pairing adds the addresses of its code to the hints.  The exchange and its addresses are
kept in two fields of the handle: the addresses are taken from every code that can be read, the exchange
only from a pairing that gets as far as the emoji.  A failed attempt while an earlier exchange waits for
its confirmation leaves the two apart.
-/

open Foundation

namespace AirClip

section PendingHosts

variable [Primitives] [NetAddresses] [Ciborium] [TextCodecs] [DebugText]

/-! ## What a pairing that got to the emoji holds -/

/-- The record an exchange over this code leads to. -/
def QrPayload.recordAt (qr : QrPayload) (nowMs : UInt64) : PairingRecord :=
  .new qr.deviceId qr.publicKey qr.displayName nowMs

namespace PhonePairing

omit [NetAddresses] [DebugText] in
theorem qr_perform (pairing : PhonePairing) (call : Call) :
    (pairing.perform call).1.qr = pairing.qr := by
  have hresponse := pairing.perform_cases call
  generalize pairing.perform call = result at hresponse
  cases hresponse <;> rfl

omit [NetAddresses] [DebugText] in
theorem confirmSas_record {pairing : PhonePairing} {nowMs : UInt64} {frame : Frame}
    {record : PairingRecord}
    (h : (pairing.confirmSas nowMs).2 = [.send frame, .completed record]) :
    record = pairing.qr.recordAt nowMs := by
  have hresponse : pairing.Response (.confirmSas nowMs) (pairing.confirmSas nowMs) :=
    pairing.perform_cases (.confirmSas nowMs)
  generalize pairing.confirmSas nowMs = result at hresponse h
  cases hresponse with
  | refused => cases h
  | confirmed =>
    cases h
    rfl

end PhonePairing

/-- The record and the confirmation of a pending exchange are made for its code. -/
theorem beginPairing_eq_ok {identity : IdentityKeypair} {displayName : String} {qr : QrPayload}
    {network : PairingEnvironment} {pending : PendingPairing}
    (h : beginPairing identity displayName qr network = .ok pending) :
    pending.record = qr.recordAt network.nowMs ∧ pending.confirmFrame ≠ none := by
  unfold beginPairing at h
  split at h
  · cases h
  split at h
  · cases h
  next fsm req hstart =>
  split at h
  · cases h
  split at h
  · cases h
  next ack hack =>
  split_ifs at h
  split at h
  · next fsm' sas hshown =>
    split at h
    · next frame record hconfirm =>
      cases h
      have hqr : fsm'.qr = qr := by
        have hkept : (fsm.onFrame ack).1.qr = fsm.qr := fsm.qr_perform (.onFrame ack)
        rw [← (PhoneExchange.start_accounted hstart).qr_eq, ← hkept, hshown]
      rw [PhonePairing.confirmSas_record hconfirm, hqr]
      exact ⟨rfl, Option.some_ne_none frame⟩
    · cases h
  · cases h
  · cases h

omit [Primitives] [NetAddresses] [Ciborium] [TextCodecs] [DebugText] in
theorem PendingPairing.confirm_eq_ok {pending : PendingPairing} {sent : Except String Unit}
    {record : PairingRecord} : pending.confirm sent = .ok record ↔
      pending.confirmFrame ≠ none ∧ sent = .ok () ∧ record = pending.record := by
  unfold PendingPairing.confirm
  split
  · next hframe => simp [hframe]
  · next hframe =>
    rw [hframe]
    split <;> simp [eq_comm]

/-! ## The codes behind the two fields -/

variable [SerdeJson]

/-- A handle, with the code its pending exchange was obtained from, and the code that was read last
since a pairing has been confirmed or cancelled. -/
structure Tracked where
  core : CoreState
  origin : Option QrPayload
  scanned : Option QrPayload

namespace Tracked

def opened (identity : IdentityKeypair) (stored : List PairingRecord) : Tracked :=
  ⟨.opened identity stored, none, none⟩

def perform (tracked : Tracked) : CoreState.Call → Tracked
  | .startPairing qrUrl displayName network =>
    let outcome := tracked.core.startPairing qrUrl displayName network
    let read := (QrPayload.parse qrUrl).toOption
    { core := outcome.state
      origin := if outcome.result.isOk then read else tracked.origin
      scanned := read.or tracked.scanned }
  | .confirmSas sent =>
    let outcome := tracked.core.confirmSas sent
    { core := outcome.state
      origin := none
      scanned := if outcome.result.isOk then none else tracked.scanned }
  | .cancelPairing => ⟨tracked.core.cancelPairing, none, none⟩
  | call => { tracked with core := tracked.core.perform call }

/-- The tracked handle goes through the states of the handle. -/
theorem core_perform (tracked : Tracked) (call : CoreState.Call) :
    (tracked.perform call).core = tracked.core.perform call := by
  cases call <;> rfl

/-- The two fields hold what the codes say. -/
structure Linked (tracked : Tracked) : Prop where
  hosts : tracked.core.pendingHosts =
    (tracked.scanned.map fun qr ↦ resolveHosts qr.hosts).getD []
  idle : tracked.core.pending = none → tracked.origin = none
  pending : ∀ pending, tracked.core.pending = some pending → ∃ qr last nowMs,
    tracked.origin = some qr ∧ tracked.scanned = some last ∧
      pending.record = qr.recordAt nowMs ∧ pending.confirmFrame ≠ none

omit [Ciborium] [DebugText] [SerdeJson] in
theorem opened_linked (identity : IdentityKeypair) (stored : List PairingRecord) :
    (opened identity stored).Linked :=
  ⟨rfl, fun _ ↦ rfl, fun _ h ↦ nomatch h⟩

section StartPairing

variable {tracked : Tracked} {qrUrl displayName : String} {network : PairingEnvironment} {qr : QrPayload}

/-- A code that cannot be read changes nothing. -/
theorem perform_unread {failure : Error} (hread : QrPayload.parse qrUrl = .error failure) :
    tracked.perform (.startPairing qrUrl displayName network) = tracked := by
  simp only [perform, CoreState.startPairing, hread]
  rfl

/-- A pairing that fails behind its code leaves the addresses of the code. -/
theorem perform_failed {failure : ClientError} (hread : QrPayload.parse qrUrl = .ok qr)
    (hbegin : beginPairing tracked.core.identity displayName qr network = .error failure) :
    tracked.perform (.startPairing qrUrl displayName network) =
      ⟨{ tracked.core with pendingHosts := resolveHosts qr.hosts }, tracked.origin, some qr⟩ := by
  simp only [perform, CoreState.startPairing, hread, hbegin]
  rfl

theorem perform_begun {pending : PendingPairing} (hread : QrPayload.parse qrUrl = .ok qr)
    (hbegin : beginPairing tracked.core.identity displayName qr network = .ok pending) :
    tracked.perform (.startPairing qrUrl displayName network) =
      ⟨{ tracked.core with pending := some pending, pendingHosts := resolveHosts qr.hosts }, some qr,
        some qr⟩ := by
  simp only [perform, CoreState.startPairing, hread, hbegin]
  rfl

theorem Linked.startPairing (h : tracked.Linked) :
    (tracked.perform (.startPairing qrUrl displayName network)).Linked := by
  cases hread : QrPayload.parse qrUrl with
  | error failure => rwa [perform_unread hread]
  | ok qr =>
    cases hbegin : beginPairing tracked.core.identity displayName qr network with
    | error failure =>
      rw [perform_failed hread hbegin]
      refine ⟨rfl, h.idle, ?_⟩
      intro pending hpending
      obtain ⟨origin, -, nowMs, horigin, -, hrecord, hframe⟩ := h.pending pending hpending
      exact ⟨origin, qr, nowMs, horigin, rfl, hrecord, hframe⟩
    | ok begun =>
      rw [perform_begun hread hbegin]
      refine ⟨rfl, fun hnone ↦ (nomatch hnone), ?_⟩
      rintro pending ⟨⟩
      obtain ⟨hrecord, hframe⟩ := beginPairing_eq_ok hbegin
      exact ⟨qr, qr, network.nowMs, rfl, rfl, hrecord, hframe⟩

end StartPairing

section ConfirmSas

variable {tracked : Tracked} {sent : Except String Unit} {pending : PendingPairing}

theorem perform_nothing (hpending : tracked.core.pending = none) :
    tracked.perform (.confirmSas sent) = { tracked with origin := none } := by
  simp only [perform, CoreState.confirmSas, hpending]
  rfl

/-- A confirmation that cannot be sent ends the exchange and keeps the addresses. -/
theorem perform_unsent {failure : ClientError} (hpending : tracked.core.pending = some pending)
    (hsent : pending.confirm sent = .error failure) :
    tracked.perform (.confirmSas sent) =
      ⟨{ tracked.core with pending := none }, none, tracked.scanned⟩ := by
  simp only [perform, CoreState.confirmSas, hpending, hsent]
  rfl

theorem perform_confirmed {record : PairingRecord} (hpending : tracked.core.pending = some pending)
    (hsent : pending.confirm sent = .ok record) :
    tracked.perform (.confirmSas sent) =
      ⟨{ tracked.core with
          peers := tracked.core.peers.filter (fun peer ↦ peer.deviceId ≠ record.deviceId) ++ [record]
          hints := addHints tracked.core.hints tracked.core.pendingHosts
          pending := none
          pendingHosts := [] }, none, none⟩ := by
  simp only [perform, CoreState.confirmSas, hpending, hsent]
  rfl

theorem Linked.confirmSas (h : tracked.Linked) : (tracked.perform (.confirmSas sent)).Linked := by
  cases hpending : tracked.core.pending with
  | none =>
    rw [perform_nothing hpending]
    exact ⟨h.hosts, fun _ ↦ rfl, fun pending hsome ↦ nomatch hpending.symm.trans hsome⟩
  | some pending =>
    cases hsent : pending.confirm sent with
    | error failure =>
      rw [perform_unsent hpending hsent]
      exact ⟨h.hosts, fun _ ↦ rfl, fun _ hsome ↦ nomatch hsome⟩
    | ok record =>
      rw [perform_confirmed hpending hsent]
      exact ⟨rfl, fun _ ↦ rfl, fun _ hsome ↦ nomatch hsome⟩

end ConfirmSas

/-- Every call keeps the fields in line with the codes. -/
theorem Linked.perform {tracked : Tracked} (h : tracked.Linked) (call : CoreState.Call) :
    (tracked.perform call).Linked := by
  cases call with
  | startPairing qrUrl displayName network => exact h.startPairing
  | confirmSas sent => exact h.confirmSas
  | cancelPairing => exact ⟨rfl, fun _ ↦ rfl, fun _ hsome ↦ nomatch hsome⟩
  | forgetPeer | clearPeerHints => exact ⟨h.hosts, h.idle, h.pending⟩
  | addPeerHint host port =>
    unfold Tracked.perform CoreState.perform CoreState.addPeerHint
    dsimp only
    split <;> exact ⟨h.hosts, h.idle, h.pending⟩

/-! ## What a confirmation promotes -/

section Promotion

variable {tracked : Tracked} {sent : Except String Unit}

/-- A confirmation that succeeds stores a record obtained from a code, and adds the hosts of that code
to the hints and nothing else. -/
def PromotesOwn (tracked : Tracked) (sent : Except String Unit) : Prop :=
  (tracked.core.confirmSas sent).result = .ok () →
    ∃ qr nowMs, tracked.origin = some qr ∧
      qr.recordAt nowMs ∈ (tracked.core.confirmSas sent).state.peers ∧
      ∀ addr, addr ∈ (tracked.core.confirmSas sent).state.hints ↔
        addr ∈ tracked.core.hints ∨ addr ∈ resolveHosts qr.hosts

/-- The code read last has the hosts of the code the exchange was obtained from, apart from hosts that
are known already. -/
def SameHosts (tracked : Tracked) : Prop :=
  ∀ qr last, tracked.origin = some qr → tracked.scanned = some last →
    ∀ addr, addr ∉ tracked.core.hints →
      (addr ∈ resolveHosts last.hosts ↔ addr ∈ resolveHosts qr.hosts)

omit [Ciborium] [TextCodecs] [DebugText] in
/-- A confirmation succeeds exactly if an exchange is pending and its confirmation is sent. -/
theorem confirmSas_eq_ok : (tracked.core.confirmSas sent).result = .ok () ↔
    ∃ pending record, tracked.core.pending = some pending ∧ pending.confirm sent = .ok record := by
  unfold CoreState.confirmSas
  split
  · next hnone => simp [hnone]
  · next pending hpending =>
    dsimp only
    split
    · next hsent => simp [hpending, hsent]
    · next record hsent => simp [hpending, hsent]

theorem confirmSas_state {pending : PendingPairing} {record : PairingRecord}
    (hpending : tracked.core.pending = some pending) (hsent : pending.confirm sent = .ok record) :
    record ∈ (tracked.core.confirmSas sent).state.peers ∧
      (tracked.core.confirmSas sent).state.hints =
        addHints tracked.core.hints tracked.core.pendingHosts := by
  have hstate : (tracked.core.confirmSas sent).state = (tracked.perform (.confirmSas sent)).core := rfl
  rw [hstate, perform_confirmed hpending hsent]
  exact ⟨List.mem_append_right _ (List.mem_singleton_self record), rfl⟩

/-- A confirmation promotes the hosts of the code read last. -/
theorem Linked.promotesOwn_iff (h : tracked.Linked) :
    tracked.PromotesOwn sent ↔ (sent = .ok () → tracked.SameHosts) := by
  cases hpending : tracked.core.pending with
  | none =>
    refine iff_of_true ?_ ?_
    · intro hok
      obtain ⟨pending, -, hsome, -⟩ := confirmSas_eq_ok.mp hok
      exact nomatch hpending.symm.trans hsome
    · intro _ qr _ horigin
      exact nomatch (h.idle hpending).symm.trans horigin
  | some pending =>
    obtain ⟨qr, last, nowMs, horigin, hscanned, hrecord, hframe⟩ := h.pending pending hpending
    have hhosts : tracked.core.pendingHosts = resolveHosts last.hosts := by
      rw [h.hosts, hscanned]
      rfl
    have hsucceeds : (tracked.core.confirmSas sent).result = .ok () ↔ sent = .ok () := by
      rw [confirmSas_eq_ok, hpending]
      constructor
      · rintro ⟨_, record, ⟨⟩, hsent⟩
        exact (PendingPairing.confirm_eq_ok.mp hsent).2.1
      · intro hsent
        exact ⟨pending, pending.record, rfl, PendingPairing.confirm_eq_ok.mpr ⟨hframe, hsent, rfl⟩⟩
    unfold PromotesOwn
    rw [hsucceeds]
    refine forall_congr' fun hsent ↦ ?_
    have hconfirm : pending.confirm sent = .ok pending.record :=
      PendingPairing.confirm_eq_ok.mpr ⟨hframe, hsent, rfl⟩
    obtain ⟨hpeers, hhints⟩ := confirmSas_state hpending hconfirm
    constructor
    · rintro ⟨own, _, hown, -, hpromoted⟩ qr' last' horigin' hscanned' addr hnew
      cases hown.symm.trans horigin'
      cases hscanned.symm.trans hscanned'
      have hiff := hpromoted addr
      rw [hhints, hhosts, mem_addHints] at hiff
      simpa [hnew] using hiff
    · intro hsame
      refine ⟨qr, nowMs, horigin, hrecord ▸ hpeers, ?_⟩
      intro addr
      rw [hhints, hhosts, mem_addHints]
      by_cases hknown : addr ∈ tracked.core.hints
      · simp [hknown]
      · simp only [hknown, false_or]
        exact hsame qr last horigin hscanned addr hknown

end Promotion

/-- In every run, every confirmation promotes the addresses of its own code exactly if at every
confirmation the code read last has the hosts of the code of the exchange. -/
theorem confirmation_promotes_own_iff (identity : IdentityKeypair) (stored : List PairingRecord)
    (calls : List CoreState.Call) :
    EveryStep perform (fun tracked call ↦ ∀ sent, call = .confirmSas sent → tracked.PromotesOwn sent)
        (opened identity stored) calls ↔
      EveryStep perform (fun tracked call ↦ call = .confirmSas (.ok ()) → tracked.SameHosts)
        (opened identity stored) calls := by
  apply EveryStep.congr (Q := Linked) _ _ (opened_linked identity stored)
  · intro tracked call _ h
    exact h.perform call
  · intro tracked call h
    constructor
    · rintro hown rfl
      exact h.promotesOwn_iff.mp (hown _ rfl) rfl
    · rintro hsame sent rfl
      apply h.promotesOwn_iff.mpr
      rintro rfl
      exact hsame rfl

end Tracked

end PendingHosts

namespace Reference

/-- The code of a second computer. -/
def laptopPairing : PcPairing :=
  .withToken devices.pc "Laptop" ["192.168.4.77:49517"] devices.token 2000

/-- The computer answers up to the emoji. -/
def answeredPairing : PairingEnvironment :=
  ⟨fun _ ↦ true, some devices.phoneSeed, .ok (), .ok pairAck, 3000⟩

/-- No address accepts a connection. -/
def unreachablePairing : PairingEnvironment := ⟨fun _ ↦ false, none, .ok (), .error .timedOut, 3000⟩

/-- A pairing waits for its confirmation, the code of another computer is tried in vain, and the first
pairing is confirmed. -/
def scannedTwice : List CoreState.Call :=
  [.startPairing pairing.qrUrl devices.phoneName answeredPairing,
    .startPairing laptopPairing.qrUrl devices.phoneName unreachablePairing, .confirmSas (.ok ())]

end Reference

open Reference in
/-- The confirmation of the first code promotes the address of the second. -/
theorem second_code_promoted_by_first :
    ¬ EveryStep Tracked.perform
      (fun tracked call ↦ ∀ sent, call = .confirmSas sent → tracked.PromotesOwn sent)
      (Tracked.opened devices.phone []) scannedTwice := by
  have hread : QrPayload.parse pairing.qrUrl = .ok pairing.qrPayload :=
    QrPayload.parse_toUrl rfl rfl (by decide)
  have hlaptop : QrPayload.parse laptopPairing.qrUrl = .ok laptopPairing.qrPayload :=
    QrPayload.parse_toUrl rfl rfl (by decide)
  obtain ⟨pending, hbegin⟩ : ∃ pending,
      beginPairing devices.phone devices.phoneName pairing.qrPayload answeredPairing = .ok pending := by
    have hok : (beginPairing devices.phone devices.phoneName pairing.qrPayload answeredPairing).isOk := by
      decide +kernel
    cases hbegin : beginPairing devices.phone devices.phoneName pairing.qrPayload answeredPairing with
    | ok pending => exact ⟨pending, rfl⟩
    | error failure => rw [hbegin] at hok; cases hok
  have hfailed : beginPairing devices.phone devices.phoneName laptopPairing.qrPayload
      unreachablePairing = .error .unreachable := rfl
  rintro ⟨-, -, hpromotes, -⟩
  rw [Tracked.perform_begun hread hbegin, Tracked.perform_failed hlaptop hfailed] at hpromotes
  have hlinked : Tracked.Linked
      ⟨⟨devices.phone, [], [], some pending, resolveHosts laptopPairing.qrPayload.hosts⟩,
        some pairing.qrPayload, some laptopPairing.qrPayload⟩ := by
    refine ⟨rfl, fun hnone ↦ (nomatch hnone), ?_⟩
    rintro _ ⟨⟩
    obtain ⟨hrecord, hframe⟩ := beginPairing_eq_ok hbegin
    exact ⟨_, _, _, rfl, rfl, hrecord, hframe⟩
  have hsame := hlinked.promotesOwn_iff.mp (hpromotes _ rfl) rfl _ _ rfl rfl
    ([192, 168, 4, 77], 49517) List.not_mem_nil
  revert hsame
  decide +kernel

end AirClip
