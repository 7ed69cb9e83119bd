import AirClip.Core.Handshake

/-!
# Counters and nonces

The ciphertexts an endpoint hands to the transport, in order of production, are the payloads it
sealed under one key with the counters 0, 1, 2, ….  Every call that seals takes the next counter, a
call that fails takes none, and once the last counter is reached nothing is sealed any more.
-/

open Foundation

namespace AirClip

/-- The counter written in front of a ciphertext. -/
def counterOf (frame : Frame) : UInt64 := ofLe64 (frame.payload.take 8)

section Channel

variable [Primitives]

/-- Frames sealed in order under `key` with the counters 0, 1, 2, …, each with its plaintext. -/
inductive Sealed (key : Key32) : List (Frame × Bytes) → Prop
  | nil : Sealed key []
  | snoc {items : List (Frame × Bytes)} {ty : FrameType} {plain ct : Bytes}
      (hsealed : Sealed key items) (hencrypted : ty.isEncrypted)
      (hroom : items.length + 1 < 2 ^ 64)
      (hseal : Primitives.aeadEncrypt key (AeadChannel.nonceFor (UInt64.ofNat items.length)) plain
        (AeadChannel.aadFor ty) = some ct) :
      Sealed key (items ++ [(⟨ty, le64 (UInt64.ofNat items.length) ++ ct⟩, plain)])

omit [Primitives] in
theorem counterOf_append (ty : FrameType) (ctr : UInt64) (ct : Bytes) :
    counterOf ⟨ty, le64 ctr ++ ct⟩ = ctr := by
  rw [counterOf, List.take_left' (length_le64 _), ofLe64_le64]

namespace Sealed

variable {key : Key32} {items : List (Frame × Bytes)}

/-- The counters on the wire count up from zero without a gap. -/
theorem counters_eq_range (h : Sealed key items) :
    items.map (fun item ↦ (counterOf item.1).toNat) = List.range items.length := by
  induction h with
  | nil => rfl
  | @snoc items ty plain ct hsealed hencrypted hroom hseal ih =>
    rw [List.map_append, List.map_singleton, ih, counterOf_append, List.length_append,
      List.length_singleton, List.range_succ,
      UInt64.toNat_ofNat_of_lt' (show items.length < 2 ^ 64 by omega)]

/-- No frame is sealed twice. -/
theorem frames_nodup (h : Sealed key items) : (items.map Prod.fst).Nodup := by
  refine List.Nodup.of_map (fun frame ↦ (counterOf frame).toNat) ?_
  rw [List.map_map]
  exact h.counters_eq_range ▸ List.nodup_range

/-- Item number `n` was sealed with counter `n`. -/
theorem sealed_at (h : Sealed key items) {n : ℕ} {item : Frame × Bytes} (hitem : items[n]? = some item) :
    item.1.ty.isEncrypted ∧ n < 2 ^ 64 ∧ ∃ ct, item.1.payload = le64 (UInt64.ofNat n) ++ ct ∧
      Primitives.aeadEncrypt key (AeadChannel.nonceFor (UInt64.ofNat n)) item.2
        (AeadChannel.aadFor item.1.ty) = some ct := by
  induction h with
  | nil => simp at hitem
  | @snoc items ty plain ct hsealed hencrypted hroom hseal ih =>
    rw [List.getElem?_append] at hitem
    split at hitem
    · exact ih hitem
    · have hn : n = items.length := by
        obtain ⟨hlt, -⟩ := List.getElem?_eq_some_iff.mp hitem
        simp only [List.length_singleton] at hlt
        omega
      subst hn
      simp only [Nat.sub_self, List.getElem?_cons_zero, Option.some.injEq] at hitem
      subst hitem
      exact ⟨hencrypted, by omega, ct, rfl, hseal⟩

theorem payload_length (h : Sealed key items) {item : Frame × Bytes} (hitem : item ∈ items) :
    8 ≤ item.1.payload.length := by
  obtain ⟨n, hn⟩ := List.getElem?_of_mem hitem
  obtain ⟨-, -, ct, hpayload, -⟩ := h.sealed_at hn
  rw [hpayload, List.length_append, length_le64]
  exact Nat.le_add_right 8 _

end Sealed

namespace AeadChannel

omit [Primitives] in
theorem nonceFor_injective : Function.Injective nonceFor := fun left right h ↦ by
  have hbytes := congrArg List.Vector.toList h
  exact le64_injective (List.append_cancel_left hbytes)

/-- The key and nonce each ciphertext was made with. -/
def noncesUsed (key : Key32) (frames : List Frame) : List (Key32 × Octets 12) :=
  frames.map fun frame ↦ (key, nonceFor (counterOf frame))

theorem noncesUsed_nodup {key : Key32} {items : List (Frame × Bytes)} (h : Sealed key items) :
    (noncesUsed key (items.map Prod.fst)).Nodup := by
  have hcounters : ((items.map Prod.fst).map fun frame ↦ (counterOf frame).toNat).Nodup := by
    rw [List.map_map]
    exact h.counters_eq_range ▸ List.nodup_range
  have hfactor : noncesUsed key (items.map Prod.fst) =
      ((items.map Prod.fst).map counterOf).map fun counter ↦ (key, nonceFor counter) := by
    simp only [noncesUsed, List.map_map]
    rfl
  rw [hfactor]
  have hcounterOf : ((items.map Prod.fst).map counterOf).Nodup := by
    refine List.Nodup.of_map UInt64.toNat ?_
    rwa [List.map_map]
  exact hcounterOf.map fun left right heq ↦ nonceFor_injective (Prod.mk.inj heq).2

/-- An exhausted counter seals nothing and stays where it is. -/
theorem sealPayload_exhausted {channel : AeadChannel} (h : channel.tx.ctr.toNat + 1 = 2 ^ 64)
    (ty : FrameType) (plain : Bytes) :
    ∃ failure, channel.sealPayload ty plain = (.error failure, channel) := by
  obtain hfail | ⟨ct, -, hroom, -⟩ := channel.sealPayload_cases ty plain
  · exact hfail
  · omega

theorem openPayload_tx {channel channel' : AeadChannel} {ty : FrameType} {payload plain : Bytes}
    (h : channel.openPayload ty payload = (.ok plain, channel')) : channel'.tx = channel.tx := by
  obtain ⟨-, -, -, rfl⟩ := openPayload_eq_ok h
  rfl

theorem openPayload_rx_key {channel channel' : AeadChannel} {ty : FrameType}
    {payload plain : Bytes} (h : channel.openPayload ty payload = (.ok plain, channel')) :
    channel'.rx.key = channel.rx.key := by
  obtain ⟨-, -, -, rfl⟩ := openPayload_eq_ok h
  rfl

end AeadChannel

/-! ## What a call does to the sending side -/

/-- The sealed frames handed out so far are accounted for by the channel: none before there is one,
and afterwards as many as its counter says. -/
def TxLog : Option AeadChannel → List Frame → Prop
  | none, sent => sent = []
  | some channel, sent => ∃ items, Sealed channel.tx.key items ∧ items.map Prod.fst = sent ∧
      channel.tx.ctr.toNat = items.length

/-- Sealing extends what has been sealed before, under the same key, and leaves the receiving side
alone. -/
theorem Sealing.extend {channel : AeadChannel} {channel' : Option AeadChannel}
    {sealed items : List (Frame × Bytes)} (h : Sealing (some channel) items channel')
    (hsealed : Sealed channel.tx.key sealed) (hctr : channel.tx.ctr.toNat = sealed.length) :
    ∃ later, channel' = some later ∧ later.tx.key = channel.tx.key ∧ later.rx = channel.rx ∧
      Sealed channel.tx.key (sealed ++ items) ∧
      later.tx.ctr.toNat = (sealed ++ items).length := by
  cases h with
  | idle => exact ⟨channel, rfl, rfl, rfl, by simpa using hsealed, by simpa using hctr⟩
  | @once channel later ty plain payload hencrypted hseal =>
    obtain ⟨ct, henc, hroom, rfl, rfl⟩ := AeadChannel.sealPayload_eq_ok hseal
    have hlength : UInt64.ofNat sealed.length = channel.tx.ctr := by
      rw [← hctr, UInt64.ofNat_toNat]
    refine ⟨_, rfl, rfl, rfl, ?_, ?_⟩
    · rw [← hlength] at henc ⊢
      exact hsealed.snoc hencrypted (by omega) henc
    · simp [AeadChannel.toNat_succ hroom, hctr]

/-- Nothing is sealed on an exhausted channel. -/
theorem Sealing.exhausted {channel : AeadChannel} {channel' : Option AeadChannel}
    {items : List (Frame × Bytes)} (h : Sealing (some channel) items channel')
    (hctr : channel.tx.ctr.toNat + 1 = 2 ^ 64) : items = [] ∧ channel' = some channel := by
  cases h with
  | idle => exact ⟨rfl, rfl⟩
  | once _ hseal =>
    obtain ⟨ct, -, hroom, -, -⟩ := AeadChannel.sealPayload_eq_ok hseal
    omega

theorem TxLog.sealing {channel channel' : Option AeadChannel} {items : List (Frame × Bytes)}
    {sent : List Frame} (hlog : TxLog channel sent) (h : Sealing channel items channel') :
    TxLog channel' (sent ++ items.map Prod.fst) := by
  cases channel with
  | none =>
    cases h
    simpa [TxLog] using hlog
  | some channel =>
    obtain ⟨sealed, hsealed, rfl, hctr⟩ := hlog
    obtain ⟨later, rfl, hkey, -, hextended, hlater⟩ := h.extend hsealed hctr
    exact ⟨_, hkey ▸ hextended, List.map_append, hlater⟩

section Calls

variable [Ciborium]

namespace Session

omit [Ciborium] in
theorem Opening.tx_eq {channel opened : AeadChannel} {call : Call} {accepted : List (Frame × Bytes)}
    (h : Opening channel call accepted opened) : opened.tx = channel.tx := by
  cases h with
  | idle => rfl
  | frame hencrypted hopen => exact AeadChannel.openPayload_tx hopen

theorem perform_txLog {session : Session} (hcoherent : session.Coherent) {sent : List Frame}
    (hlog : TxLog session.channel sent) (call : Call) :
    TxLog (session.perform call).1.channel (sent ++ ciphertexts (session.perform call).2) := by
  match hchannel : session.channel with
  | none =>
    obtain ⟨-, hsent, hestablishing⟩ := perform_no_channel hcoherent hchannel call
    rw [hchannel] at hlog
    cases hlog
    rw [hsent]
    generalize (session.perform call).1 = later at hestablishing
    generalize session.greeting call = greeting at hestablishing
    cases hestablishing with
    | still hnone =>
      rw [hnone]
      rfl
    | greeted | acknowledged => exact ⟨[], .nil, rfl, rfl⟩
  | some channel =>
    obtain ⟨opened, items, later, hopening, hsealing, hlater, hitems, -⟩ :=
      perform_channel hcoherent hchannel call
    rw [hlater, ← hitems]
    refine TxLog.sealing ?_ hsealing
    rw [hchannel] at hlog
    rw [TxLog, hopening.tx_eq]
    exact hlog

/-- On an exhausted channel no call produces a ciphertext or moves the counter. -/
theorem perform_exhausted {session : Session} (hcoherent : session.Coherent) {channel : AeadChannel}
    (hchannel : session.channel = some channel) (hctr : channel.tx.ctr.toNat + 1 = 2 ^ 64)
    (call : Call) : ciphertexts (session.perform call).2 = [] ∧
      ∃ later, (session.perform call).1.channel = some later ∧ later.tx = channel.tx := by
  obtain ⟨opened, items, later, hopening, hsealing, hlater, hitems, -⟩ :=
    perform_channel hcoherent hchannel call
  obtain ⟨rfl, rfl⟩ := hsealing.exhausted (by rw [hopening.tx_eq, hctr])
  exact ⟨hitems.symm, opened, hlater, hopening.tx_eq⟩

end Session

/-! ## Endpoints side by side -/

/-- A session together with its past: every frame it has handed to its transport, every encrypted
frame it has accepted, with what it opened to, and the HELLO it has accepted. -/
structure Endpoint where
  session : Session
  sent : List Frame
  accepted : List (Frame × Bytes)
  greeting : Option Session.HelloFields

namespace Endpoint

/-- An endpoint at the opening of its session, with the frames sent to open it. -/
def opening (session : Session) (sent : List Frame) : Endpoint := ⟨session, sent, [], none⟩

def call (endpoint : Endpoint) (call : Session.Call) : Endpoint :=
  let result := endpoint.session.perform call
  { session := result.1
    sent := endpoint.sent ++ result.2
    accepted := endpoint.accepted ++ endpoint.session.accepts call
    greeting := endpoint.greeting <|> endpoint.session.greeting call }

/-- Interleave calls on several endpoints. -/
def run {ι : Type} [DecidableEq ι] (endpoints : ι → Endpoint) :
    List (ι × Session.Call) → ι → Endpoint
  | [] => endpoints
  | (i, call) :: calls => run (Function.update endpoints i ((endpoints i).call call)) calls

/-- What every call on an endpoint preserves holds of it throughout. -/
theorem run_invariant {ι : Type} [DecidableEq ι] {P : ι → Endpoint → Prop}
    (hstep : ∀ i endpoint call, P i endpoint → P i (endpoint.call call)) {endpoints : ι → Endpoint}
    (hinit : ∀ i, P i (endpoints i)) (calls : List (ι × Session.Call)) (i : ι) :
    P i (run endpoints calls i) := by
  induction calls generalizing endpoints with
  | nil => exact hinit i
  | cons step calls ih =>
    obtain ⟨j, call⟩ := step
    apply ih
    intro k
    by_cases hk : k = j
    · subst hk
      rw [Function.update_self]
      exact hstep _ _ _ (hinit k)
    · rw [Function.update_of_ne hk]
      exact hinit k

/-- Coherent, and every ciphertext accounted for by the channel. -/
structure Accounted (endpoint : Endpoint) : Prop where
  coherent : endpoint.session.Coherent
  log : TxLog endpoint.session.channel (ciphertexts endpoint.sent)

theorem Accounted.call {endpoint : Endpoint} (h : endpoint.Accounted) (call : Session.Call) :
    (endpoint.call call).Accounted where
  coherent := h.coherent.perform call
  log := by
    rw [Endpoint.call, ciphertexts_append]
    exact Session.perform_txLog h.coherent h.log call

omit [Ciborium] in
/-- The ciphertexts of an endpoint are long enough for a counter. -/
theorem Accounted.long {endpoint : Endpoint} (h : endpoint.Accounted) {frame : Frame}
    (hframe : frame ∈ ciphertexts endpoint.sent) : 8 ≤ frame.payload.length := by
  have hlog := h.log
  rcases hchannel : endpoint.session.channel with - | channel
  · rw [hchannel] at hlog
    rw [show ciphertexts endpoint.sent = [] from hlog] at hframe
    cases hframe
  · rw [hchannel] at hlog
    obtain ⟨items, hsealed, hitems, -⟩ := hlog
    rw [← hitems] at hframe
    obtain ⟨item, hitem, rfl⟩ := List.mem_map.mp hframe
    exact hsealed.payload_length hitem

/-- A phone that has sent its HELLO and a computer waiting for it. -/
def pair (phone : Session) (hello : Frame) (pc : Session) : Role → Endpoint
  | .phone => opening phone [hello]
  | .pc => opening pc []

omit [Ciborium] in
theorem opening_accounted {session : Session} {sent : List Frame} (hcoherent : session.Coherent)
    (hchannel : session.channel = none) (hsent : ciphertexts sent = []) :
    (opening session sent).Accounted :=
  ⟨hcoherent, by rw [opening, hchannel]; exact hsent⟩

theorem startPhone_accounted {identity : IdentityKeypair} {peer : PeerKey} {openedMs : UInt64}
    {seed : Option Key32} {phone : Session} {hello : Frame}
    (h : Session.startPhone identity peer openedMs seed = .ok (phone, hello)) :
    (opening phone [hello]).Accounted := by
  obtain ⟨eph, -, hopen⟩ := Session.startPhone_opens h
  have hty := Session.startPhone_hello hopen
  refine opening_accounted (Session.startPhone_coherent hopen) ?_
    (by simp [ciphertexts, hty, FrameType.isEncrypted, FrameType.toUInt8])
  rw [Session.startPhone_session hopen]
  rfl

omit [Ciborium] in
theorem newPc_accounted (identity : IdentityKeypair) (knownPeers : List PeerKey)
    (openedMs : UInt64) : (opening (Session.newPc identity knownPeers openedMs) []).Accounted :=
  opening_accounted (Session.newPc_coherent identity knownPeers openedMs) rfl rfl

/-- Once its counter is exhausted an endpoint produces no ciphertext, however the run goes on. -/
theorem run_exhausted {ι : Type} [DecidableEq ι] {endpoints : ι → Endpoint}
    (hall : ∀ i, (endpoints i).Accounted) {i : ι} {channel : AeadChannel}
    (hchannel : (endpoints i).session.channel = some channel)
    (hctr : channel.tx.ctr.toNat + 1 = 2 ^ 64) (calls : List (ι × Session.Call)) :
    ciphertexts (run endpoints calls i).sent = ciphertexts (endpoints i).sent ∧
      ∃ later, (run endpoints calls i).session.channel = some later ∧ later.tx = channel.tx := by
  let P (j : ι) (endpoint : Endpoint) : Prop := endpoint.Accounted ∧ (j = i →
    ciphertexts endpoint.sent = ciphertexts (endpoints i).sent ∧
      ∃ later, endpoint.session.channel = some later ∧ later.tx = channel.tx)
  have hstep (j : ι) (endpoint : Endpoint) (call : Session.Call) (h : P j endpoint) :
      P j (endpoint.call call) := by
    refine ⟨h.1.call call, fun hj ↦ ?_⟩
    obtain ⟨hsent, later, hlater, htx⟩ := h.2 hj
    obtain ⟨hnone, later', hlater', htx'⟩ :=
      Session.perform_exhausted h.1.coherent hlater (by rw [htx, hctr]) call
    refine ⟨?_, later', hlater', htx'.trans htx⟩
    rw [Endpoint.call, ciphertexts_append, hnone, List.append_nil, hsent]
  have hinit (j : ι) : P j (endpoints j) :=
    ⟨hall j, fun hj ↦ by subst hj; exact ⟨rfl, channel, hchannel, rfl⟩⟩
  exact (run_invariant hstep hinit calls i).2 rfl

/-- In every interleaving of calls on a phone and a computer, each end's ciphertexts carry the
counters 0, 1, 2, … under its sending key, no key and nonce are used for two of them as long as the
two directions have different keys, and an exhausted counter ends all sealing. -/
theorem nonces_never_reused {identity pcIdentity : IdentityKeypair} {peer : PeerKey}
    {knownPeers : List PeerKey} {openedMs pcOpenedMs : UInt64} {ephSeed : Option Key32}
    {phone : Session} {hello : Frame}
    (hstart : Session.startPhone identity peer openedMs ephSeed = .ok (phone, hello))
    (calls : List (Role × Session.Call)) :
    let ends := run (pair phone hello (Session.newPc pcIdentity knownPeers pcOpenedMs)) calls
    (∀ role, (ends role).session.channel = none → ciphertexts (ends role).sent = []) ∧
    (∀ role channel, (ends role).session.channel = some channel →
      (∃ items, Sealed channel.tx.key items ∧
        items.map Prod.fst = ciphertexts (ends role).sent) ∧
      (ciphertexts (ends role).sent).map (fun frame ↦ (counterOf frame).toNat) =
        List.range channel.tx.ctr.toNat) ∧
    (∀ phoneChannel pcChannel, (ends .phone).session.channel = some phoneChannel →
      (ends .pc).session.channel = some pcChannel → phoneChannel.tx.key ≠ pcChannel.tx.key →
      (AeadChannel.noncesUsed phoneChannel.tx.key (ciphertexts (ends .phone).sent) ++
        AeadChannel.noncesUsed pcChannel.tx.key (ciphertexts (ends .pc).sent)).Nodup) ∧
    ∀ role channel, (ends role).session.channel = some channel →
      channel.tx.ctr.toNat + 1 = 2 ^ 64 →
      (∀ ty plain, ∃ failure, channel.sealPayload ty plain = (.error failure, channel)) ∧
      ∀ later, ciphertexts (run ends later role).sent = ciphertexts (ends role).sent ∧
        ∃ channel', (run ends later role).session.channel = some channel' ∧
          channel'.tx = channel.tx := by
  intro ends
  have hall : ∀ role, (ends role).Accounted := by
    refine run_invariant (fun _ _ call h ↦ h.call call) (fun role ↦ ?_) calls
    cases role with
    | phone => exact startPhone_accounted hstart
    | pc => exact newPc_accounted pcIdentity knownPeers pcOpenedMs
  have hsome (role : Role) (channel : AeadChannel)
      (hchannel : (ends role).session.channel = some channel) :
      ∃ items, Sealed channel.tx.key items ∧ items.map Prod.fst = ciphertexts (ends role).sent ∧
        channel.tx.ctr.toNat = items.length := by
    have hlog := (hall role).log
    rwa [hchannel] at hlog
  refine ⟨fun role hchannel ↦ ?_, fun role channel hchannel ↦ ?_, ?_, ?_⟩
  · have hlog := (hall role).log
    rwa [hchannel] at hlog
  · obtain ⟨items, hsealed, hitems, hctr⟩ := hsome role channel hchannel
    refine ⟨⟨items, hsealed, hitems⟩, ?_⟩
    rw [← hitems, List.map_map, hctr]
    exact hsealed.counters_eq_range
  · intro phoneChannel pcChannel hphoneChannel hpcChannel hkeys
    obtain ⟨phoneItems, hphoneSealed, hphoneSent, -⟩ := hsome .phone phoneChannel hphoneChannel
    obtain ⟨pcItems, hpcSealed, hpcSent, -⟩ := hsome .pc pcChannel hpcChannel
    rw [List.nodup_append, ← hphoneSent, ← hpcSent]
    refine ⟨AeadChannel.noncesUsed_nodup hphoneSealed, AeadChannel.noncesUsed_nodup hpcSealed, ?_⟩
    rintro _ hleft _ hright rfl
    obtain ⟨left, -, hleft⟩ := List.mem_map.mp hleft
    obtain ⟨right, -, hright⟩ := List.mem_map.mp hright
    exact hkeys (Prod.mk.inj (hleft.trans hright.symm)).1
  · intro role channel hchannel hctr
    exact ⟨AeadChannel.sealPayload_exhausted hctr, run_exhausted hall hchannel hctr⟩

end Endpoint

end Calls

end Channel

namespace Reference

def helloFrame : Frame :=
  ⟨.hello, Session.helloPayload (phoneIdentity.dh pcIdentity.publicBytes) phoneIdentity.deviceId
    (Primitives.x25519Base (pad 32 [7])) 0⟩

def helloAckFrame : Frame :=
  ⟨.helloAck, Session.helloAckPayload (phoneIdentity.dh pcIdentity.publicBytes)
    (Primitives.x25519Base (pad 32 [11])) (Primitives.x25519Base (pad 32 [7]))⟩

/-- A handshake, two PINGs from the computer and one from the phone. -/
def threePings : Role → Endpoint :=
  Endpoint.run (Endpoint.pair
      (Session.phoneOpened phoneIdentity pcPeer 0 (.fromSeed (pad 32 [7]))) helloFrame
      (Session.newPc pcIdentity [phonePeer] 0))
    [(.pc, .onFrame helloFrame 0 (some (pad 32 [11]))), (.pc, .ping),
      (.phone, .onFrame helloAckFrame 0 none), (.phone, .ping), (.pc, .ping)]

end Reference

open Reference in
theorem nonces_never_reused_three_pings :
    (ciphertexts (threePings .pc).sent).map (fun frame ↦ (counterOf frame).toNat) = [0, 1] ∧
    ∃ phoneKey pcKey, (AeadChannel.noncesUsed phoneKey (ciphertexts (threePings .phone).sent) ++
      AeadChannel.noncesUsed pcKey (ciphertexts (threePings .pc).sent)).Nodup := by
  have hstart : Session.startPhone phoneIdentity pcPeer 0 (some (pad 32 [7])) = .ok (_, helloFrame) :=
    Session.startPhone_eq phoneIdentity pcPeer 0 (.fromSeed (pad 32 [7]))
  have hspec := @Endpoint.nonces_never_reused _ _ phoneIdentity pcIdentity pcPeer [phonePeer] 0 0 _ _
    _ hstart [(.pc, .onFrame helloFrame 0 (some (pad 32 [11]))), (.pc, .ping),
      (.phone, .onFrame helloAckFrame 0 none), (.phone, .ping), (.pc, .ping)]
  have hpcCtr : (threePings .pc).session.channel.map (·.tx.ctr) = some 2 := by decide +kernel
  have hkeys : (threePings .phone).session.channel.map (·.tx.key) ≠
      (threePings .pc).session.channel.map (·.tx.key) := by decide +kernel
  have hphone : (threePings .phone).session.channel.isSome := by decide +kernel
  obtain ⟨pcChannel, hpcChannel, hctr⟩ := Option.map_eq_some_iff.mp hpcCtr
  obtain ⟨phoneChannel, hphoneChannel⟩ := Option.isSome_iff_exists.mp hphone
  rw [hphoneChannel, hpcChannel] at hkeys
  refine ⟨?_, _, _, hspec.2.2.1 phoneChannel pcChannel hphoneChannel hpcChannel (by simpa using hkeys)⟩
  have hcounters := (hspec.2.1 .pc pcChannel hpcChannel).2
  rw [hctr] at hcounters
  exact hcounters

end AirClip
