import AirClip.Core.Messages
import AirClip.Security.SecureChannel

/-!
# Mirroring sessions

Two established sessions mirror each other if each receives with the key the other transmits with and
has not read past what the other has sealed.  Then either opens what the other seals next.  The two
ends of a session of two devices mirror each other in every world a run leads to.
-/

open Foundation

namespace AirClip

section Mirrors

variable [Primitives]

/-- What `left` seals next, `right` opens. -/
structure AeadChannel.Feeds (left right : AeadChannel) : Prop where
  key : left.tx.key = right.rx.key
  fresh : right.rx.next ≤ left.tx.ctr.toNat

/-- Two established sessions that open what the other seals next. -/
structure Session.Mirrored (left right : Session) : Prop where
  left_state : left.state = .established
  right_state : right.state = .established
  channels : ∃ channel channel', left.channel = some channel ∧ right.channel = some channel' ∧
    channel.Feeds channel' ∧ channel'.Feeds channel

/-- The sending counter is not exhausted. -/
def Session.Unexhausted (session : Session) : Prop :=
  ∀ channel, session.channel = some channel → channel.tx.ctr.toNat + 1 < 2 ^ 64

theorem Session.Mirrored.symm {left right : Session} (h : left.Mirrored right) :
    right.Mirrored left := by
  obtain ⟨channel, channel', hleft, hright, hforth, hback⟩ := h.channels
  exact ⟨h.right_state, h.left_state, channel', channel, hright, hleft, hback, hforth⟩

omit [Primitives] in
/-- Two fresh channels with mirror keys feed each other. -/
theorem AeadChannel.feeds_new (txKey rxKey : Key32) : (new txKey rxKey).Feeds (new rxKey txKey) :=
  ⟨rfl, Nat.zero_le _⟩

/-- A payload whose counter is fresh and that decrypts is opened. -/
theorem AeadChannel.openPayload_fresh {channel : AeadChannel} {ty : FrameType} {ctr : UInt64}
    {ct plain : Bytes} (hfresh : channel.rx.next ≤ ctr.toNat)
    (hdecrypt : Primitives.aeadDecrypt channel.rx.key (nonceFor ctr) ct (aadFor ty) = some plain) :
    channel.openPayload ty (le64 ctr ++ ct) =
      (.ok plain, { channel with rx := { channel.rx with ctr := ctr, seenAny := true } }) := by
  have hlong : ¬ (le64 ctr ++ ct).length < 8 := by
    rw [List.length_append, length_le64]
    omega
  have htake : ofLe64 ((le64 ctr ++ ct).take 8) = ctr := by
    rw [List.take_left' (length_le64 _), ofLe64_le64]
  have hdrop : (le64 ctr ++ ct).drop 8 = ct := List.drop_left' (length_le64 _)
  have hunseen : ¬ (channel.rx.seenAny && decide (ctr ≤ channel.rx.ctr)) = true := by
    rw [Direction.next] at hfresh
    split_ifs at hfresh with hseen
    · rw [hseen, Bool.true_and, decide_eq_true_eq, UInt64.le_iff_toNat_le]
      omega
    · simp [hseen]
  unfold openPayload
  simp only [if_neg hlong, htake, hdrop, if_neg hunseen, hdecrypt]

/-- A sealed payload is opened by the channel it feeds, and the two feed each other as before. -/
theorem AeadChannel.Feeds.openPayload [AeadCorrect] {left right left' : AeadChannel} {ty : FrameType}
    {plain payload : Bytes} (h : left.Feeds right) (hback : right.Feeds left)
    (hseal : left.sealPayload ty plain = (.ok payload, left')) :
    ∃ right', right.openPayload ty payload = (.ok plain, right') ∧ right'.tx = right.tx ∧
      left'.Feeds right' ∧ right'.Feeds left' := by
  obtain ⟨ct, hencrypt, hctr, rfl, rfl⟩ := sealPayload_eq_ok hseal
  have hdecrypt := AeadCorrect.decrypt_encrypt hencrypt
  rw [h.key] at hdecrypt
  refine ⟨_, openPayload_fresh h.fresh hdecrypt, rfl, ⟨h.key, ?_⟩, ⟨hback.key, hback.fresh⟩⟩
  rw [Direction.next, if_pos rfl]
  exact (toNat_succ hctr).ge

/-- A sealed payload that is lost leaves the two channels feeding each other. -/
theorem AeadChannel.Feeds.sealPayload {left right left' : AeadChannel} {ty : FrameType}
    {plain payload : Bytes} (h : left.Feeds right) (hback : right.Feeds left)
    (hseal : left.sealPayload ty plain = (.ok payload, left')) :
    left'.Feeds right ∧ right.Feeds left' := by
  obtain ⟨ct, -, hctr, -, rfl⟩ := sealPayload_eq_ok hseal
  refine ⟨⟨h.key, ?_⟩, hback.key, hback.fresh⟩
  calc
    right.rx.next ≤ left.tx.ctr.toNat := h.fresh
    _ ≤ left.tx.ctr.toNat + 1 := Nat.le_succ _
    _ = (left.tx.ctr + 1).toNat := (toNat_succ hctr).symm

/-- A frame one session seals is handled by the other as its plaintext. -/
theorem Session.Mirrored.onFrame [Ciborium] [AeadCorrect] {left right left' : Session}
    {ty : FrameType} {plain : Bytes} {frame : Frame} (h : left.Mirrored right)
    (hencrypted : ty.isEncrypted) (hseal : left.sealFrame ty plain = (.ok frame, left'))
    (nowMs : UInt64) (seed : Option Key32) :
    frame.ty = ty ∧ ∃ right' : Session, right'.paused = right.paused ∧
      (right.Unexhausted → right'.Unexhausted) ∧ left'.Mirrored right' ∧
      right.onFrame frame nowMs seed = right'.onPlain ty plain := by
  obtain ⟨channel, channel', hleft, hright, hforth, hback⟩ := h.channels
  obtain ⟨channel₀, payload, later, hleft', hpayload, rfl, rfl⟩ := Session.sealFrame_eq_ok hseal
  cases hleft.symm.trans hleft'
  obtain ⟨opened, hopen, htx, hforth', hback'⟩ := hforth.openPayload hback hpayload
  refine ⟨rfl, { right with lastActivityMs := nowMs, channel := some opened }, rfl, ?_, ?_, ?_⟩
  · rintro hunexhausted later hlater
    cases hlater
    rw [htx]
    exact hunexhausted channel' hright
  · exact ⟨h.left_state, h.right_state, later, opened, rfl, rfl, hforth', hback'⟩
  · simp only [Session.onFrame, h.right_state, reduceCtorEq, if_false, hencrypted, if_true,
      Session.onEncrypted, hright, hopen]

/-- A frame that is sealed and then lost leaves the two sessions mirroring each other. -/
theorem Session.Mirrored.sealed {left right left' : Session} {ty : FrameType} {plain : Bytes}
    {frame : Frame} (h : left.Mirrored right)
    (hseal : left.sealFrame ty plain = (.ok frame, left')) : left'.Mirrored right := by
  obtain ⟨channel, channel', hleft, hright, hforth, hback⟩ := h.channels
  obtain ⟨channel₀, payload, later, hleft', hpayload, rfl, rfl⟩ := Session.sealFrame_eq_ok hseal
  cases hleft.symm.trans hleft'
  obtain ⟨hforth', hback'⟩ := hforth.sealPayload hback hpayload
  exact ⟨h.left_state, h.right_state, later, channel', rfl, hright, hforth', hback'⟩

end Mirrors

/-! ## The two ends of a session -/

section Ends

variable [Primitives] [Ciborium]

/-- The highest counter an endpoint has seen is that of a frame it has accepted. -/
def Endpoint.Tracked (endpoint : Endpoint) : Prop :=
  ∀ channel, endpoint.session.channel = some channel → channel.rx.seenAny = true →
    ∃ item ∈ endpoint.accepted, counterOf item.1 = channel.rx.ctr

theorem Endpoint.Tracked.call {endpoint : Endpoint} (h : endpoint.Tracked)
    (hcoherent : endpoint.session.Coherent) (call : Session.Call) :
    (endpoint.call call).Tracked := by
  intro channel hchannel hseen
  match hbefore : endpoint.session.channel with
  | none =>
    obtain ⟨-, -, hestablishing⟩ := Session.perform_no_channel hcoherent hbefore call
    change (endpoint.session.perform call).1.channel = some channel at hchannel
    generalize (endpoint.session.perform call).1 = later at hestablishing hchannel
    generalize endpoint.session.greeting call = greeting at hestablishing
    cases hestablishing with
    | still hnone =>
      rw [hnone] at hchannel
      cases hchannel
    | greeted | acknowledged =>
      cases hchannel
      cases hseen
  | some before =>
    obtain ⟨opened, items, later, hopening, hsealing, hlater, -⟩ :=
      Session.perform_channel hcoherent hbefore call
    obtain ⟨later, rfl, hrx, -⟩ := hsealing.sides
    cases hlater.symm.trans hchannel
    rw [hrx] at hseen ⊢
    change ∃ item ∈ endpoint.accepted ++ endpoint.session.accepts call, _
    generalize endpoint.session.accepts call = accepted at hopening
    cases hopening with
    | idle =>
      obtain ⟨item, hmem, hctr⟩ := h before hbefore hseen
      exact ⟨item, List.mem_append_left _ hmem, hctr⟩
    | @frame frame nowMs seed plain opened hencrypted hopen =>
      refine ⟨(frame, plain), List.mem_append_right _ (List.mem_singleton_self _), ?_⟩
      obtain ⟨-, -, -, rfl⟩ := AeadChannel.openPayload_eq_ok hopen
      rfl

omit [Ciborium] in
/-- A linked receiver has not read past what its sender has sealed. -/
theorem Link.fresh {sender receiver : Endpoint} (hlink : Link sender receiver)
    (htracked : receiver.Tracked) : ∃ tx rx, sender.session.channel = some tx ∧
      receiver.session.channel = some rx ∧ tx.Feeds rx := by
  obtain ⟨tx, rx, fifo, hlinked⟩ := hlink
  refine ⟨tx, rx, hlinked.sender_channel, hlinked.receiver_channel, hlinked.key, ?_⟩
  rw [Direction.next]
  split_ifs with hseen
  · obtain ⟨item, hmem, hctr⟩ := htracked rx hlinked.receiver_channel hseen
    rw [← hlinked.delivered] at hmem
    have hsent := fifo.delivered_sublist_sent.subset hmem
    have hcounter : (counterOf item.1).toNat ∈ List.range fifo.sent.length := by
      rw [← hlinked.log.counters_eq_range]
      exact List.mem_map_of_mem hsent
    rw [List.mem_range, hctr] at hcounter
    rw [hlinked.log_length]
    exact hcounter
  · exact Nat.zero_le _

namespace Setup

variable {I J : Type} [DecidableEq I] [DecidableEq J] {setup : Setup I J}

theorem Reachable.tracked [X25519Commutes] [AeadCorrect] [Ciborium.Lawful] {world : World I J}
    (hreach : setup.Reachable world) (hkeys : setup.KeysDiffer) (e : I ⊕ J) : (world e).Tracked := by
  induction hreach with
  | start =>
    intro channel hchannel
    have hnone : (setup.initial e).session.channel = none := by
      cases e with
      | inl i => exact congrArg Session.channel (phoneSession_eq i)
      | inr j => rfl
    rw [hnone] at hchannel
    cases hchannel
  | @call world hreach e' call hadmissible hothers ih =>
    by_cases he : e = e'
    · subst he
      rw [Function.update_self]
      exact ih.call ((hreach.inv hkeys).ends e).accounted.coherent call
    · rwa [Function.update_of_ne he]

omit [DecidableEq I] [DecidableEq J] [Ciborium] in
theorem Mirrors.symm {world : World I J} {m e : I ⊕ J} (h : Mirrors world m e) :
    Mirrors world e m := by
  obtain ⟨hside, left, right, hleft, hright, hforth, hback⟩ := h
  exact ⟨hside.symm, right, left, hright, hleft, hback.symm, hforth.symm⟩

/-- An end has not read past what the other end has sealed. -/
theorem Reachable.feeds [X25519Commutes] [AeadCorrect] [Ciborium.Lawful] {world : World I J}
    (hreach : setup.Reachable world) (hkeys : setup.KeysDiffer) {m e : I ⊕ J}
    (hbetween : setup.Between world m) (hbetween' : setup.Between world e)
    (hmirrors : Mirrors world m e) : ∃ tx rx, (world m).session.channel = some tx ∧
      (world e).session.channel = some rx ∧ tx.Feeds rx := by
  have hinv := hreach.inv hkeys
  obtain hunread | ⟨m', hlink⟩ := (hinv.ends e).linked hbetween'
  · obtain ⟨-, tx, rx, htx, hrx, hkey, -⟩ := hmirrors
    refine ⟨tx, rx, htx, hrx, hkey, ?_⟩
    rw [Direction.next, if_neg (by simp [hunread.2 rx hrx])]
    exact Nat.zero_le _
  · have hmirrors' := hinv.mirrors_of_link hkeys hbetween' hlink
    have heq : m = m' := hinv.mirrors_unique hkeys hbetween hmirrors.symm hmirrors'.symm
    subst heq
    exact hlink.fresh (hreach.tracked hkeys e)

/-- In every world a run leads to, the two established ends of a session mirror each other. -/
theorem Reachable.mirrored [X25519Commutes] [AeadCorrect] [Ciborium.Lawful] {world : World I J}
    (hreach : setup.Reachable world) (hkeys : setup.KeysDiffer) {m e : I ⊕ J}
    (hbetween : setup.Between world m) (hbetween' : setup.Between world e)
    (hmirrors : Mirrors world m e) (hstate : (world m).session.state = .established)
    (hstate' : (world e).session.state = .established) :
    (world m).session.Mirrored (world e).session := by
  obtain ⟨tx, rx, htx, hrx, hforth⟩ := hreach.feeds hkeys hbetween hbetween' hmirrors
  obtain ⟨rx', tx', hrx', htx', hback⟩ := hreach.feeds hkeys hbetween' hbetween hmirrors.symm
  cases hrx.symm.trans hrx'
  cases htx.symm.trans htx'
  exact ⟨hstate, hstate', tx, rx, htx, hrx, hforth, hback⟩

end Setup

end Ends

end AirClip
