import AirClip.Core.Nonces
import AirClip.Foundation.LossyFifo

/-!
# Links between two endpoints

One direction of a session refines a lossy ordered channel.  The log of the channel is what the
sending endpoint has sealed, the position is the receiver's next admissible counter, and the
deliveries are what the receiver has accepted.  A call on the sender appends to the log, and a call
on the receiver delivers a message, provided the frame it opens is one the sender has produced.
-/

open Foundation

namespace AirClip

/-- The smallest counter a receiving direction still accepts. -/
def Direction.next (direction : Direction) : ℕ :=
  if direction.seenAny then direction.ctr.toNat + 1 else 0

variable [Primitives]

/-- Sealing touches only the sending counter. -/
theorem Sealing.sides {channel : AeadChannel} {channel' : Option AeadChannel}
    {items : List (Frame × Bytes)} (h : Sealing (some channel) items channel') :
    ∃ later, channel' = some later ∧ later.rx = channel.rx ∧ later.tx.key = channel.tx.key := by
  cases h with
  | idle => exact ⟨channel, rfl, rfl, rfl⟩
  | @once channel later ty plain payload hencrypted hseal =>
    obtain ⟨ct, -, -, -, rfl⟩ := AeadChannel.sealPayload_eq_ok hseal
    exact ⟨_, rfl, rfl, rfl⟩

omit [Primitives] in
/-- A sealed frame and an opened one with the same nonce, associated data and ciphertext are the
same frame. -/
theorem frame_ext_of_seal {left right : Frame} (hleft : 8 ≤ left.payload.length)
    (hright : 8 ≤ right.payload.length)
    (hnonce : AeadChannel.nonceFor (counterOf left) = AeadChannel.nonceFor (counterOf right))
    (haad : AeadChannel.aadFor left.ty = AeadChannel.aadFor right.ty)
    (hct : left.payload.drop 8 = right.payload.drop 8) : left = right := by
  have hty : left.ty = right.ty := FrameType.toUInt8_injective (List.cons.inj haad).1
  have hctr := congrArg le64 (AeadChannel.nonceFor_injective hnonce)
  rw [counterOf, counterOf, le64_ofLe64 (by simpa using hleft),
    le64_ofLe64 (by simpa using hright)] at hctr
  have hpayload : left.payload = right.payload := by
    rw [← List.take_append_drop 8 left.payload, hctr, hct, List.take_append_drop]
  cases left
  cases right
  simp_all

/-- The receiving side of one endpoint as a lossy channel from another. -/
structure LinkedBy (sender receiver : Endpoint) (tx rx : AeadChannel)
    (fifo : LossyFifo (Frame × Bytes)) : Prop where
  sender_channel : sender.session.channel = some tx
  receiver_channel : receiver.session.channel = some rx
  key : tx.tx.key = rx.rx.key
  log : Sealed tx.tx.key fifo.sent
  log_sent : fifo.sent.map Prod.fst = ciphertexts sender.sent
  log_length : tx.tx.ctr.toNat = fifo.sent.length
  position : fifo.position = rx.rx.next
  delivered : fifo.delivered = receiver.accepted

/-- The receiver accepts from the sender, as a lossy channel would deliver. -/
def Link (sender receiver : Endpoint) : Prop :=
  ∃ tx rx fifo, LinkedBy sender receiver tx rx fifo

/-- Nothing has been accepted yet. -/
def Endpoint.Unread (endpoint : Endpoint) : Prop :=
  endpoint.accepted = [] ∧
    ∀ channel, endpoint.session.channel = some channel → channel.rx.seenAny = false

namespace Link

variable {sender receiver : Endpoint}

/-- A receiver that has accepted nothing is linked to any sender of its key. -/
theorem start {tx rx : AeadChannel} (hsender : sender.Accounted) (hreceiver : receiver.Unread)
    (htx : sender.session.channel = some tx) (hrx : receiver.session.channel = some rx)
    (hkey : tx.tx.key = rx.rx.key) : Link sender receiver := by
  have hlog := hsender.log
  rw [htx] at hlog
  obtain ⟨items, hsealed, hsent, hctr⟩ := hlog
  exact ⟨tx, rx, .unread items, htx, hrx, hkey, hsealed, hsent, hctr,
    by rw [Direction.next, hreceiver.2 rx hrx]; rfl, hreceiver.1.symm⟩

variable [Ciborium]

/-- Whatever the sender does, the link stays: the log may only grow. -/
theorem sender_call (h : Link sender receiver) (hsender : sender.Accounted) (call : Session.Call) :
    Link (sender.call call) receiver := by
  obtain ⟨tx, rx, fifo, hlink⟩ := h
  obtain ⟨opened, items, later, hopening, hsealing, hlater, hitems, -⟩ :=
    Session.perform_channel hsender.coherent hlink.sender_channel call
  have hctr : opened.tx.ctr.toNat = fifo.sent.length := by rw [hopening.tx_eq, hlink.log_length]
  obtain ⟨later, rfl, hkey, -, hsealed, hlength⟩ :=
    hsealing.extend (hopening.tx_eq ▸ hlink.log) hctr
  rw [hopening.tx_eq] at hkey hsealed
  refine ⟨later, rx, fifo.send items, hlater, hlink.receiver_channel, hkey.trans hlink.key,
    hkey ▸ hsealed, ?_, hlength, hlink.position, hlink.delivered⟩
  rw [LossyFifo.send, List.map_append, hlink.log_sent, hitems, Endpoint.call, ciphertexts_append]

omit [Ciborium] in
/-- A frame of the sender that opens is the next delivery, with the plaintext that was sealed. -/
theorem deliver [AeadCorrect] {tx rx opened : AeadChannel}
    {fifo : LossyFifo (Frame × Bytes)} {frame : Frame} {plain : Bytes}
    (h : LinkedBy sender receiver tx rx fifo)
    (hopen : rx.openPayload frame.ty frame.payload = (.ok plain, opened))
    (hsent : frame ∈ ciphertexts sender.sent) :
    ∃ later : LossyFifo (Frame × Bytes), later.sent = fifo.sent ∧
      later.position = opened.rx.next ∧ later.delivered = fifo.delivered ++ [(frame, plain)] := by
  obtain ⟨-, hfresh, hdecrypt, rfl⟩ := AeadChannel.openPayload_eq_ok hopen
  rw [← h.log_sent] at hsent
  obtain ⟨item, hitem, rfl⟩ := List.mem_map.mp hsent
  obtain ⟨n, hn⟩ := List.getElem?_of_mem hitem
  obtain ⟨-, hlt, ct, hpayload, hencrypt⟩ := h.log.sealed_at hn
  have hctr : ofLe64 (item.1.payload.take 8) = UInt64.ofNat n := by
    rw [hpayload, List.take_left' (length_le64 _), ofLe64_le64]
  have hnat : (UInt64.ofNat n).toNat = n := UInt64.toNat_ofNat_of_lt' hlt
  rw [hctr, hpayload, List.drop_left' (length_le64 _), ← h.key,
    AeadCorrect.decrypt_encrypt hencrypt] at hdecrypt
  have hplain : item.2 = plain := Option.some.inj hdecrypt
  have hposition : fifo.position ≤ n := by
    rw [h.position, Direction.next]
    split_ifs with hseen
    · have hbelow := UInt64.lt_iff_toNat_lt.mp (hfresh hseen)
      rw [hctr, hnat] at hbelow
      exact hbelow
    · exact Nat.zero_le n
  refine ⟨fifo.deliver n item hposition hn, rfl, ?_, ?_⟩
  · simp only [LossyFifo.deliver, Direction.next, if_true, hctr, hnat]
  · rw [LossyFifo.deliver, ← hplain]

/-- The link also stays when the receiver gets a frame, if a frame that opens was produced by the
sender. -/
theorem receiver_call [AeadCorrect] (h : Link sender receiver) (hreceiver : receiver.Accounted)
    (call : Session.Call)
    (hgenuine : ∀ item ∈ receiver.session.accepts call, item.1 ∈ ciphertexts sender.sent) :
    Link sender (receiver.call call) := by
  obtain ⟨tx, rx, fifo, hlink⟩ := h
  obtain ⟨opened, items, later, hopening, hsealing, hlater, -⟩ :=
    Session.perform_channel hreceiver.coherent hlink.receiver_channel call
  obtain ⟨later, rfl, hrx, -⟩ := hsealing.sides
  generalize haccepts : receiver.session.accepts call = accepted at hopening
  have hdelivered : (receiver.call call).accepted = receiver.accepted ++ accepted := by
    rw [Endpoint.call, haccepts]
  cases hopening with
  | idle =>
    exact ⟨tx, later, fifo, hlink.sender_channel, hlater, by rw [hlink.key, hrx], hlink.log,
      hlink.log_sent, hlink.log_length, by rw [hlink.position, hrx],
      by rw [hdelivered, hlink.delivered, List.append_nil]⟩
  | @frame frame nowMs seed plain opened hencrypted hopen =>
    obtain ⟨fifo', hsent, hposition, hfifo⟩ :=
      deliver hlink hopen (hgenuine (frame, plain) (by simp [haccepts]))
    have hkey : opened.rx.key = rx.rx.key := AeadChannel.openPayload_rx_key hopen
    exact ⟨tx, later, fifo', hlink.sender_channel, hlater, by rw [hlink.key, hrx, hkey],
      hsent ▸ hlink.log, hsent ▸ hlink.log_sent, hsent ▸ hlink.log_length, by rw [hposition, hrx],
      by rw [hfifo, hdelivered, hlink.delivered]⟩

omit [Ciborium] in
/-- What a linked receiver has accepted is a subsequence of what the sender has sealed. -/
theorem accepted_sublist (h : Link sender receiver) : ∃ channel items,
    sender.session.channel = some channel ∧ Sealed channel.tx.key items ∧
      items.map Prod.fst = ciphertexts sender.sent ∧ receiver.accepted.Sublist items := by
  obtain ⟨tx, rx, fifo, hlink⟩ := h
  exact ⟨tx, fifo.sent, hlink.sender_channel, hlink.log, hlink.log_sent,
    hlink.delivered ▸ fifo.delivered_sublist_sent⟩

end Link

end AirClip
