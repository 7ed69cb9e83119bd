import AirClip.Core.HonestPairing

/-!
# The pairing link

The link is a codec for well-formed codes, and it normalises: whatever link has been accepted, the code
read from it is well-formed, so that the link built from that code again reads back as the same.
-/

open Foundation

namespace AirClip

theorem notMem_of_mem_splitOn {α : Type} [DecidableEq α] {separator : α} {content piece : List α}
    (h : piece ∈ content.splitOn separator) : separator ∉ piece := by
  induction content generalizing piece with
  | nil =>
    rw [List.splitOn_nil, List.mem_singleton] at h
    simp [h]
  | cons first content ih =>
    rw [List.splitOn_cons_eq_if_modifyHead] at h
    split at h
    · obtain rfl | hlater := List.mem_cons.mp h
      · exact List.not_mem_nil
      · exact ih hlater
    · next hfirst =>
      obtain ⟨head, pieces, hpieces⟩ := List.exists_cons_of_ne_nil (List.splitOn_ne_nil separator content)
      rw [hpieces] at ih h
      obtain rfl | hlater := List.mem_cons.mp h
      · have hne : separator ≠ first := fun heq ↦ hfirst (beq_iff_eq.mpr heq.symm)
        exact List.not_mem_cons_of_ne_of_not_mem hne (ih List.mem_cons_self)
      · exact ih (List.mem_cons_of_mem _ hlater)

theorem splitComma_sound {content host : String} (h : host ∈ splitComma content) :
    host ≠ "" ∧ ',' ∉ host.toList := by
  obtain ⟨hpiece, hnonempty⟩ := List.mem_filter.mp h
  obtain ⟨piece, hsplit, rfl⟩ := List.mem_map.mp hpiece
  refine ⟨of_decide_eq_true hnonempty, ?_⟩
  rw [String.toList_ofList]
  exact notMem_of_mem_splitOn hsplit

section Link

variable [TextCodecs]

namespace QrPayload

/-- The hosts can be told apart in a comma-separated list. -/
def HostsListed (hosts : List String) : Prop := ∀ host ∈ hosts, host ≠ "" ∧ ',' ∉ host.toList

theorem readPair_hostsListed {fields fields' : Fields} (h : HostsListed fields.hosts) {k v : String}
    (hread : readPair fields k v = .ok fields') : HostsListed fields'.hosts := by
  have hfield {width : ℕ} {read : Except Error (Octets width)} {put : Octets width → Fields}
      (hread : read.map put = .ok fields') (hput : ∀ array, (put array).hosts = fields.hosts) :
      HostsListed fields'.hosts := by
    cases read with
    | error failure => cases hread
    | ok array =>
      cases hread
      rwa [hput]
  unfold readPair at hread
  split at hread
  · cases hread
    exact h
  · exact hfield hread fun _ ↦ rfl
  · exact hfield hread fun _ ↦ rfl
  · cases hread
    exact h
  · cases hread
    exact fun host hmem ↦ splitComma_sound hmem
  · exact hfield hread fun _ ↦ rfl
  · cases hread
    exact h

theorem readPairs_hostsListed {pairs : List (String × String)} {fields fields' : Fields}
    (h : HostsListed fields.hosts) (hread : readPairs fields pairs = .ok fields') :
    HostsListed fields'.hosts := by
  induction pairs generalizing fields with
  | nil =>
    cases hread
    exact h
  | cons pair pairs ih =>
    obtain ⟨k, v⟩ := pair
    unfold readPairs at hread
    split at hread
    · cases hread
    · next later hfirst => exact ih (readPair_hostsListed h hfirst) hread

variable [Primitives]

/-- What the computer puts into a code. -/
structure WellFormed (qr : QrPayload) : Prop where
  version : qr.version = protocolVersion
  deviceId : qr.deviceId = deviceIdFromPk qr.publicKey
  hosts : HostsListed qr.hosts

omit [TextCodecs] in
theorem finish_ok {fields : Fields} {qr : QrPayload} (h : finish fields = .ok qr) :
    qr.version = protocolVersion ∧ qr.hosts = fields.hosts := by
  unfold finish at h
  split at h
  · cases h
  split_ifs at h with hversion
  split at h
  · cases h
  split at h
  · cases h
  split at h
  · cases h
  split_ifs at h
  cases h
  exact ⟨not_not.mp hversion, rfl⟩

theorem parse_wellFormed {url : String} {qr : QrPayload} (h : parse url = .ok qr) :
    qr.WellFormed := by
  have hdeviceId := parse_deviceId h
  unfold parse at h
  split at h
  · cases h
  split_ifs at h
  split at h
  · cases h
  next fields hfields =>
  obtain ⟨hversion, hhosts⟩ := finish_ok h
  refine ⟨hversion, hdeviceId, ?_⟩
  rw [hhosts]
  exact readPairs_hostsListed (fun host hmem ↦ absurd hmem List.not_mem_nil) hfields

/-- The link is a faithful, normalising codec. -/
theorem link_normalises [TextCodecs.Lawful] :
    (∀ qr : QrPayload, qr.WellFormed → parse qr.toUrl = .ok qr) ∧
      ∀ url qr, parse url = .ok qr → qr.WellFormed ∧ parse qr.toUrl = .ok qr := by
  have hreads (qr : QrPayload) (h : qr.WellFormed) : parse qr.toUrl = .ok qr :=
    parse_toUrl h.version h.deviceId h.hosts
  refine ⟨hreads, fun url qr hparse ↦ ?_⟩
  have hqr := parse_wellFormed hparse
  exact ⟨hqr, hreads qr hqr⟩

end QrPayload

end Link

open Reference QrPayload in
/-- A link whose parameters are in another order, with one of them given twice and another unknown. -/
theorem QrPayload.link_normalises_reordered :
    ∃ qr, parse ("airclip://pair?hosts=x&tok=" ++ TextCodecs.base64Encode devices.token.toList ++
        "&nm=A+%26+B&hosts=h%2C%2Ci&more=1&pk=" ++
        TextCodecs.base64Encode devices.pc.publicBytes.toList ++ "&id=" ++
        devices.pc.deviceId.hex ++ "&v=%2B1") = .ok qr ∧
      qr.displayName = "A & B" ∧ qr.hosts = ["h", "i"] ∧ parse qr.toUrl = .ok qr := by
  let qr : QrPayload := ⟨1, devices.pc.deviceId, devices.pc.publicBytes, "A & B", ["h", "i"],
    devices.token⟩
  have hparse : parse ("airclip://pair?hosts=x&tok=" ++
      TextCodecs.base64Encode devices.token.toList ++ "&nm=A+%26+B&hosts=h%2C%2Ci&more=1&pk=" ++
      TextCodecs.base64Encode devices.pc.publicBytes.toList ++ "&id=" ++
      devices.pc.deviceId.hex ++ "&v=%2B1") = .ok qr := by
    decide +kernel
  exact ⟨qr, hparse, rfl, rfl, (link_normalises.2 _ qr hparse).2⟩

end AirClip
