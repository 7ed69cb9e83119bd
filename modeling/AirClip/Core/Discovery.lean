import AirClip.Core.Reference
import AirClip.Foundation.CharBoundary

/-!
# Discovery records

The record that is advertised next to the service: version, device id and display name, the name cut
to 32 bytes.  Other parties may reorder the pairs of a record and add pairs of their own, and parsing
is insensitive to both.
-/

open Foundation

namespace AirClip

/-! ## Names -/

def maxNameBytes : ℕ := 32

/-- The name cut on a character boundary; `none` is the panic of a cut inside a character. -/
def truncateName (name : String) : Option String :=
  if (utf8 name).length ≤ maxNameBytes then some name
  else sliceTo name (searchBoundary name maxNameBytes)

/-- The cut never falls inside a character, and keeps as much of the name as fits. -/
theorem truncateName_longest (name : String) :
    ∃ kept, truncateName name = some kept ∧ LongestPrefix name maxNameBytes kept := by
  unfold truncateName
  split_ifs with hfits
  · exact ⟨name, rfl, .self hfits⟩
  · exact LongestPrefix.exists_sliceTo name maxNameBytes

/-! ## Records -/

/-- The `v`/`id`/`nm` triple. -/
structure TxtRecord where
  version : UInt8
  deviceId : DeviceId
  name : String
deriving DecidableEq

namespace TxtRecord

def new (deviceId : DeviceId) (name : String) : Option TxtRecord :=
  (truncateName name).map fun kept ↦ ⟨protocolVersion, deviceId, kept⟩

def toPairs (record : TxtRecord) : List (String × String) :=
  [("v", toString record.version.toNat), ("id", record.deviceId.hex), ("nm", record.name)]

section Parsing

variable [TextCodecs]

/-- What has been read from the pairs so far. -/
@[ext]
structure Fields where
  version : Option UInt8
  deviceId : Option DeviceId
  name : String

/-- One pair; unknown keys are ignored. -/
def readPair (fields : Fields) (k v : String) : Except Error Fields :=
  match k with
  | "v" => .ok { fields with version := parseU8 v }
  | "id" =>
    (QrPayload.decodeField TextCodecs.hexDecode 16 "TXT id is not hex" "TXT id must be 16 bytes"
      v).map fun id ↦ { fields with deviceId := some ⟨id⟩ }
  | "nm" => .ok { fields with name := v }
  | _ => .ok fields

/-- The pairs in order; the first error ends the loop. -/
def readPairs : Fields → List (String × String) → Except Error Fields
  | fields, [] => .ok fields
  | fields, (k, v) :: pairs =>
    match readPair fields k v with
    | .error failure => .error failure
    | .ok fields => readPairs fields pairs

/-- The checks behind the loop. -/
def finish (fields : Fields) : Except Error TxtRecord :=
  match fields.version with
  | none => .error (.cbor "TXT missing v")
  | some version =>
  if version ≠ protocolVersion then
    .error (.cbor s!"TXT unsupported version {version.toNat}")
  else
  match fields.deviceId with
  | none => .error (.cbor "TXT missing id")
  | some deviceId => .ok { version, deviceId, name := fields.name }

def parse (pairs : List (String × String)) : Except Error TxtRecord :=
  match readPairs ⟨none, none, ""⟩ pairs with
  | .error failure => .error failure
  | .ok fields => finish fields

end Parsing

/-! ## Pairs in any order -/

/-- The keys that are read. -/
def keys : List String := ["v", "id", "nm"]

/-- The fields once the pairs of the record under these keys have been read. -/
def merged (record : TxtRecord) (read : List String) (fields : Fields) : Fields where
  version := if "v" ∈ read then some record.version else fields.version
  deviceId := if "id" ∈ read then some record.deviceId else fields.deviceId
  name := if "nm" ∈ read then record.name else fields.name

theorem merged_merged (record : TxtRecord) (key : String) (read : List String) (fields : Fields) :
    record.merged read (record.merged [key] fields) = record.merged (key :: read) fields := by
  have hselect {α : Type} (name : String) (stored old : α) :
      (if name ∈ read then stored else if name ∈ [key] then stored else old) =
        if name ∈ key :: read then stored else old := by
    simp only [List.mem_cons]
    split_ifs <;> simp_all
  exact Fields.ext (hselect _ _ _) (hselect _ _ _) (hselect _ _ _)

/-- A pair of the record, or one that is ignored. -/
def Listed (record : TxtRecord) (pair : String × String) : Prop :=
  pair ∈ record.toPairs ∨ pair.1 ∉ keys

section Insensitivity

variable [TextCodecs] [TextCodecs.Lawful] {record : TxtRecord}

theorem readPair_listed (hversion : record.version = protocolVersion) (fields : Fields)
    {pair : String × String} (h : record.Listed pair) :
    readPair fields pair.1 pair.2 = .ok (record.merged [pair.1] fields) := by
  obtain ⟨k, v⟩ := pair
  obtain hpair | hignored := h
  · simp only [toPairs, List.mem_cons, Prod.mk.injEq, List.not_mem_nil, or_false] at hpair
    obtain ⟨rfl, rfl⟩ | ⟨rfl, rfl⟩ | ⟨rfl, rfl⟩ := hpair
    · have hparsed : parseU8 (toString protocolVersion.toNat) = some protocolVersion := by decide
      rw [readPair, hversion, hparsed, ← hversion]
      simp [merged]
    · have hhex : TextCodecs.hexDecode record.deviceId.hex = .ok record.deviceId.bytes.toList :=
        TextCodecs.Lawful.hexDecode_hexEncode _
      rw [readPair, QrPayload.decodeField, hhex]
      simp [merged, Except.map]
    · simp [readPair, merged]
  · simp only [keys, List.mem_cons, List.not_mem_nil, or_false, not_or] at hignored
    obtain ⟨hv, hid, hnm⟩ := hignored
    have hunread : readPair fields k v = .ok fields := by
      unfold readPair
      split <;> simp_all
    rw [hunread]
    simp [merged, Ne.symm hv, Ne.symm hid, Ne.symm hnm]

theorem readPairs_listed (hversion : record.version = protocolVersion) (fields : Fields)
    {pairs : List (String × String)} (h : ∀ pair ∈ pairs, record.Listed pair) :
    readPairs fields pairs = .ok (record.merged (pairs.map Prod.fst) fields) := by
  induction pairs generalizing fields with
  | nil => rfl
  | cons pair pairs ih =>
    have hpair := readPair_listed hversion fields (h pair List.mem_cons_self)
    have hpairs := ih (record.merged [pair.1] fields)
      fun other hmem ↦ h other (List.mem_cons_of_mem _ hmem)
    simp only [readPairs, hpair, hpairs, merged_merged, List.map_cons]

/-- A record is parsed from its pairs, whatever their order and whatever else is listed. -/
theorem parse_listed (hversion : record.version = protocolVersion)
    {pairs : List (String × String)} (h : ∀ pair ∈ pairs, record.Listed pair)
    (hcomplete : ∀ pair ∈ record.toPairs, pair ∈ pairs) : parse pairs = .ok record := by
  have hread : ∀ key ∈ keys, key ∈ pairs.map Prod.fst := by
    intro key hkey
    have hkeys : keys = record.toPairs.map Prod.fst := rfl
    rw [hkeys] at hkey
    obtain ⟨pair, hmem, rfl⟩ := List.mem_map.mp hkey
    exact List.mem_map_of_mem (hcomplete pair hmem)
  have hmerged : record.merged (pairs.map Prod.fst) ⟨none, none, ""⟩ =
      ⟨some record.version, some record.deviceId, record.name⟩ := by
    rw [merged, if_pos (hread "v" (by simp [keys])), if_pos (hread "id" (by simp [keys])),
      if_pos (hread "nm" (by simp [keys]))]
  rw [parse, readPairs_listed hversion _ h, hmerged]
  simp only [finish, hversion, ne_eq, not_true_eq_false, if_false]
  rw [← hversion]

end Insensitivity

end TxtRecord

/-- A name is kept as far as whole characters of it fit, and the record made with it is parsed from its
pairs in any order, among pairs with other keys. -/
theorem discovery_record [TextCodecs] [TextCodecs.Lawful] (deviceId : DeviceId) (name : String) :
    ∃ kept, truncateName name = some kept ∧ LongestPrefix name maxNameBytes kept ∧
      ((utf8 name).length ≤ maxNameBytes → kept = name) ∧
      (maxNameBytes < (utf8 name).length → 29 ≤ (utf8 kept).length) ∧
      ∃ record, TxtRecord.new deviceId name = some record ∧
        ∀ others pairs : List (String × String),
          (∀ pair ∈ others, pair.1 ≠ "v" ∧ pair.1 ≠ "id" ∧ pair.1 ≠ "nm") →
          pairs.Perm (record.toPairs ++ others) → TxtRecord.parse pairs = .ok record := by
  obtain ⟨kept, hkept, hlongest⟩ := truncateName_longest name
  have hnew : TxtRecord.new deviceId name = some ⟨protocolVersion, deviceId, kept⟩ := by
    rw [TxtRecord.new, hkept, Option.map_some]
  refine ⟨kept, hkept, hlongest, ?_, ?_, _, hnew, ?_⟩
  · intro hfits
    rw [truncateName, if_pos hfits] at hkept
    exact (Option.some.inj hkept).symm
  · intro hlong
    have hcut := hlongest.lt_length hlong
    rw [maxNameBytes] at hcut
    omega
  · intro others pairs hothers hperm
    apply TxtRecord.parse_listed rfl
    · intro pair hmem
      obtain hpair | hother := List.mem_append.mp (hperm.mem_iff.mp hmem)
      · exact .inl hpair
      · exact .inr (by simpa [TxtRecord.keys] using hothers pair hother)
    · intro pair hmem
      exact hperm.mem_iff.mpr (List.mem_append_left _ hmem)

open Reference in
/-- Nine emoji do not fit: eight are kept, and the shuffled record is parsed. -/
theorem discovery_record_emoji :
    ∃ record, TxtRecord.new phoneIdentity.deviceId "🚀🚀🚀🚀🚀🚀🚀🚀🚀" = some record ∧
      29 ≤ (utf8 record.name).length ∧
      TxtRecord.parse (("x", "1") :: record.toPairs.reverse) = .ok record := by
  obtain ⟨kept, hkept, -, -, hlong, record, hnew, hparse⟩ :=
    discovery_record phoneIdentity.deviceId "🚀🚀🚀🚀🚀🚀🚀🚀🚀"
  have hname : record.name = kept := by
    rw [TxtRecord.new, hkept] at hnew
    cases hnew
    rfl
  refine ⟨record, hnew, hname ▸ hlong (by decide), hparse [("x", "1")] _ (by simp) ?_⟩
  exact ((List.reverse_perm record.toPairs).cons _).trans (List.perm_append_singleton _ _).symm

end AirClip
