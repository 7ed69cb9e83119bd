import AirClip.Core.Protocol
import AirClip.Foundation.Cbor

/-!
# Integer-keyed CBOR maps

Every payload is a CBOR map with integer keys.  `MapBuilder` collects its entries and
`MapReader` reads one back with typed accessors: a duplicate key or a key that is not an integer
makes the payload malformed, a missing key or a value of the wrong type is an error and never a
default.  The codec itself is the `ciborium` crate and stays a parameter.
-/

open Foundation Cbor

namespace AirClip

/-- The two entry points of the `ciborium` crate. -/
class Ciborium where
  intoWriter : Value → Except String Bytes
  fromReader : Bytes → Except String Value

/-- On the items this program builds, `ciborium` writes the shortest-form definite-length encoding
and reads back what it wrote. -/
class Ciborium.Lawful [Ciborium] : Prop where
  intoWriter_plain : ∀ {value}, Plain 8 value → Ciborium.intoWriter value = .ok (encode value)
  fromReader_encode : ∀ {value}, Plain 8 value → Ciborium.fromReader (encode value) = .ok value

/-- The CBOR map with the given integer keys. -/
def integerMap (entries : List (ℤ × Value)) : Value :=
  .map (entries.map fun entry ↦ (.integer entry.1, entry.2))

/-- A map is as long as its values, and little more. -/
theorem encode_integerMap_length_le (entries : List (ℤ × Value)) :
    (encode (integerMap entries)).length ≤
      9 + (entries.map fun entry ↦ 9 + (encode entry.2).length).sum := by
  have hentries (entries : List (ℤ × Value)) :
      (encodeEntries (entries.map fun entry ↦ (.integer entry.1, entry.2))).length ≤
        (entries.map fun entry ↦ 9 + (encode entry.2).length).sum := by
    induction entries with
    | nil => simp [encodeEntries]
    | cons entry entries ih =>
      have hkey := encode_integer_length_le entry.1
      rw [List.map_cons, encodeEntries, List.map_cons, List.sum_cons]
      simp only [List.length_append]
      omega
  rw [integerMap, encode, List.length_append]
  exact Nat.add_le_add (head_length_le _ _) (hentries entries)

/-! ## Building -/

structure MapBuilder where
  entries : List (Value × Value)

namespace MapBuilder

def new : MapBuilder := ⟨[]⟩

def value (builder : MapBuilder) (key : UInt64) (v : Value) : MapBuilder :=
  ⟨builder.entries ++ [(.integer key.toNat, v)]⟩

def bytes (builder : MapBuilder) (key : UInt64) (v : Bytes) : MapBuilder :=
  builder.value key (.bytes v)

def text (builder : MapBuilder) (key : UInt64) (v : String) : MapBuilder :=
  builder.value key (.text v)

def u64 (builder : MapBuilder) (key v : UInt64) : MapBuilder :=
  builder.value key (.integer v.toNat)

def array (builder : MapBuilder) (key : UInt64) (v : List Value) : MapBuilder :=
  builder.value key (.array v)

def build (builder : MapBuilder) : Value := .map builder.entries

def toVec [Ciborium] (builder : MapBuilder) : Except Error Bytes :=
  match Ciborium.intoWriter builder.build with
  | .ok out => .ok out
  | .error message => .error (.cbor message)

end MapBuilder

/-! ## Reading -/

/-- The entries of a decoded map, each key at most once. -/
structure MapReader where
  entries : List (ℤ × Value)
  nodup_keys : (entries.map Prod.fst).Nodup

namespace MapReader

/-- Collect pairs in order; the first bad pair decides the error. -/
def collect : List (Value × Value) → List (ℤ × Value) → Except Error (List (ℤ × Value))
  | [], entries => .ok entries
  | (.integer key, v) :: pairs, entries =>
    if key ∈ entries.map Prod.fst then .error (.cbor "duplicate map key")
    else collect pairs (entries ++ [(key, v)])
  | _ :: _, _ => .error (.cbor "map keys must be integers")

theorem collect_nodup (pairs : List (Value × Value)) (entries : List (ℤ × Value))
    {result : List (ℤ × Value)} (hnodup : (entries.map Prod.fst).Nodup)
    (h : collect pairs entries = .ok result) : (result.map Prod.fst).Nodup := by
  induction pairs, entries using collect.induct with
  | case1 entries =>
    cases h
    exact hnodup
  | case2 key v pairs entries hmem =>
    rw [collect, if_pos hmem] at h
    cases h
  | case3 key v pairs entries hmem ih =>
    rw [collect, if_neg hmem] at h
    refine ih ?_ h
    rw [List.map_append, List.nodup_append]
    refine ⟨hnodup, by simp, ?_⟩
    intro left hleft right hright heq
    rw [List.map_singleton, List.mem_singleton] at hright
    rw [heq, hright] at hleft
    exact hmem hleft
  | case4 pair pairs entries hkey =>
    obtain ⟨key, v⟩ := pair
    cases key <;> first | exact absurd rfl (hkey _ _) | cases h

def fromValue (v : Value) : Except Error MapReader :=
  match v with
  | .map pairs =>
    match h : collect pairs [] with
    | .ok entries => .ok ⟨entries, collect_nodup pairs [] List.nodup_nil h⟩
    | .error failure => .error failure
  | _ => .error (.cbor "expected a CBOR map")

def fromSlice [Ciborium] (bytes : Bytes) : Except Error MapReader :=
  match Ciborium.fromReader bytes with
  | .ok v => fromValue v
  | .error message => .error (.cbor message)

def get (reader : MapReader) (key : UInt64) : Except Error Value :=
  match reader.entries.lookup (key.toNat : ℤ) with
  | some v => .ok v
  | none => .error (.cbor s!"missing key {key}")

def bytes (reader : MapReader) (key : UInt64) : Except Error Bytes :=
  match reader.get key with
  | .error failure => .error failure
  | .ok (.bytes b) => .ok b
  | .ok _ => .error (.cbor s!"key {key} is not bytes")

/-- Fixed-width byte field. -/
def byteArray (reader : MapReader) (width : ℕ) (key : UInt64) : Except Error (Octets width) :=
  match reader.bytes key with
  | .error failure => .error failure
  | .ok b =>
    match Octets.ofBytes? width b with
    | some array => .ok array
    | none => .error (.cbor s!"key {key} must be {width} bytes, got {b.length}")

def text (reader : MapReader) (key : UInt64) : Except Error String :=
  match reader.get key with
  | .error failure => .error failure
  | .ok (.text s) => .ok s
  | .ok _ => .error (.cbor s!"key {key} is not text")

def u64 (reader : MapReader) (key : UInt64) : Except Error UInt64 :=
  match reader.get key with
  | .error failure => .error failure
  | .ok (.integer i) =>
    if 0 ≤ i ∧ i < 2 ^ 64 then .ok (UInt64.ofNat i.toNat)
    else .error (.cbor s!"key {key} out of u64 range")
  | .ok _ => .error (.cbor s!"key {key} is not an integer")

def array (reader : MapReader) (key : UInt64) : Except Error (List Value) :=
  match reader.get key with
  | .error failure => .error failure
  | .ok (.array items) => .ok items
  | .ok _ => .error (.cbor s!"key {key} is not an array")

def has (reader : MapReader) (key : UInt64) : Bool :=
  decide ((key.toNat : ℤ) ∈ reader.entries.map Prod.fst)

/-! ## What a reader holds -/

theorem mem_of_lookup {entries : List (ℤ × Value)} {key : ℤ} {v : Value}
    (h : entries.lookup key = some v) : (key, v) ∈ entries := by
  induction entries with
  | nil => cases h
  | cons entry entries ih =>
    obtain ⟨key', v'⟩ := entry
    rw [List.lookup_cons] at h
    by_cases hkey : key = key'
    · subst hkey
      simp only [beq_self_eq_true, Option.some.injEq] at h
      rw [h]
      exact List.mem_cons_self
    · simp only [beq_eq_false_iff_ne.mpr hkey] at h
      exact List.mem_cons_of_mem _ (ih h)

theorem lookup_of_mem {entries : List (ℤ × Value)} {key : ℤ} {v : Value}
    (hnodup : (entries.map Prod.fst).Nodup) (h : (key, v) ∈ entries) :
    entries.lookup key = some v := by
  induction entries with
  | nil => cases h
  | cons entry entries ih =>
    obtain ⟨key', v'⟩ := entry
    rw [List.map_cons, List.nodup_cons] at hnodup
    rw [List.lookup_cons]
    obtain heq | htail := List.mem_cons.mp h
    · cases heq
      simp
    · have hkey : key ≠ key' := by
        rintro rfl
        exact hnodup.1 (List.mem_map.mpr ⟨_, htail, rfl⟩)
      simp only [beq_eq_false_iff_ne.mpr hkey]
      exact ih hnodup.2 htail

/-- A key reads as the value of the one entry it has. -/
theorem get_eq_ok (reader : MapReader) {key : UInt64} {v : Value} :
    reader.get key = .ok v ↔ ((key.toNat : ℤ), v) ∈ reader.entries := by
  unfold get
  constructor
  · intro h
    split at h
    · next hlookup =>
      cases h
      exact mem_of_lookup hlookup
    · cases h
  · intro h
    rw [lookup_of_mem reader.nodup_keys h]

theorem has_eq_true (reader : MapReader) {key : UInt64} :
    reader.has key = true ↔ ∃ v, ((key.toNat : ℤ), v) ∈ reader.entries := by
  simp [has]

theorem bytes_eq_ok (reader : MapReader) {key : UInt64} {b : Bytes} :
    reader.bytes key = .ok b ↔ ((key.toNat : ℤ), .bytes b) ∈ reader.entries := by
  rw [← get_eq_ok, bytes]
  split <;> simp_all

theorem byteArray_eq_ok (reader : MapReader) {width : ℕ} {key : UInt64} {array : Octets width} :
    reader.byteArray width key = .ok array ↔
      ((key.toNat : ℤ), .bytes array.toList) ∈ reader.entries := by
  rw [← bytes_eq_ok, byteArray]
  split
  · simp_all
  · next b hb =>
    rw [hb, Except.ok.injEq, ← Octets.ofBytes?_eq_some]
    split <;> simp_all

theorem text_eq_ok (reader : MapReader) {key : UInt64} {content : String} :
    reader.text key = .ok content ↔ ((key.toNat : ℤ), .text content) ∈ reader.entries := by
  rw [← get_eq_ok, text]
  split <;> simp_all

theorem array_eq_ok (reader : MapReader) {key : UInt64} {items : List Value} :
    reader.array key = .ok items ↔ ((key.toNat : ℤ), .array items) ∈ reader.entries := by
  rw [← get_eq_ok, array]
  split <;> simp_all

theorem u64_eq_ok (reader : MapReader) {key value : UInt64} :
    reader.u64 key = .ok value ↔ ((key.toNat : ℤ), .integer value.toNat) ∈ reader.entries := by
  rw [← get_eq_ok, u64]
  split
  · simp_all
  · next i hi =>
    rw [hi, Except.ok.injEq, Value.integer.injEq]
    split_ifs with hrange
    · rw [Except.ok.injEq]
      constructor
      · rintro rfl
        rw [UInt64.toNat_ofNat_of_lt' (show i.toNat < 2 ^ 64 by omega)]
        omega
      · rintro rfl
        simp
    · simp only [false_iff]
      rintro rfl
      exact hrange ⟨Int.natCast_nonneg _, by exact_mod_cast value.toNat_lt⟩
  · simp_all

/-! ## Reading back what was built -/

theorem collect_integerMap (pairs entries : List (ℤ × Value))
    (hnodup : ((entries ++ pairs).map Prod.fst).Nodup) :
    collect (pairs.map fun pair ↦ (.integer pair.1, pair.2)) entries = .ok (entries ++ pairs) := by
  induction pairs generalizing entries with
  | nil => simp [collect]
  | cons pair pairs ih =>
    have hfresh : pair.1 ∉ entries.map Prod.fst := by
      rw [List.map_append, List.map_cons, List.nodup_append] at hnodup
      exact fun hmem ↦ hnodup.2.2 _ hmem _ List.mem_cons_self rfl
    rw [List.map_cons, collect, if_neg hfresh, ih (entries ++ [pair]) (by simpa using hnodup)]
    simp

/-- Collecting succeeds on integer keys only. -/
theorem collect_eq_ok {pairs : List (Value × Value)} {entries result : List (ℤ × Value)}
    (h : collect pairs entries = .ok result) :
    ∃ more : List (ℤ × Value), pairs = more.map (fun pair ↦ (.integer pair.1, pair.2)) ∧
      result = entries ++ more := by
  induction pairs, entries using collect.induct with
  | case1 entries =>
    cases h
    exact ⟨[], rfl, (List.append_nil _).symm⟩
  | case2 key v pairs entries hmem =>
    rw [collect, if_pos hmem] at h
    cases h
  | case3 key v pairs entries hmem ih =>
    rw [collect, if_neg hmem] at h
    obtain ⟨more, rfl, rfl⟩ := ih h
    exact ⟨(key, v) :: more, rfl, by simp⟩
  | case4 pair pairs entries hkey =>
    obtain ⟨key, v⟩ := pair
    cases key <;> first | exact absurd rfl (hkey _ _) | cases h

theorem fromValue_integerMap (entries : List (ℤ × Value))
    (hnodup : (entries.map Prod.fst).Nodup) :
    fromValue (integerMap entries) = .ok ⟨entries, hnodup⟩ := by
  have hcollect := collect_integerMap entries [] (by simpa using hnodup)
  rw [List.nil_append] at hcollect
  rw [integerMap, fromValue]
  split
  · next h =>
    rw [hcollect] at h
    cases h
    rfl
  · next h =>
    rw [hcollect] at h
    cases h

/-- A reader stands for exactly one map, with integer keys that are all distinct. -/
theorem fromValue_eq_ok {v : Value} {reader : MapReader} :
    fromValue v = .ok reader ↔ v = integerMap reader.entries := by
  constructor
  · intro h
    unfold fromValue at h
    split at h
    · split at h
      · next hcollect =>
        cases h
        obtain ⟨more, rfl, hresult⟩ := collect_eq_ok hcollect
        exact congrArg integerMap hresult.symm
      · cases h
    · cases h
  · rintro rfl
    exact fromValue_integerMap _ reader.nodup_keys

theorem fromSlice_eq_ok [Ciborium] {payload : Bytes} {reader : MapReader} :
    fromSlice payload = .ok reader ↔
      Ciborium.fromReader payload = .ok (integerMap reader.entries) := by
  unfold fromSlice
  split
  · next v hread => rw [fromValue_eq_ok, hread, Except.ok.injEq]
  · next hread => simp [hread]

/-- What a builder with distinct keys writes is read back entry by entry. -/
theorem fromSlice_toVec [Ciborium] [Ciborium.Lawful] {builder : MapBuilder}
    {entries : List (ℤ × Value)} (hbuild : builder.build = integerMap entries)
    (hplain : Plain 8 (integerMap entries)) (hnodup : (entries.map Prod.fst).Nodup) :
    builder.toVec = .ok (encode (integerMap entries)) ∧
      fromSlice (encode (integerMap entries)) = .ok ⟨entries, hnodup⟩ := by
  constructor
  · rw [MapBuilder.toVec, hbuild, Ciborium.Lawful.intoWriter_plain hplain]
  · exact fromSlice_eq_ok.mpr (Ciborium.Lawful.fromReader_encode hplain)

end MapReader

end AirClip
