import AirClip.Core.Reference

/-!
# The map layer

What may be relied on of `MapBuilder` and `MapReader` alone.  A map of any length is read exactly if
its keys are distinct integers, of whatever sign and size; what an accessor returns depends on the
pairs of the map and not on their order; and what a builder has been given is there when its encoding
is read back.
-/

open Foundation Cbor

namespace AirClip

namespace MapReader

/-! ## Accessors -/

/-- Every accessor succeeds exactly on what is stored under its key with the type, the width and the
range it asks for. -/
structure Reads (reader : MapReader) (pairs : List (Value × Value)) : Prop where
  bytes : ∀ key b, reader.bytes key = .ok b ↔ (.integer key.toNat, .bytes b) ∈ pairs
  byteArray : ∀ width key (array : Octets width),
    reader.byteArray width key = .ok array ↔ (.integer key.toNat, .bytes array.toList) ∈ pairs
  text : ∀ key content, reader.text key = .ok content ↔ (.integer key.toNat, .text content) ∈ pairs
  u64 : ∀ key (value : UInt64),
    reader.u64 key = .ok value ↔ (.integer key.toNat, .integer value.toNat) ∈ pairs
  array : ∀ key items, reader.array key = .ok items ↔ (.integer key.toNat, .array items) ∈ pairs
  has : ∀ key, reader.has key = true ↔ ∃ v, (.integer key.toNat, v) ∈ pairs

/-- Every accessor has the same result on both, be it a value or an error. -/
structure Agrees (left right : MapReader) : Prop where
  bytes : ∀ key, left.bytes key = right.bytes key
  byteArray : ∀ width key, left.byteArray width key = right.byteArray width key
  text : ∀ key, left.text key = right.text key
  u64 : ∀ key, left.u64 key = right.u64 key
  array : ∀ key, left.array key = right.array key
  has : ∀ key, left.has key = right.has key

theorem mem_integerMap {entries : List (ℤ × Value)} {key : ℤ} {v : Value} :
    (.integer key, v) ∈ entries.map (fun entry ↦ (Value.integer entry.1, entry.2)) ↔
      (key, v) ∈ entries := by
  simp

theorem reads_of_fromValue {pairs : List (Value × Value)} {reader : MapReader}
    (h : fromValue (.map pairs) = .ok reader) : reader.Reads pairs := by
  have hpairs : pairs = reader.entries.map fun entry ↦ (.integer entry.1, entry.2) :=
    Value.map.inj (fromValue_eq_ok.mp h)
  subst hpairs
  exact {
    bytes := fun key b ↦ reader.bytes_eq_ok.trans mem_integerMap.symm
    byteArray := fun width key array ↦ reader.byteArray_eq_ok.trans mem_integerMap.symm
    text := fun key content ↦ reader.text_eq_ok.trans mem_integerMap.symm
    u64 := fun key value ↦ reader.u64_eq_ok.trans mem_integerMap.symm
    array := fun key items ↦ reader.array_eq_ok.trans mem_integerMap.symm
    has := fun key ↦ reader.has_eq_true.trans (exists_congr fun v ↦ mem_integerMap.symm) }

/-! ## Which maps are read -/

/-- The keys are integers, and no two of them are equal. -/
def ReadableKeys (pairs : List (Value × Value)) : Prop :=
  (∀ pair ∈ pairs, ∃ key, pair.1 = .integer key) ∧ (pairs.map Prod.fst).Nodup

theorem exists_entries {pairs : List (Value × Value)}
    (h : ∀ pair ∈ pairs, ∃ key, pair.1 = .integer key) :
    ∃ entries : List (ℤ × Value),
      pairs = entries.map fun entry ↦ (Value.integer entry.1, entry.2) := by
  induction pairs with
  | nil => exact ⟨[], rfl⟩
  | cons pair pairs ih =>
    obtain ⟨key, hkey⟩ := h pair List.mem_cons_self
    obtain ⟨entries, rfl⟩ := ih fun other hmem ↦ h other (List.mem_cons_of_mem _ hmem)
    exact ⟨(key, pair.2) :: entries, by rw [List.map_cons, ← hkey]⟩

theorem nodup_integer_keys {entries : List (ℤ × Value)} :
    ((entries.map fun entry ↦ (Value.integer entry.1, entry.2)).map Prod.fst).Nodup ↔
      (entries.map Prod.fst).Nodup := by
  have hkeys : (entries.map fun entry ↦ (Value.integer entry.1, entry.2)).map Prod.fst =
      (entries.map Prod.fst).map Value.integer := by simp [Function.comp_def]
  rw [hkeys, List.nodup_map_iff fun left right ↦ Value.integer.inj]

theorem exists_fromValue_iff {pairs : List (Value × Value)} :
    (∃ reader, fromValue (.map pairs) = .ok reader) ↔ ReadableKeys pairs := by
  constructor
  · rintro ⟨reader, h⟩
    have hpairs : pairs = reader.entries.map fun entry ↦ (.integer entry.1, entry.2) :=
      Value.map.inj (fromValue_eq_ok.mp h)
    subst hpairs
    refine ⟨?_, nodup_integer_keys.mpr reader.nodup_keys⟩
    intro pair hmem
    obtain ⟨entry, -, rfl⟩ := List.mem_map.mp hmem
    exact ⟨entry.1, rfl⟩
  · rintro ⟨hkeys, hnodup⟩
    obtain ⟨entries, rfl⟩ := exists_entries hkeys
    exact ⟨_, fromValue_integerMap entries (nodup_integer_keys.mp hnodup)⟩

theorem ReadableKeys.perm {pairs pairs' : List (Value × Value)} (h : ReadableKeys pairs)
    (hperm : pairs'.Perm pairs) : ReadableKeys pairs' :=
  ⟨fun pair hmem ↦ h.1 pair (hperm.subset hmem), (hperm.map _).nodup_iff.mpr h.2⟩

/-! ## Order -/

/-- Two orders of the same entries hold the same value under every key. -/
theorem get_perm {left right : MapReader} (hperm : left.entries.Perm right.entries) (key : UInt64) :
    left.get key = right.get key := by
  unfold get
  cases hright : right.entries.lookup (key.toNat : ℤ) with
  | some v =>
    have hmem := hperm.mem_iff.mpr (mem_of_lookup hright)
    rw [lookup_of_mem left.nodup_keys hmem]
  | none =>
    cases hleft : left.entries.lookup (key.toNat : ℤ) with
    | some v =>
      have hmem := hperm.mem_iff.mp (mem_of_lookup hleft)
      rw [lookup_of_mem right.nodup_keys hmem] at hright
      cases hright
    | none => rfl

theorem agrees_of_perm {left right : MapReader} (hperm : left.entries.Perm right.entries) :
    left.Agrees right := by
  have hget := get_perm hperm
  have hbytes (key : UInt64) : left.bytes key = right.bytes key := by rw [bytes, bytes, hget]
  exact {
    bytes := hbytes
    byteArray := fun width key ↦ by rw [byteArray, byteArray, hbytes]
    text := fun key ↦ by rw [text, text, hget]
    u64 := fun key ↦ by rw [u64, u64, hget]
    array := fun key ↦ by rw [array, array, hget]
    has := fun key ↦ decide_eq_decide.mpr (hperm.map Prod.fst).mem_iff }

theorem perm_of_integerMap {left right : List (ℤ × Value)}
    (h : (left.map fun entry ↦ (Value.integer entry.1, entry.2)).Perm
      (right.map fun entry ↦ (Value.integer entry.1, entry.2))) : left.Perm right := by
  have hinjective : Function.Injective fun entry : ℤ × Value ↦ (Value.integer entry.1, entry.2) := by
    rintro ⟨key, v⟩ ⟨key', v'⟩ heq
    cases heq
    rfl
  exact (List.map_perm_map_iff hinjective).mp h

theorem fromValue_perm {pairs pairs' : List (Value × Value)} {reader : MapReader}
    (h : fromValue (.map pairs) = .ok reader) (hperm : pairs'.Perm pairs) :
    ∃ reader', fromValue (.map pairs') = .ok reader' ∧ reader'.Agrees reader := by
  obtain ⟨reader', h'⟩ := exists_fromValue_iff.mpr ((exists_fromValue_iff.mp ⟨reader, h⟩).perm hperm)
  have hpairs := Value.map.inj (fromValue_eq_ok.mp h)
  have hpairs' := Value.map.inj (fromValue_eq_ok.mp h')
  rw [hpairs, hpairs'] at hperm
  exact ⟨reader', h', agrees_of_perm (perm_of_integerMap hperm)⟩

end MapReader

/-! ## Reading back what was built -/

/-- A call of one of the methods that add an entry. -/
inductive MapBuilder.Call where
  | bytes (key : UInt64) (v : Bytes)
  | text (key : UInt64) (v : String)
  | u64 (key v : UInt64)
  | array (key : UInt64) (v : List Value)
  | value (key : UInt64) (v : Value)

namespace MapBuilder

def Call.key : Call → UInt64
  | .bytes key _ | .text key _ | .u64 key _ | .array key _ | .value key _ => key

/-- The value the call puts under its key. -/
def Call.stored : Call → Value
  | .bytes _ v => .bytes v
  | .text _ v => .text v
  | .u64 _ v => .integer v.toNat
  | .array _ v => .array v
  | .value _ v => v

def Call.run (builder : MapBuilder) : Call → MapBuilder
  | .bytes key v => builder.bytes key v
  | .text key v => builder.text key v
  | .u64 key v => builder.u64 key v
  | .array key v => builder.array key v
  | .value key v => builder.value key v

/-- The builder after these calls, made on a new one. -/
def ofCalls (calls : List Call) : MapBuilder := calls.foldl Call.run .new

theorem entries_run (builder : MapBuilder) (call : Call) :
    (call.run builder).entries = builder.entries ++ [(.integer call.key.toNat, call.stored)] := by
  cases call <;> rfl

theorem entries_foldl (calls : List Call) (builder : MapBuilder) :
    (calls.foldl Call.run builder).entries =
      builder.entries ++ calls.map fun call ↦ (.integer call.key.toNat, call.stored) := by
  induction calls generalizing builder with
  | nil => simp
  | cons call calls ih => rw [List.foldl_cons, ih, entries_run, List.append_assoc]; rfl

theorem entries_ofCalls (calls : List Call) :
    (ofCalls calls).entries = calls.map fun call ↦ (.integer call.key.toNat, call.stored) :=
  entries_foldl calls .new

theorem readableKeys_ofCalls {calls : List Call} (hnodup : (calls.map Call.key).Nodup) :
    MapReader.ReadableKeys (ofCalls calls).entries := by
  rw [entries_ofCalls]
  constructor
  · intro pair hmem
    obtain ⟨call, -, rfl⟩ := List.mem_map.mp hmem
    exact ⟨_, rfl⟩
  · have hkeys : (calls.map fun call ↦ (Value.integer call.key.toNat, call.stored)).map Prod.fst =
        (calls.map Call.key).map fun key ↦ Value.integer key.toNat := by simp
    rw [hkeys]
    refine hnodup.map ?_
    intro left right heq
    exact UInt64.toNat_inj.mp (by exact_mod_cast Value.integer.inj heq)

end MapBuilder

namespace MapReader

/-- The accessor for the type of the call returns what the call has put in. -/
def Returns (reader : MapReader) : MapBuilder.Call → Prop
  | .bytes key v => reader.bytes key = .ok v
  | .text key v => reader.text key = .ok v
  | .u64 key v => reader.u64 key = .ok v
  | .array key v => reader.array key = .ok v
  | .value key v => reader.get key = .ok v

theorem returns_of_fromValue {calls : List MapBuilder.Call} {reader : MapReader}
    (h : fromValue (MapBuilder.ofCalls calls).build = .ok reader) {call : MapBuilder.Call}
    (hcall : call ∈ calls) : reader.Returns call := by
  have hpairs : (MapBuilder.ofCalls calls).entries =
      reader.entries.map fun entry ↦ (.integer entry.1, entry.2) :=
    Value.map.inj (fromValue_eq_ok.mp h)
  have hstored : ((call.key.toNat : ℤ), call.stored) ∈ reader.entries := by
    rw [← mem_integerMap, ← hpairs, MapBuilder.entries_ofCalls]
    exact List.mem_map_of_mem hcall
  cases call with
  | bytes => exact reader.bytes_eq_ok.mpr hstored
  | text => exact reader.text_eq_ok.mpr hstored
  | u64 => exact reader.u64_eq_ok.mpr hstored
  | array => exact reader.array_eq_ok.mpr hstored
  | value => exact reader.get_eq_ok.mpr hstored

/-- `ciborium` decodes its own encodings of the value. -/
def DecodesOwn [Ciborium] (v : Value) : Prop :=
  ∀ {out}, Ciborium.intoWriter v = .ok out → Ciborium.fromReader out = .ok v

theorem fromSlice_of_toVec [Ciborium] {builder : MapBuilder} {out : Bytes}
    (hown : DecodesOwn builder.build) (hout : builder.toVec = .ok out) :
    fromSlice out = fromValue builder.build := by
  have hwritten : Ciborium.intoWriter builder.build = .ok out := by
    unfold MapBuilder.toVec at hout
    split at hout
    · next hwritten =>
      cases hout
      exact hwritten
    · cases hout
  rw [fromSlice, hown hwritten]

/-- Maps are read exactly if their keys are distinct integers; the accessors return what is stored
whatever the order of the pairs is; and what was put into a builder is read back. -/
theorem map_layer [Ciborium] (pairs : List (Value × Value)) (calls : List MapBuilder.Call) :
    ((∃ reader, fromValue (.map pairs) = .ok reader) ↔
      (∀ pair ∈ pairs, ∃ key, pair.1 = .integer key) ∧ (pairs.map Prod.fst).Nodup) ∧
    (∀ reader, fromValue (.map pairs) = .ok reader → reader.Reads pairs ∧
      ∀ pairs', pairs'.Perm pairs →
        ∃ reader', fromValue (.map pairs') = .ok reader' ∧ reader'.Agrees reader) ∧
    ((calls.map MapBuilder.Call.key).Nodup → DecodesOwn (MapBuilder.ofCalls calls).build →
      ∀ out, (MapBuilder.ofCalls calls).toVec = .ok out →
        ∃ reader, fromSlice out = .ok reader ∧ reader.Reads (MapBuilder.ofCalls calls).entries ∧
          ∀ call ∈ calls, reader.Returns call) := by
  refine ⟨exists_fromValue_iff, ?_, ?_⟩
  · intro reader h
    exact ⟨reads_of_fromValue h, fun pairs' hperm ↦ fromValue_perm h hperm⟩
  · intro hnodup hown out hout
    obtain ⟨reader, h⟩ := exists_fromValue_iff.mpr (MapBuilder.readableKeys_ofCalls hnodup)
    refine ⟨reader, (fromSlice_of_toVec hown hout).trans h, reads_of_fromValue h, ?_⟩
    intro call hcall
    exact returns_of_fromValue h hcall

end MapReader

namespace Reference

def pairedCalls : List MapBuilder.Call :=
  [.bytes 1 [1, 2, 3], .text 2 "phone", .u64 3 42, .array 4 [.null]]

theorem plain_pairedCalls : Plain 8 (MapBuilder.ofCalls pairedCalls).build := by
  have htext : (utf8 "phone").length = 5 := by decide
  rw [MapBuilder.build, MapBuilder.entries_ofCalls]
  simp [pairedCalls, Plain, MapBuilder.Call.key, MapBuilder.Call.stored, htext]

end Reference

open Reference in
/-- A map with a negative key and one beyond 64 bits is read, and a built one is read back. -/
theorem map_layer_paired :
    (∃ reader, MapReader.fromValue
      (.map [(.integer (-7), .null), (.integer (2 ^ 64), .bool true)]) = .ok reader) ∧
    ∃ reader, MapReader.fromSlice (encode (MapBuilder.ofCalls pairedCalls).build) = .ok reader ∧
      reader.bytes 1 = .ok [1, 2, 3] ∧ reader.text 2 = .ok "phone" ∧ reader.u64 3 = .ok 42 := by
  obtain ⟨hread, -, hback⟩ := MapReader.map_layer
    [(.integer (-7), .null), (.integer (2 ^ 64), .bool true)] pairedCalls
  obtain ⟨reader, hslice, -, hreturns⟩ := hback (by decide)
    (by rintro out ⟨⟩; exact Ciborium.Lawful.fromReader_encode plain_pairedCalls) _ rfl
  refine ⟨hread.mpr ⟨by simp, by simp⟩, reader, hslice, ?_, ?_, ?_⟩
  · exact hreturns (.bytes 1 [1, 2, 3]) (by simp [pairedCalls])
  · exact hreturns (.text 2 "phone") (by simp [pairedCalls])
  · exact hreturns (.u64 3 42) (by simp [pairedCalls])

end AirClip
