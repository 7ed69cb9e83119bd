import AirClip.Foundation.Bytes

/-!
# CBOR values

The data items of RFC 8949 with the shortest-form, definite-length encoding, and a decoder for it.
`Plain depth` singles out the items an application builds from integers, byte and text strings,
arrays and maps nested at most `depth` deep and of 64-bit sizes: on these the decoder inverts the
encoder.  Floats are always written at full width, and the decoder does not read them.
-/

namespace Foundation

/-- The UTF-8 bytes of a string. -/
def utf8 (s : String) : Bytes := s.toByteArray.data.toList

@[simp]
theorem utf8_append (left right : String) : utf8 (left ++ right) = utf8 left ++ utf8 right := by
  simp [utf8]

/-- A character takes at most four bytes. -/
theorem length_utf8_ofList_le (chars : List Char) :
    (utf8 (String.ofList chars)).length ≤ 4 * chars.length := by
  induction chars with
  | nil => simp [utf8]
  | cons c chars ih =>
    have hsize : (utf8 (String.singleton c)).length = c.utf8Size := by
      simp [utf8, List.utf8Encode_singleton]
    have hfour := c.utf8Size_le_four
    rw [String.ofList_cons, utf8_append, List.length_append, hsize, List.length_cons]
    omega

/-- The string with these UTF-8 bytes, if they are valid. -/
def ofUtf8? (bytes : Bytes) : Option String := String.fromUTF8? ⟨bytes.toArray⟩

@[simp]
theorem ofUtf8?_utf8 (s : String) : ofUtf8? (utf8 s) = some s := by
  have hbytes : (⟨(utf8 s).toArray⟩ : ByteArray) = s.toByteArray := by simp [utf8]
  rw [ofUtf8?, String.fromUTF8?, dif_pos (hbytes ▸ s.isValidUTF8)]
  congr 1

namespace Cbor

inductive Value where
  | integer (value : ℤ)
  | bytes (content : Bytes)
  | float (bits : UInt64)
  | text (content : String)
  | bool (value : Bool)
  | null
  | tag (tag : UInt64) (content : Value)
  | array (items : List Value)
  | map (entries : List (Value × Value))

/-- A data item head: the major type and its argument in the shortest form. -/
def head (major argument : ℕ) : Bytes :=
  if argument < 24 then [UInt8.ofNat (32 * major + argument)]
  else if argument < 2 ^ 8 then UInt8.ofNat (32 * major + 24) :: beBytes 1 argument
  else if argument < 2 ^ 16 then UInt8.ofNat (32 * major + 25) :: beBytes 2 argument
  else if argument < 2 ^ 32 then UInt8.ofNat (32 * major + 26) :: beBytes 4 argument
  else UInt8.ofNat (32 * major + 27) :: beBytes 8 argument

theorem head_length (major argument : ℕ) : (head major argument).length ∈ [1, 2, 3, 5, 9] := by
  unfold head
  split_ifs <;> simp

mutual

def encode : Value → Bytes
  | .integer value => if 0 ≤ value then head 0 value.toNat else head 1 (-1 - value).toNat
  | .bytes content => head 2 content.length ++ content
  | .float bits => 0xFB :: beBytes 8 bits.toNat
  | .text content => head 3 (utf8 content).length ++ utf8 content
  | .bool value => [if value then 0xF5 else 0xF4]
  | .null => [0xF6]
  | .tag tag content => head 6 tag.toNat ++ encode content
  | .array items => head 4 items.length ++ encodeItems items
  | .map entries => head 5 entries.length ++ encodeEntries entries

def encodeItems : List Value → Bytes
  | [] => []
  | item :: items => encode item ++ encodeItems items

def encodeEntries : List (Value × Value) → Bytes
  | [] => []
  | (key, value) :: entries => encode key ++ encode value ++ encodeEntries entries

end

theorem head_length_le (major argument : ℕ) : (head major argument).length ≤ 9 := by
  have hlength := head_length major argument
  simp only [List.mem_cons, List.not_mem_nil, or_false] at hlength
  omega

theorem encode_integer_length_le (value : ℤ) : (encode (.integer value)).length ≤ 9 := by
  rw [encode]
  split_ifs <;> exact head_length_le _ _

theorem encode_bytes_length_le (content : Bytes) :
    (encode (.bytes content)).length ≤ 9 + content.length := by
  rw [encode, List.length_append]
  exact Nat.add_le_add_right (head_length_le _ _) _

theorem encode_text_length_le (content : String) :
    (encode (.text content)).length ≤ 9 + (utf8 content).length := by
  rw [encode, List.length_append]
  exact Nat.add_le_add_right (head_length_le _ _) _

theorem encodeItems_length_le {items : List Value} {bound : ℕ}
    (h : ∀ item ∈ items, (encode item).length ≤ bound) :
    (encodeItems items).length ≤ items.length * bound := by
  induction items with
  | nil => simp [encodeItems]
  | cons item items ih =>
    have hitem := h item List.mem_cons_self
    have hitems := ih fun other hmem ↦ h other (List.mem_cons_of_mem _ hmem)
    rw [encodeItems, List.length_append, List.length_cons, Nat.succ_mul]
    omega

/-- Items nested at most `depth` deep, built from integers of 64-bit magnitude and strings, arrays
and maps of 64-bit sizes. -/
def Plain : ℕ → Value → Prop
  | 0, _ => False
  | _ + 1, .integer value => -2 ^ 64 ≤ value ∧ value < 2 ^ 64
  | _ + 1, .bytes content => content.length < 2 ^ 64
  | _ + 1, .float _ => False
  | _ + 1, .text content => (utf8 content).length < 2 ^ 64
  | _ + 1, .bool _ => True
  | _ + 1, .null => True
  | _ + 1, .tag _ _ => False
  | depth + 1, .array items => items.length < 2 ^ 64 ∧ ∀ item ∈ items, Plain depth item
  | depth + 1, .map entries => entries.length < 2 ^ 64 ∧
      ∀ entry ∈ entries, Plain depth entry.1 ∧ Plain depth entry.2

/-! ## Decoding -/

def argumentWidth : ℕ → Option ℕ
  | 24 => some 1
  | 25 => some 2
  | 26 => some 4
  | 27 => some 8
  | _ => none

/-- Split off a data item head: major type, argument and the bytes behind them. -/
def readHead : Bytes → Option (ℕ × ℕ × Bytes)
  | [] => none
  | first :: rest =>
    if first.toNat % 32 < 24 then some (first.toNat / 32, first.toNat % 32, rest)
    else
      match argumentWidth (first.toNat % 32) with
      | none => none
      | some width =>
        if rest.length < width then none
        else some (first.toNat / 32, beNat (rest.take width), rest.drop width)

/-- Read `count` things with `read`, one behind the other. -/
def readMany {α : Type} (read : Bytes → Option (α × Bytes)) : ℕ → Bytes → Option (List α × Bytes)
  | 0, bytes => some ([], bytes)
  | count + 1, bytes =>
    match read bytes with
    | none => none
    | some (item, rest) =>
      match readMany read count rest with
      | none => none
      | some (items, rest) => some (item :: items, rest)

def readPair {α : Type} (read : Bytes → Option (α × Bytes)) (bytes : Bytes) :
    Option ((α × α) × Bytes) :=
  match read bytes with
  | none => none
  | some (first, rest) =>
    match read rest with
    | none => none
    | some (second, rest) => some ((first, second), rest)

/-- Decode one item nested at most `depth` deep, with the bytes behind it. -/
def decodeItem : ℕ → Bytes → Option (Value × Bytes)
  | 0, _ => none
  | depth + 1, bytes =>
    match readHead bytes with
    | some (0, argument, rest) => some (.integer argument, rest)
    | some (1, argument, rest) => some (.integer (-1 - argument), rest)
    | some (2, argument, rest) =>
      if rest.length < argument then none
      else some (.bytes (rest.take argument), rest.drop argument)
    | some (3, argument, rest) =>
      if rest.length < argument then none
      else (ofUtf8? (rest.take argument)).map fun content ↦ (.text content, rest.drop argument)
    | some (4, argument, rest) =>
      (readMany (decodeItem depth) argument rest).map fun (items, rest) ↦ (.array items, rest)
    | some (5, argument, rest) =>
      (readMany (readPair (decodeItem depth)) argument rest).map
        fun (entries, rest) ↦ (.map entries, rest)
    | some (6, argument, rest) =>
      (decodeItem depth rest).map fun (content, rest) ↦ (.tag (UInt64.ofNat argument) content, rest)
    | some (7, 20, rest) => some (.bool false, rest)
    | some (7, 21, rest) => some (.bool true, rest)
    | some (7, 22, rest) => some (.null, rest)
    | _ => none

theorem readHead_head {major argument : ℕ} (hmajor : major < 8) (hargument : argument < 2 ^ 64)
    (rest : Bytes) : readHead (head major argument ++ rest) = some (major, argument, rest) := by
  have hfirst {info : ℕ} (hinfo : info < 32) :
      (UInt8.ofNat (32 * major + info)).toNat = 32 * major + info := by
    rw [UInt8.toNat_ofNat']
    omega
  have hread {info width : ℕ} (hinfo : info < 32) (hbig : ¬ info < 24)
      (hwidth : argumentWidth info = some width) (hfits : argument < 256 ^ width) :
      readHead (UInt8.ofNat (32 * major + info) :: (beBytes width argument ++ rest)) =
        some (major, argument, rest) := by
    have hmod : (32 * major + info) % 32 = info := by omega
    have hdiv : (32 * major + info) / 32 = major := by omega
    have hlen : ¬ (beBytes width argument ++ rest).length < width := by simp
    simp only [readHead, hfirst hinfo, hmod, hdiv, hbig, hwidth, if_false, if_neg hlen]
    rw [List.take_left' (length_beBytes _ _), List.drop_left' (length_beBytes _ _),
      beNat_beBytes hfits]
  unfold head
  split_ifs with h24 h8 h16 h32
  · have hmod : (32 * major + argument) % 32 = argument := by omega
    have hdiv : (32 * major + argument) / 32 = major := by omega
    simp only [List.cons_append, List.nil_append, readHead, hfirst (by omega : argument < 32),
      hmod, hdiv, h24, if_true]
  · exact hread (by norm_num) (by norm_num) rfl (by omega)
  · exact hread (by norm_num) (by norm_num) rfl (by omega)
  · exact hread (by norm_num) (by norm_num) rfl (by omega)
  · exact hread (by norm_num) (by norm_num) rfl (by omega)

theorem readMany_of_forall {α : Type} {read : Bytes → Option (α × Bytes)} {write : α → Bytes}
    (items : List α) (rest : Bytes)
    (hread : ∀ item ∈ items, ∀ more, read (write item ++ more) = some (item, more)) :
    readMany read items.length (items.flatMap write ++ rest) = some (items, rest) := by
  induction items with
  | nil => rfl
  | cons item items ih =>
    have htail := ih fun other hmem ↦ hread other (List.mem_cons_of_mem item hmem)
    simp only [List.length_cons, readMany, List.flatMap_cons, List.append_assoc,
      hread item List.mem_cons_self, htail]

theorem encodeItems_eq_flatMap (items : List Value) : encodeItems items = items.flatMap encode := by
  induction items with
  | nil => rfl
  | cons item items ih => rw [encodeItems, ih, List.flatMap_cons]

theorem encodeEntries_eq_flatMap (entries : List (Value × Value)) :
    encodeEntries entries = entries.flatMap fun entry ↦ encode entry.1 ++ encode entry.2 := by
  induction entries with
  | nil => rfl
  | cons entry entries ih => rw [encodeEntries, ih, List.flatMap_cons]

/-- The decoder inverts the encoder on plain items and leaves the bytes behind them alone. -/
theorem decodeItem_encode (depth : ℕ) (value : Value) (rest : Bytes) (hplain : Plain depth value) :
    decodeItem depth (encode value ++ rest) = some (value, rest) := by
  induction depth generalizing value rest with
  | zero => exact hplain.elim
  | succ depth ih =>
    match value with
    | .integer value =>
      obtain ⟨hlow, hhigh⟩ := hplain
      by_cases hsign : 0 ≤ value
      · rw [encode, if_pos hsign, decodeItem, readHead_head (by norm_num) (by omega)]
        simp [hsign]
      · rw [encode, if_neg hsign, decodeItem, readHead_head (by norm_num) (by omega)]
        have hneg : ((-1 - value).toNat : ℤ) = -1 - value := Int.toNat_of_nonneg (by omega)
        simp only [hneg, Option.some.injEq, Prod.mk.injEq, and_true]
        congr 1
        omega
    | .bytes content =>
      rw [encode, decodeItem, List.append_assoc, readHead_head (by norm_num) hplain]
      simp
    | .text content =>
      rw [encode, decodeItem, List.append_assoc, readHead_head (by norm_num) hplain]
      simp
    | .bool value => cases value <;> rfl
    | .null => rfl
    | .array items =>
      obtain ⟨hlen, hitems⟩ := hplain
      rw [encode, decodeItem, List.append_assoc, readHead_head (by norm_num) hlen]
      simp only [encodeItems_eq_flatMap]
      rw [readMany_of_forall items rest fun item hmem more ↦ ih item more (hitems item hmem)]
      rfl
    | .map entries =>
      obtain ⟨hlen, hentries⟩ := hplain
      have hread : ∀ entry ∈ entries, ∀ more,
          readPair (decodeItem depth) ((encode entry.1 ++ encode entry.2) ++ more) =
            some (entry, more) := by
        intro entry hmem more
        obtain ⟨hkey, hvalue⟩ := hentries entry hmem
        simp only [readPair, List.append_assoc, ih entry.1 _ hkey, ih entry.2 _ hvalue]
      rw [encode, decodeItem, List.append_assoc, readHead_head (by norm_num) hlen]
      simp only [encodeEntries_eq_flatMap]
      rw [readMany_of_forall entries rest hread]
      rfl

/-- Decode the item at the front of a byte string. -/
def decode (depth : ℕ) (bytes : Bytes) : Option Value := (decodeItem depth bytes).map Prod.fst

theorem decode_encode {depth : ℕ} {value : Value} (hplain : Plain depth value) :
    decode depth (encode value) = some value := by
  have h := decodeItem_encode depth value [] hplain
  rw [List.append_nil] at h
  rw [decode, h, Option.map_some]

/-- Distinct plain items have distinct encodings. -/
theorem encode_inj {depth : ℕ} {left right : Value} (hleft : Plain depth left)
    (hright : Plain depth right) (h : encode left = encode right) : left = right := by
  have hdecode := decode_encode hleft
  rw [h, decode_encode hright] at hdecode
  exact (Option.some.inj hdecode).symm

end Cbor

end Foundation
