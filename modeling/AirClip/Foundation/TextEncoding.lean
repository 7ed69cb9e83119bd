import AirClip.Foundation.Utf8

/-!
# Text encodings of byte strings

Hexadecimal, unpadded base64url, percent encoding and `application/x-www-form-urlencoded` queries,
all over the ASCII bytes of their text.  Each decoder inverts its encoder, and the encoders write
nothing but unreserved characters (and the percent sign), so their output can stand in a query.
-/

namespace Foundation

/-! ## ASCII -/

/-- The string whose characters are the given bytes. -/
def latin1 (bytes : Bytes) : String := String.ofList (bytes.map fun byte ↦ Char.ofNat byte.toNat)

theorem utf8EncodeChar_ofNat {byte : UInt8} (h : byte < 128) :
    String.utf8EncodeChar (Char.ofNat byte.toNat) = [byte] := by
  have hbyte : ∀ n < 128, String.utf8EncodeChar (Char.ofNat n) = [UInt8.ofNat n] := by decide
  have hencode := hbyte byte.toNat (UInt8.lt_iff_toNat_lt.mp h)
  rwa [UInt8.ofNat_toNat] at hencode

/-- ASCII text takes one byte for each character. -/
theorem utf8_latin1 {bytes : Bytes} (h : ∀ byte ∈ bytes, byte < 128) :
    utf8 (latin1 bytes) = bytes := by
  have hchars : ∀ bytes : Bytes, (∀ byte ∈ bytes, byte < 128) →
      (bytes.map fun byte ↦ Char.ofNat byte.toNat).flatMap String.utf8EncodeChar = bytes := by
    intro bytes hascii
    induction bytes with
    | nil => rfl
    | cons byte bytes ih =>
      rw [List.map_cons, List.flatMap_cons, utf8EncodeChar_ofNat (hascii byte List.mem_cons_self),
        ih fun other hmem ↦ hascii other (List.mem_cons_of_mem byte hmem)]
      rfl
  rw [utf8, latin1, String.toByteArray_ofList, List.utf8Encode]
  simpa using hchars bytes h

/-- Letters, digits and `-`, `_`, `.`, `~`. -/
def isUnreserved (byte : UInt8) : Bool :=
  (0x41 ≤ byte && byte ≤ 0x5A) || (0x61 ≤ byte && byte ≤ 0x7A) || (0x30 ≤ byte && byte ≤ 0x39) ||
    byte == 0x2D || byte == 0x5F || byte == 0x2E || byte == 0x7E

theorem isUnreserved_ascii {byte : UInt8} (h : isUnreserved byte) :
    byte < 128 ∧ byte ≠ 0x25 ∧ byte ≠ 0x26 ∧ byte ≠ 0x2B ∧ byte ≠ 0x3D := by
  have hall : ∀ n < 256, isUnreserved (UInt8.ofNat n) → UInt8.ofNat n < 128 ∧
      UInt8.ofNat n ≠ 0x25 ∧ UInt8.ofNat n ≠ 0x26 ∧ UInt8.ofNat n ≠ 0x2B ∧
      UInt8.ofNat n ≠ 0x3D := by decide +kernel
  have hbyte := hall byte.toNat byte.toNat_lt
  rw [UInt8.ofNat_toNat] at hbyte
  exact hbyte h

/-! ## Hexadecimal -/

/-- The digit of a value below 16, with the given letter standing for ten. -/
def hexDigit (ten : UInt8) (value : ℕ) : UInt8 :=
  if value < 10 then UInt8.ofNat (0x30 + value) else ten + UInt8.ofNat (value - 10)

def hexValue (digit : UInt8) : Option ℕ :=
  if 0x30 ≤ digit && digit ≤ 0x39 then some (digit.toNat - 0x30)
  else if 0x41 ≤ digit && digit ≤ 0x46 then some (digit.toNat - 0x41 + 10)
  else if 0x61 ≤ digit && digit ≤ 0x66 then some (digit.toNat - 0x61 + 10)
  else none

/-- Two lower-case digits for each byte. -/
def hexEncode (bytes : Bytes) : Bytes :=
  bytes.flatMap fun byte ↦ [hexDigit 0x61 (byte.toNat / 16), hexDigit 0x61 (byte.toNat % 16)]

def hexDecode : Bytes → Option Bytes
  | [] => some []
  | [_] => none
  | high :: low :: rest =>
    match hexValue high, hexValue low, hexDecode rest with
    | some high, some low, some bytes => some (UInt8.ofNat (16 * high + low) :: bytes)
    | _, _, _ => none

theorem hexValue_hexDigit {value : ℕ} (h : value < 16) :
    hexValue (hexDigit 0x61 value) = some value ∧ hexValue (hexDigit 0x41 value) = some value := by
  have hall : ∀ n < 16, hexValue (hexDigit 0x61 n) = some n ∧
      hexValue (hexDigit 0x41 n) = some n := by decide
  exact hall value h

theorem hexDigit_unreserved {value : ℕ} (h : value < 16) :
    isUnreserved (hexDigit 0x61 value) ∧ isUnreserved (hexDigit 0x41 value) := by
  have hall : ∀ n < 16, isUnreserved (hexDigit 0x61 n) ∧ isUnreserved (hexDigit 0x41 n) := by decide
  exact hall value h

theorem ofNat_nibbles (byte : UInt8) :
    UInt8.ofNat (16 * (byte.toNat / 16) + byte.toNat % 16) = byte := by
  rw [Nat.div_add_mod, UInt8.ofNat_toNat]

@[simp]
theorem hexDecode_hexEncode (bytes : Bytes) : hexDecode (hexEncode bytes) = some bytes := by
  induction bytes with
  | nil => rfl
  | cons byte bytes ih =>
    have hbyte := byte.toNat_lt
    unfold hexEncode at ih ⊢
    simp only [List.flatMap_cons, List.cons_append, List.nil_append, hexDecode, ih,
      (hexValue_hexDigit (show byte.toNat / 16 < 16 by omega)).1,
      (hexValue_hexDigit (show byte.toNat % 16 < 16 by omega)).1, ofNat_nibbles]

theorem hexEncode_unreserved (bytes : Bytes) : ∀ byte ∈ hexEncode bytes, isUnreserved byte := by
  intro digit hdigit
  obtain ⟨byte, -, hmem⟩ := List.mem_flatMap.mp hdigit
  have hbyte := byte.toNat_lt
  obtain rfl | rfl : digit = _ ∨ digit = _ := by simpa using hmem
  · exact (hexDigit_unreserved (by omega)).1
  · exact (hexDigit_unreserved (by omega)).1

/-! ## Unpadded base64url -/

/-- The character of a value below 64. -/
def base64Char (value : ℕ) : UInt8 :=
  if value < 26 then UInt8.ofNat (0x41 + value)
  else if value < 52 then UInt8.ofNat (0x61 + (value - 26))
  else if value < 62 then UInt8.ofNat (0x30 + (value - 52))
  else if value = 62 then 0x2D
  else 0x5F

def base64Value (char : UInt8) : Option ℕ :=
  if 0x41 ≤ char && char ≤ 0x5A then some (char.toNat - 0x41)
  else if 0x61 ≤ char && char ≤ 0x7A then some (char.toNat - 0x61 + 26)
  else if 0x30 ≤ char && char ≤ 0x39 then some (char.toNat - 0x30 + 52)
  else if char = 0x2D then some 62
  else if char = 0x5F then some 63
  else none

/-- The values of the characters that spell a byte string, six bits each. -/
def sextets : Bytes → List ℕ
  | [] => []
  | [a] => [a.toNat / 4, a.toNat % 4 * 16]
  | [a, b] => [a.toNat / 4, a.toNat % 4 * 16 + b.toNat / 16, b.toNat % 16 * 4]
  | a :: b :: c :: rest =>
    a.toNat / 4 :: (a.toNat % 4 * 16 + b.toNat / 16) :: (b.toNat % 16 * 4 + c.toNat / 64) ::
      c.toNat % 64 :: sextets rest

/-- A last group of two or three characters must not set bits beyond its bytes. -/
def ofSextets : List ℕ → Option Bytes
  | [] => some []
  | [_] => none
  | [a, b] => if b % 16 = 0 then some [UInt8.ofNat (a * 4 + b / 16)] else none
  | [a, b, c] =>
    if c % 4 = 0 then some [UInt8.ofNat (a * 4 + b / 16), UInt8.ofNat (b % 16 * 16 + c / 4)]
    else none
  | a :: b :: c :: d :: rest =>
    (ofSextets rest).map fun bytes ↦ UInt8.ofNat (a * 4 + b / 16) ::
      UInt8.ofNat (b % 16 * 16 + c / 4) :: UInt8.ofNat (c % 4 * 64 + d) :: bytes

def base64Encode (bytes : Bytes) : Bytes := (sextets bytes).map base64Char

def base64Decode (text : Bytes) : Option Bytes := (text.mapM base64Value).bind ofSextets

theorem base64Value_base64Char {value : ℕ} (h : value < 64) :
    base64Value (base64Char value) = some value ∧ isUnreserved (base64Char value) := by
  have hall : ∀ n < 64, base64Value (base64Char n) = some n ∧ isUnreserved (base64Char n) := by
    decide
  exact hall value h

theorem sextets_lt (bytes : Bytes) : ∀ value ∈ sextets bytes, value < 64 := by
  induction bytes using sextets.induct with
  | case1 => simp [sextets]
  | case2 a =>
    have ha := a.toNat_lt
    simp only [sextets, List.mem_cons, List.not_mem_nil, or_false, forall_eq_or_imp, forall_eq]
    omega
  | case3 a b =>
    have ha := a.toNat_lt
    have hb := b.toNat_lt
    simp only [sextets, List.mem_cons, List.not_mem_nil, or_false, forall_eq_or_imp, forall_eq]
    omega
  | case4 a b c rest ih =>
    have ha := a.toNat_lt
    have hb := b.toNat_lt
    have hc := c.toNat_lt
    simp only [sextets, List.mem_cons, forall_eq_or_imp]
    exact ⟨by omega, by omega, by omega, by omega, ih⟩

theorem ofNat_eq {n : ℕ} (byte : UInt8) (h : n = byte.toNat) : UInt8.ofNat n = byte := by
  rw [h, UInt8.ofNat_toNat]

theorem ofSextets_sextets (bytes : Bytes) : ofSextets (sextets bytes) = some bytes := by
  induction bytes using sextets.induct with
  | case1 => rfl
  | case2 a =>
    have ha := a.toNat_lt
    have hspare : a.toNat % 4 * 16 % 16 = 0 := by omega
    rw [sextets, ofSextets, if_pos hspare, ofNat_eq a (by omega)]
  | case3 a b =>
    have ha := a.toNat_lt
    have hb := b.toNat_lt
    have hspare : b.toNat % 16 * 4 % 4 = 0 := by omega
    rw [sextets, ofSextets, if_pos hspare, ofNat_eq a (by omega),
      ofNat_eq b (by omega)]
  | case4 a b c rest ih =>
    have ha := a.toNat_lt
    have hb := b.toNat_lt
    have hc := c.toNat_lt
    rw [sextets, ofSextets, ih, Option.map_some, ofNat_eq a (by omega),
      ofNat_eq b (by omega), ofNat_eq c (by omega)]

theorem mapM_base64Value {values : List ℕ} (h : ∀ value ∈ values, value < 64) :
    (values.map base64Char).mapM base64Value = some values := by
  induction values with
  | nil => rfl
  | cons value values ih =>
    rw [List.map_cons, List.mapM_cons, (base64Value_base64Char (h value List.mem_cons_self)).1,
      ih fun other hmem ↦ h other (List.mem_cons_of_mem value hmem)]
    rfl

@[simp]
theorem base64Decode_base64Encode (bytes : Bytes) :
    base64Decode (base64Encode bytes) = some bytes := by
  rw [base64Decode, base64Encode, mapM_base64Value (sextets_lt bytes), Option.bind_some,
    ofSextets_sextets]

theorem base64Encode_unreserved (bytes : Bytes) :
    ∀ byte ∈ base64Encode bytes, isUnreserved byte := by
  intro char hchar
  obtain ⟨value, hvalue, rfl⟩ := List.mem_map.mp hchar
  exact (base64Value_base64Char (sextets_lt bytes value hvalue)).2

example : base64Encode [0xFB, 0xEF, 0xBE, 0x4D] = utf8 "----TQ" := by decide

/-! ## Percent encoding -/

/-- An unreserved byte as it is, any other as a percent sign and two upper-case digits. -/
def percentEncodeByte (byte : UInt8) : Bytes :=
  if isUnreserved byte then [byte]
  else [0x25, hexDigit 0x41 (byte.toNat / 16), hexDigit 0x41 (byte.toNat % 16)]

def percentEncode (bytes : Bytes) : Bytes := bytes.flatMap percentEncodeByte

/-- A percent sign that no two digits follow stands for itself. -/
def percentDecode : Bytes → Bytes
  | [] => []
  | [byte] => [byte]
  | [first, second] => [first, second]
  | first :: second :: third :: rest =>
    if first = 0x25 then
      match hexValue second, hexValue third with
      | some high, some low => UInt8.ofNat (16 * high + low) :: percentDecode rest
      | _, _ => first :: percentDecode (second :: third :: rest)
    else first :: percentDecode (second :: third :: rest)

theorem percentDecode_cons {byte : UInt8} (h : byte ≠ 0x25) (rest : Bytes) :
    percentDecode (byte :: rest) = byte :: percentDecode rest := by
  match rest with
  | [] | [_] => rfl
  | _ :: _ :: _ => rw [percentDecode, if_neg h]

theorem percentDecode_percentEncode (bytes : Bytes) :
    percentDecode (percentEncode bytes) = bytes := by
  induction bytes with
  | nil => rfl
  | cons byte bytes ih =>
    have hbyte := byte.toNat_lt
    unfold percentEncode at ih ⊢
    rw [List.flatMap_cons]
    by_cases hplain : isUnreserved byte
    · rw [percentEncodeByte, if_pos hplain, List.singleton_append,
        percentDecode_cons (isUnreserved_ascii hplain).2.1, ih]
    · rw [percentEncodeByte, if_neg hplain, List.cons_append, List.cons_append, List.cons_append,
        List.nil_append, percentDecode, if_pos rfl,
        (hexValue_hexDigit (show byte.toNat / 16 < 16 by omega)).2,
        (hexValue_hexDigit (show byte.toNat % 16 < 16 by omega)).2]
      simp only [ofNat_nibbles, ih]

/-- The encoder writes unreserved bytes and percent signs. -/
theorem percentEncode_safe (bytes : Bytes) :
    ∀ byte ∈ percentEncode bytes, isUnreserved byte ∨ byte = 0x25 := by
  intro byte hmem
  obtain ⟨origin, -, hmem⟩ := List.mem_flatMap.mp hmem
  have horigin := origin.toNat_lt
  unfold percentEncodeByte at hmem
  split at hmem
  · next hplain =>
    rw [List.mem_singleton.mp hmem]
    exact .inl hplain
  · obtain rfl | rfl | rfl : byte = _ ∨ byte = _ ∨ byte = _ := by simpa using hmem
    · exact .inr rfl
    · exact .inl (hexDigit_unreserved (by omega)).2
    · exact .inl (hexDigit_unreserved (by omega)).2

theorem percentEncode_of_unreserved {bytes : Bytes} (h : ∀ byte ∈ bytes, isUnreserved byte) :
    percentEncode bytes = bytes := by
  induction bytes with
  | nil => rfl
  | cons byte bytes ih =>
    have hrest := ih fun other hmem ↦ h other (List.mem_cons_of_mem byte hmem)
    unfold percentEncode at hrest ⊢
    rw [List.flatMap_cons, hrest, percentEncodeByte, if_pos (h byte List.mem_cons_self)]
    rfl

/-! ## Form-urlencoded queries -/

/-- A plus sign stands for a space, and what is percent-encoded is UTF-8. -/
def formDecode (component : Bytes) : String :=
  fromUtf8Lossy (percentDecode (component.map fun byte ↦ if byte = 0x2B then 0x20 else byte))

/-- Name and value of the piece of a query between two ampersands. -/
def formPair (piece : Bytes) : String × String :=
  (formDecode (piece.takeWhile (· ≠ 0x3D)), formDecode ((piece.dropWhile (· ≠ 0x3D)).drop 1))

/-- The pairs of a query; empty pieces are skipped. -/
def formParse (query : Bytes) : List (String × String) :=
  ((query.splitOn 0x26).filter fun piece ↦ !piece.isEmpty).map formPair

/-- A pair as it is written into a query. -/
def formEncodePair (pair : String × String) : Bytes :=
  percentEncode (utf8 pair.1) ++ 0x3D :: percentEncode (utf8 pair.2)

theorem percentEncode_ne {bytes : Bytes} {byte : UInt8} (h : byte ∈ percentEncode bytes) :
    byte ≠ 0x26 ∧ byte ≠ 0x2B ∧ byte ≠ 0x3D := by
  obtain hplain | rfl := percentEncode_safe bytes byte h
  · exact (isUnreserved_ascii hplain).2.2
  · decide

@[simp]
theorem formDecode_percentEncode (content : String) :
    formDecode (percentEncode (utf8 content)) = content := by
  have hplus : (percentEncode (utf8 content)).map (fun byte ↦ if byte = 0x2B then 0x20 else byte) =
      percentEncode (utf8 content) := by
    conv_rhs => rw [← List.map_id (percentEncode (utf8 content))]
    exact List.map_congr_left fun byte hmem ↦ if_neg (percentEncode_ne hmem).2.1
  rw [formDecode, hplus, percentDecode_percentEncode, fromUtf8Lossy_utf8]

theorem formPair_formEncodePair (pair : String × String) : formPair (formEncodePair pair) = pair := by
  have hname : ∀ byte ∈ percentEncode (utf8 pair.1), (byte ≠ 0x3D : Bool) :=
    fun byte hmem ↦ decide_eq_true (percentEncode_ne hmem).2.2
  rw [formPair, formEncodePair, List.takeWhile_append_of_pos hname, List.dropWhile_append_of_pos hname]
  simp

/-- Reading a query gives the pairs it was written from, in order. -/
theorem formParse_intercalate (pairs : List (String × String)) :
    formParse ([0x26].intercalate (pairs.map formEncodePair)) = pairs := by
  have hpieces : ∀ piece ∈ pairs.map formEncodePair, (0x26 : UInt8) ∉ piece := by
    intro piece hpiece hmem
    obtain ⟨pair, -, rfl⟩ := List.mem_map.mp hpiece
    obtain hname | hvalue := List.mem_append.mp hmem
    · exact (percentEncode_ne hname).1 rfl
    · obtain hsep | hvalue := List.mem_cons.mp hvalue
      · exact absurd hsep (by decide)
      · exact (percentEncode_ne hvalue).1 rfl
  match pairs with
  | [] => rfl
  | first :: rest =>
    have hnonempty : ∀ piece ∈ (first :: rest).map formEncodePair, !piece.isEmpty := by
      intro piece hpiece
      obtain ⟨pair, -, rfl⟩ := List.mem_map.mp hpiece
      simp [formEncodePair]
    rw [formParse, List.splitOn_intercalate _ hpieces (by simp), List.filter_eq_self.mpr hnonempty,
      List.map_map]
    exact List.map_id'' (fun pair ↦ formPair_formEncodePair pair) _

/-- The bytes a query is written with. -/
def isQuery (byte : UInt8) : Bool :=
  isUnreserved byte || byte == 0x25 || byte == 0x26 || byte == 0x3D

theorem formEncodePair_isQuery (pair : String × String) :
    ∀ byte ∈ formEncodePair pair, isQuery byte := by
  have hsafe : ∀ bytes, ∀ byte ∈ percentEncode bytes, isQuery byte := by
    intro bytes byte hmem
    obtain hplain | rfl := percentEncode_safe bytes byte hmem
    · simp [isQuery, hplain]
    · rfl
  intro byte hmem
  obtain hname | hrest := List.mem_append.mp hmem
  · exact hsafe _ byte hname
  · obtain rfl | hvalue := List.mem_cons.mp hrest
    · rfl
    · exact hsafe _ byte hvalue

theorem intercalate_isQuery {pieces : List Bytes}
    (h : ∀ piece ∈ pieces, ∀ byte ∈ piece, isQuery byte) :
    ∀ byte ∈ [0x26].intercalate pieces, isQuery byte := by
  induction pieces with
  | nil => exact fun byte hmem ↦ nomatch hmem
  | cons piece pieces ih =>
    have hrest := ih fun other hmem ↦ h other (List.mem_cons_of_mem piece hmem)
    match pieces with
    | [] =>
      rw [List.intercalate_singleton]
      exact h piece List.mem_cons_self
    | next :: rest =>
      intro byte hmem
      rw [List.intercalate_cons_cons, List.mem_append, List.mem_append] at hmem
      obtain (hpiece | hsep) | hmem := hmem
      · exact h piece List.mem_cons_self byte hpiece
      · rw [List.mem_singleton.mp hsep]
        rfl
      · exact hrest byte hmem

end Foundation
