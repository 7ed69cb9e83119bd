import AirClip.Foundation.Utf8

/-!
# Character boundaries

Strings are cut at byte positions, and a position inside a character is not one to cut at.  The bytes
of a position decide whether it is a boundary, and the boundaries are the lengths of the prefixes of
the string.  Searched backwards from a bound, the first boundary ends the longest prefix within it.
-/

namespace Foundation

/-- A byte position at which a character starts, or the end. -/
def isCharBoundary (s : String) (index : ℕ) : Bool :=
  if index = 0 then true
  else
    match (utf8 s)[index]? with
    | none => decide (index = (utf8 s).length)
    | some byte => !isContinuation byte

/-- The bytes before a position; cutting inside a character is a panic. -/
def sliceTo (s : String) (index : ℕ) : Option String :=
  if isCharBoundary s index then ofUtf8? ((utf8 s).take index) else none

/-- The first boundary at or below a position. -/
def searchBoundary (s : String) : ℕ → ℕ
  | 0 => 0
  | index + 1 => if isCharBoundary s (index + 1) then index + 1 else searchBoundary s index

/-! ## The bytes of a character -/

theorem isContinuation_ofNat {value : ℕ} (h : value < 256) :
    isContinuation (UInt8.ofNat value) = decide (128 ≤ value ∧ value ≤ 191) := by
  rw [isContinuation, ← Bool.decide_and, decide_eq_decide, UInt8.le_iff_toNat_le,
    UInt8.le_iff_toNat_le, UInt8.toNat_ofNat_of_lt' h]
  rfl

/-- A character is a first byte and continuation bytes behind it. -/
theorem utf8EncodeChar_eq_cons (c : Char) :
    ∃ first continuation, String.utf8EncodeChar c = first :: continuation ∧
      isContinuation first = false ∧ ∀ byte ∈ continuation, isContinuation byte = true := by
  have hlast (values : List ℕ) : ∀ byte ∈ values.map fun value ↦ UInt8.ofNat (value % 64 + 128),
      isContinuation byte = true := by
    intro byte hmem
    obtain ⟨value, -, rfl⟩ := List.mem_map.mp hmem
    rw [isContinuation_ofNat (by omega)]
    exact decide_eq_true (by omega)
  have hfirst {value : ℕ} (h : value < 256) (hrange : value < 128 ∨ 191 < value) :
      isContinuation (UInt8.ofNat value) = false := by
    rw [isContinuation_ofNat h]
    exact decide_eq_false (by omega)
  simp only [String.utf8EncodeChar]
  split_ifs with h1 h2 h3
  · exact ⟨_, _, rfl, hfirst (by omega) (by omega), hlast []⟩
  · exact ⟨_, _, rfl, hfirst (by omega) (by omega), hlast [_]⟩
  · exact ⟨_, _, rfl, hfirst (by omega) (by omega), hlast [_, _]⟩
  · exact ⟨_, _, rfl, hfirst (by omega) (by omega), hlast [_, _, _]⟩

theorem utf8_ofList_cons (c : Char) (chars : List Char) :
    utf8 (String.ofList (c :: chars)) = String.utf8EncodeChar c ++ utf8 (String.ofList chars) := by
  rw [String.ofList_cons, utf8_append]
  simp [utf8, List.utf8Encode_singleton]

theorem utf8_ofList_nil : utf8 (String.ofList []) = [] := rfl

/-- A string does not start inside a character. -/
theorem isContinuation_of_first {chars : List Char} {byte : UInt8}
    (h : (utf8 (String.ofList chars))[0]? = some byte) : isContinuation byte = false := by
  cases chars with
  | nil => cases h
  | cons c chars =>
    obtain ⟨first, continuation, hencode, hfirst, -⟩ := utf8EncodeChar_eq_cons c
    rw [utf8_ofList_cons, hencode] at h
    cases h
    exact hfirst

/-! ## Boundaries and prefixes -/

/-- Behind the first character the boundaries are those of the rest. -/
theorem isCharBoundary_ofList_cons (c : Char) (chars : List Char) (index : ℕ) :
    isCharBoundary (String.ofList (c :: chars)) (c.utf8Size + index) =
      isCharBoundary (String.ofList chars) index := by
  have hsize := c.utf8Size_pos
  have hbyte : (utf8 (String.ofList (c :: chars)))[c.utf8Size + index]? =
      (utf8 (String.ofList chars))[index]? := by
    rw [utf8_ofList_cons, List.getElem?_append_right (by simp)]
    simp
  have hlength : (utf8 (String.ofList (c :: chars))).length =
      c.utf8Size + (utf8 (String.ofList chars)).length := by
    rw [utf8_ofList_cons, List.length_append, String.length_utf8EncodeChar]
  unfold isCharBoundary
  rw [if_neg (by omega), hbyte, hlength]
  split_ifs with hzero
  · subst hzero
    split
    · next hnone => simpa using hnone
    · next byte hsome => rw [isContinuation_of_first hsome, Bool.not_false]
  · simp

/-- Inside its first character a string has no boundary. -/
theorem isCharBoundary_inside {c : Char} {chars : List Char} {index : ℕ} (hpos : 0 < index)
    (hinside : index < c.utf8Size) : isCharBoundary (String.ofList (c :: chars)) index = false := by
  obtain ⟨first, continuation, hencode, -, hcontinuation⟩ := utf8EncodeChar_eq_cons c
  have hlength : continuation.length + 1 = c.utf8Size := by
    rw [← String.length_utf8EncodeChar, hencode, List.length_cons]
  obtain ⟨previous, rfl⟩ : ∃ previous, index = previous + 1 := ⟨index - 1, by omega⟩
  have hprevious : previous < continuation.length := by omega
  rw [isCharBoundary, if_neg (by omega), utf8_ofList_cons, hencode, List.cons_append,
    List.getElem?_cons_succ, List.getElem?_append_left hprevious, List.getElem?_eq_getElem hprevious]
  simp only [hcontinuation _ (List.getElem_mem hprevious), Bool.not_true]

theorem isCharBoundary_ofList_iff (chars : List Char) (index : ℕ) :
    isCharBoundary (String.ofList chars) index = true ↔
      ∃ kept rest, chars = kept ++ rest ∧ (utf8 (String.ofList kept)).length = index := by
  induction chars generalizing index with
  | nil =>
    rw [isCharBoundary, utf8_ofList_nil]
    constructor
    · intro h
      refine ⟨[], [], rfl, ?_⟩
      split_ifs at h with hzero
      · exact hzero.symm
      · exact (of_decide_eq_true h).symm
    · rintro ⟨kept, rest, hchars, rfl⟩
      obtain ⟨rfl, -⟩ := List.append_eq_nil_iff.mp hchars.symm
      rfl
  | cons c chars ih =>
    have hlength (kept : List Char) : (utf8 (String.ofList (c :: kept))).length =
        c.utf8Size + (utf8 (String.ofList kept)).length := by
      rw [utf8_ofList_cons, List.length_append, String.length_utf8EncodeChar]
    obtain rfl | hpos := Nat.eq_zero_or_pos index
    · exact iff_of_true rfl ⟨[], c :: chars, rfl, rfl⟩
    obtain hinside | hbehind := Nat.lt_or_ge index c.utf8Size
    · rw [isCharBoundary_inside hpos hinside]
      refine iff_of_false Bool.false_ne_true ?_
      rintro ⟨kept, rest, hchars, rfl⟩
      cases kept with
      | nil => exact hpos.ne rfl
      | cons c' kept =>
        cases hchars
        rw [hlength] at hinside
        omega
    · obtain ⟨index, rfl⟩ := Nat.exists_eq_add_of_le hbehind
      rw [isCharBoundary_ofList_cons, ih]
      constructor
      · rintro ⟨kept, rest, rfl, rfl⟩
        exact ⟨c :: kept, rest, rfl, hlength kept⟩
      · rintro ⟨kept, rest, hchars, hindex⟩
        cases kept with
        | nil => exact absurd hindex hpos.ne
        | cons c' kept =>
          cases hchars
          rw [hlength] at hindex
          exact ⟨kept, rest, rfl, by omega⟩

/-- The boundaries of a string are the lengths of its prefixes. -/
theorem isCharBoundary_iff (s : String) (index : ℕ) :
    isCharBoundary s index = true ↔ ∃ kept rest, s = kept ++ rest ∧ (utf8 kept).length = index := by
  rw [← String.ofList_toList (s := s), isCharBoundary_ofList_iff]
  constructor
  · rintro ⟨kept, rest, hchars, hindex⟩
    exact ⟨String.ofList kept, String.ofList rest, by rw [hchars, String.ofList_append], hindex⟩
  · rintro ⟨kept, rest, hs, hindex⟩
    refine ⟨kept.toList, rest.toList, ?_, by rwa [String.ofList_toList]⟩
    rw [← String.toList_append, ← hs, String.toList_ofList]

/-- Cut at a boundary, a string falls into the part before and the part behind. -/
theorem sliceTo_eq_some {s kept : String} {index : ℕ} :
    sliceTo s index = some kept ↔ (∃ rest, s = kept ++ rest) ∧ (utf8 kept).length = index := by
  constructor
  · intro h
    rw [sliceTo] at h
    split_ifs at h with hboundary
    obtain ⟨kept', rest, rfl, rfl⟩ := (isCharBoundary_iff s index).mp hboundary
    rw [utf8_append, List.take_left', ofUtf8?_utf8] at h
    · cases h
      exact ⟨⟨rest, rfl⟩, rfl⟩
    · rfl
  · rintro ⟨⟨rest, rfl⟩, rfl⟩
    have hboundary := (isCharBoundary_iff (kept ++ rest) _).mpr ⟨kept, rest, rfl, rfl⟩
    rw [sliceTo, if_pos hboundary, utf8_append, List.take_left' rfl, ofUtf8?_utf8]

/-! ## The longest prefix -/

theorem isCharBoundary_searchBoundary (s : String) (bound : ℕ) :
    isCharBoundary s (searchBoundary s bound) = true := by
  induction bound with
  | zero => rfl
  | succ bound ih =>
    rw [searchBoundary]
    split_ifs with hboundary
    · exact hboundary
    · exact ih

theorem searchBoundary_le (s : String) (bound : ℕ) : searchBoundary s bound ≤ bound := by
  induction bound with
  | zero => exact le_rfl
  | succ bound ih =>
    rw [searchBoundary]
    split_ifs
    · exact le_rfl
    · exact Nat.le_succ_of_le ih

theorem le_searchBoundary {s : String} {bound index : ℕ} (hle : index ≤ bound)
    (hboundary : isCharBoundary s index = true) : index ≤ searchBoundary s bound := by
  induction bound with
  | zero => exact hle
  | succ bound ih =>
    rw [searchBoundary]
    split_ifs with hbound
    · exact hle
    · obtain rfl | hlt := Nat.eq_or_lt_of_le hle
      · exact absurd hboundary hbound
      · exact ih (Nat.lt_succ_iff.mp hlt)

/-- Of all prefixes with at most `bound` bytes, none is longer. -/
structure LongestPrefix (s : String) (bound : ℕ) (kept : String) : Prop where
  exists_rest : ∃ rest, s = kept ++ rest
  length_le : (utf8 kept).length ≤ bound
  longest : ∀ other rest, s = other ++ rest → (utf8 other).length ≤ bound →
    (utf8 other).length ≤ (utf8 kept).length

namespace LongestPrefix

/-- A string that fits is its own longest prefix. -/
theorem self {s : String} {bound : ℕ} (h : (utf8 s).length ≤ bound) : LongestPrefix s bound s where
  exists_rest := ⟨"", by simp⟩
  length_le := h
  longest := by
    rintro other rest rfl -
    simp

/-- The cut at the boundary found by the search is the longest prefix. -/
theorem exists_sliceTo (s : String) (bound : ℕ) :
    ∃ kept, sliceTo s (searchBoundary s bound) = some kept ∧ LongestPrefix s bound kept := by
  obtain ⟨kept, rest, hs, hlength⟩ :=
    (isCharBoundary_iff s _).mp (isCharBoundary_searchBoundary s bound)
  refine ⟨kept, sliceTo_eq_some.mpr ⟨⟨rest, hs⟩, hlength⟩, ⟨rest, hs⟩, ?_, ?_⟩
  · exact hlength ▸ searchBoundary_le s bound
  · intro other rest' hs' hle
    rw [hlength]
    exact le_searchBoundary hle ((isCharBoundary_iff s _).mpr ⟨other, rest', hs', rfl⟩)

/-- What is cut off starts with a character that did not fit, of four bytes at most. -/
theorem lt_length {s kept : String} {bound : ℕ} (h : LongestPrefix s bound kept)
    (hlong : bound < (utf8 s).length) : bound < (utf8 kept).length + 4 := by
  obtain ⟨⟨rest, hs⟩, hle, hlongest⟩ := h
  obtain ⟨chars, rfl⟩ : ∃ chars, rest = String.ofList chars := ⟨rest.toList, String.ofList_toList.symm⟩
  cases chars with
  | nil =>
    rw [hs, utf8_append, utf8_ofList_nil, List.append_nil] at hlong
    omega
  | cons c chars =>
    have hfour := c.utf8Size_le_four
    have hpos := c.utf8Size_pos
    have hlength : (utf8 (kept ++ String.ofList [c])).length = (utf8 kept).length + c.utf8Size := by
      rw [utf8_append, utf8_ofList_cons, utf8_ofList_nil]
      simp
    have hnext := hlongest (kept ++ String.ofList [c]) (String.ofList chars)
      (by rw [hs, String.append_assoc, ← String.ofList_append, List.singleton_append])
    omega

end LongestPrefix

end Foundation
