import Mathlib.Data.List.Basic
import Mathlib.Tactic

/-!
# XML documents

A reader for XML 1.0 documents that consist of one element: nested elements with attributes, character
data and references to the predefined entities, after line ends have been normalised.  What it accepts is
well-formed, and the tree it returns says where the markup is.  Prologs, comments, processing instructions,
CDATA sections and character references are not read.
-/

namespace Foundation.Xml

/-! ## Characters -/

/-- The production `Char`. -/
def isChar (c : Char) : Bool :=
  c == '\t' || c == '\n' || c == '\r' || (0x20 ≤ c.toNat && c.toNat ≤ 0xD7FF) ||
    (0xE000 ≤ c.toNat && c.toNat ≤ 0xFFFD) || (0x10000 ≤ c.toNat && c.toNat ≤ 0x10FFFF)

/-- The production `S`, one character of it. -/
def isSpace (c : Char) : Bool := c == ' ' || c == '\t' || c == '\n' || c == '\r'

def inRanges (ranges : List (ℕ × ℕ)) (c : Char) : Bool :=
  ranges.any fun range ↦ range.1 ≤ c.toNat && c.toNat ≤ range.2

/-- The production `NameStartChar`. -/
def isNameStartChar : Char → Bool :=
  inRanges [(0x61, 0x7A), (0x41, 0x5A), (0x3A, 0x3A), (0x5F, 0x5F), (0xC0, 0xD6), (0xD8, 0xF6),
    (0xF8, 0x2FF), (0x370, 0x37D), (0x37F, 0x1FFF), (0x200C, 0x200D), (0x2070, 0x218F),
    (0x2C00, 0x2FEF), (0x3001, 0xD7FF), (0xF900, 0xFDCF), (0xFDF0, 0xFFFD), (0x10000, 0xEFFFF)]

/-- The production `NameChar`. -/
def isNameChar (c : Char) : Bool :=
  isNameStartChar c ||
    inRanges [(0x2D, 0x2E), (0x30, 0x39), (0xB7, 0xB7), (0x300, 0x36F), (0x203F, 0x2040)] c

/-! ## Trees -/

/-- The predefined entities. -/
inductive Entity where
  | amp
  | lt
  | gt
  | quot
  | apos
deriving DecidableEq

def Entity.char : Entity → Char
  | .amp => '&'
  | .lt => '<'
  | .gt => '>'
  | .quot => '"'
  | .apos => '\''

/-- What stands in the content of an element; character data is one node for each character. -/
inductive Node where
  | element (name : String) (attributes : List (String × String)) (content : List Node)
  | character (c : Char)
  | reference (entity : Entity)

/-- The text of content without elements, its references replaced by what they stand for. -/
def text : List Node → Option (List Char)
  | [] => some []
  | .element .. :: _ => none
  | .character c :: nodes => (text nodes).map (c :: ·)
  | .reference entity :: nodes => (text nodes).map (entity.char :: ·)

/-! ## Reading -/

def readName : List Char → Option (String × List Char)
  | [] => none
  | c :: chars =>
    if isNameStartChar c then
      some (String.ofList (c :: chars.takeWhile isNameChar), chars.dropWhile isNameChar)
    else none

/-- A quoted attribute value, without references; white space in it is read as blanks. -/
def readValue : List Char → Option (String × List Char)
  | [] => none
  | quote :: chars =>
    if quote == '"' || quote == '\'' then
      let value := chars.takeWhile (· != quote)
      match chars.dropWhile (· != quote) with
      | [] => none
      | _ :: rest =>
        if value.all fun c ↦ isChar c && c != '<' && c != '&' then
          some (String.ofList (value.map fun c ↦ if isSpace c then ' ' else c), rest)
        else none
    else none

/-- The attributes of a tag, up to its end; no name occurs twice. -/
def readAttributes : ℕ → List Char → Option (List (String × String) × List Char)
  | 0, _ => none
  | fuel + 1, chars =>
    match chars.dropWhile isSpace with
    | '>' :: rest => some ([], '>' :: rest)
    | '/' :: rest => some ([], '/' :: rest)
    | start =>
      if start.length = chars.length then none
      else
        match readName start with
        | none => none
        | some (name, rest) =>
          match rest.dropWhile isSpace with
          | '=' :: rest =>
            match readValue (rest.dropWhile isSpace) with
            | none => none
            | some (value, rest) =>
              match readAttributes fuel rest with
              | none => none
              | some (attributes, rest) =>
                if name ∈ attributes.map Prod.fst then none
                else some ((name, value) :: attributes, rest)
          | _ => none

/-- The end tag of the element with this name. -/
def readEndTag (name : String) : List Char → Option (List Char)
  | '<' :: '/' :: chars =>
    match readName chars with
    | none => none
    | some (closing, rest) =>
      match rest.dropWhile isSpace with
      | '>' :: rest => if closing = name then some rest else none
      | _ => none
  | _ => none

def readReference : List Char → Option (Entity × List Char)
  | 'a' :: 'm' :: 'p' :: ';' :: rest => some (.amp, rest)
  | 'l' :: 't' :: ';' :: rest => some (.lt, rest)
  | 'g' :: 't' :: ';' :: rest => some (.gt, rest)
  | 'q' :: 'u' :: 'o' :: 't' :: ';' :: rest => some (.quot, rest)
  | 'a' :: 'p' :: 'o' :: 's' :: ';' :: rest => some (.apos, rest)
  | _ => none

/-- An element behind its opening angle bracket, with `readContent` for what is in it. -/
def readElement (readContent : List Char → Option (List Node × List Char)) (chars : List Char) :
    Option (Node × List Char) :=
  match readName chars with
  | none => none
  | some (name, rest) =>
    match readAttributes (rest.length + 1) rest with
    | some (attributes, '/' :: '>' :: rest) => some (.element name attributes [], rest)
    | some (attributes, '>' :: rest) =>
      match readContent rest with
      | none => none
      | some (content, rest) =>
        (readEndTag name rest).map fun rest ↦ (.element name attributes content, rest)
    | _ => none

/-- Content up to the end tag around it, or to the end; the fuel bounds the number of nodes. -/
def readContent : ℕ → List Char → Option (List Node × List Char)
  | 0, _ => none
  | _ + 1, [] => some ([], [])
  | _ + 1, '<' :: '/' :: rest => some ([], '<' :: '/' :: rest)
  | fuel + 1, '<' :: chars =>
    match readElement (readContent fuel) chars with
    | none => none
    | some (node, rest) => (readContent fuel rest).map fun after ↦ (node :: after.1, after.2)
  | fuel + 1, '&' :: chars =>
    match readReference chars with
    | none => none
    | some (entity, rest) =>
      (readContent fuel rest).map fun after ↦ (.reference entity :: after.1, after.2)
  | fuel + 1, c :: chars =>
    -- Character data does not contain the end of a CDATA section.
    if isChar c && !([']', ']', '>'].isPrefixOf (c :: chars)) then
      (readContent fuel chars).map fun after ↦ (.character c :: after.1, after.2)
    else none

/-- Line ends as a reader takes them: a carriage return, with the line feed behind it if there is one, is
a line feed. -/
def lineEndsFrom (afterReturn : Bool) : List Char → List Char
  | [] => []
  | c :: chars =>
    if c = '\r' then '\n' :: lineEndsFrom true chars
    else if c = '\n' ∧ afterReturn then lineEndsFrom false chars
    else c :: lineEndsFrom false chars

def lineEnds (chars : List Char) : List Char := lineEndsFrom false chars

/-- The one element a document consists of.  Line ends are taken care of before anything is read. -/
def read (document : String) : Option Node :=
  let chars := lineEnds document.toList
  match readContent (chars.length + 1) chars with
  | some ([.element name attributes content], []) => some (.element name attributes content)
  | _ => none

/-! ## Tags -/

def isName (name : String) : Bool :=
  match name.toList with
  | [] => false
  | c :: chars => isNameStartChar c && chars.all isNameChar

/-- A value that can be put between double quotes. -/
def isQuotable (value : String) : Bool :=
  value.toList.all fun c ↦ isChar c && c != '<' && c != '&' && c != '"' && (c == ' ' || !isSpace c)

def printAttribute (pair : String × String) : List Char :=
  ' ' :: (pair.1.toList ++ '=' :: '"' :: (pair.2.toList ++ ['"']))

def startTag (name : String) (attributes : List (String × String)) : List Char :=
  '<' :: (name.toList ++ (attributes.flatMap printAttribute ++ ['>']))

def endTag (name : String) : List Char := '<' :: '/' :: (name.toList ++ ['>'])

/-- The tag is well-formed. -/
def IsTag (name : String) (attributes : List (String × String)) : Prop :=
  isName name = true ∧ (attributes.map Prod.fst).Nodup ∧
    ∀ pair ∈ attributes, isName pair.1 = true ∧ isQuotable pair.2 = true

instance (name : String) (attributes : List (String × String)) :
    Decidable (IsTag name attributes) := inferInstanceAs (Decidable (_ ∧ _))

theorem exists_of_isName {name : String} (h : isName name = true) : ∃ c chars,
    name.toList = c :: chars ∧ isNameStartChar c = true ∧ ∀ c ∈ chars, isNameChar c = true := by
  unfold isName at h
  split at h
  · cases h
  · next c chars hname =>
    rw [Bool.and_eq_true, List.all_eq_true] at h
    exact ⟨c, chars, hname, h.1, h.2⟩

/-- A name is no white space and no punctuation of tags. -/
theorem isNameStartChar_ne {c : Char} (h : isNameStartChar c = true) :
    isSpace c = false ∧ c ≠ '>' ∧ c ≠ '/' := by
  refine ⟨?_, ?_, ?_⟩
  · by_contra hspace
    simp only [isSpace, Bool.not_eq_false, Bool.or_eq_true, beq_iff_eq] at hspace
    obtain ((rfl | rfl) | rfl) | rfl := hspace <;> exact absurd h (by decide)
  · rintro rfl
    exact absurd h (by decide)
  · rintro rfl
    exact absurd h (by decide)

theorem readName_append {name : String} {c : Char} {rest : List Char} (hname : isName name = true)
    (hend : isNameChar c = false) : readName (name.toList ++ c :: rest) = some (name, c :: rest) := by
  obtain ⟨first, chars, htoList, hfirst, hchars⟩ := exists_of_isName hname
  rw [htoList, List.cons_append, readName, if_pos hfirst, List.takeWhile_append_of_pos hchars,
    List.dropWhile_append_of_pos hchars, List.takeWhile_cons_of_neg (by simp [hend]),
    List.dropWhile_cons_of_neg (by simp [hend]), List.append_nil, ← htoList, String.ofList_toList]

theorem readValue_quoted {value : String} (h : isQuotable value = true) (rest : List Char) :
    readValue ('"' :: (value.toList ++ '"' :: rest)) = some (value, rest) := by
  have hquotable : ∀ c ∈ value.toList,
      isChar c = true ∧ c ≠ '<' ∧ c ≠ '&' ∧ c ≠ '"' ∧ (c = ' ' ∨ isSpace c = false) := by
    simpa [isQuotable, and_assoc] using h
  have hinside : ∀ c ∈ value.toList, (c != '"') = true := by
    intro c hmem
    simpa using (hquotable c hmem).2.2.2.1
  have hlegal : value.toList.all (fun c ↦ isChar c && c != '<' && c != '&') = true := by
    rw [List.all_eq_true]
    intro c hmem
    obtain ⟨hchar, hlt, hamp, -⟩ := hquotable c hmem
    simp [hchar, hlt, hamp]
  have hblanks : value.toList.map (fun c ↦ if isSpace c then ' ' else c) = value.toList := by
    refine (List.map_congr_left fun c hmem ↦ ?_).trans (List.map_id _)
    obtain rfl | hspace := (hquotable c hmem).2.2.2.2
    · rfl
    · rw [hspace]
      rfl
  simp only [readValue, beq_self_eq_true, Bool.true_or, if_true,
    List.takeWhile_append_of_pos hinside, List.dropWhile_append_of_pos hinside]
  simp [hlegal, hblanks]

/-- White space and a name behind it. -/
theorem dropWhile_isSpace_name {name : String} (hname : isName name = true) (rest : List Char) :
    (' ' :: (name.toList ++ rest)).dropWhile isSpace = name.toList ++ rest := by
  obtain ⟨first, chars, htoList, hfirst, -⟩ := exists_of_isName hname
  rw [List.dropWhile_cons_of_pos rfl, htoList, List.cons_append,
    List.dropWhile_cons_of_neg (by simp [(isNameStartChar_ne hfirst).1])]

theorem readAttributes_append {attributes : List (String × String)}
    (hnodup : (attributes.map Prod.fst).Nodup)
    (h : ∀ pair ∈ attributes, isName pair.1 = true ∧ isQuotable pair.2 = true)
    {fuel : ℕ} (hfuel : attributes.length < fuel) (rest : List Char) :
    readAttributes fuel (attributes.flatMap printAttribute ++ '>' :: rest) =
      some (attributes, '>' :: rest) := by
  induction attributes generalizing fuel with
  | nil =>
    obtain ⟨fuel, rfl⟩ := Nat.exists_eq_add_of_lt hfuel
    rfl
  | cons pair attributes ih =>
    obtain ⟨fuel, rfl⟩ := Nat.exists_eq_add_of_lt (Nat.zero_lt_of_lt hfuel)
    rw [Nat.zero_add] at hfuel ⊢
    obtain ⟨name, value⟩ := pair
    obtain ⟨hname, hvalue⟩ := h _ List.mem_cons_self
    rw [List.map_cons, List.nodup_cons] at hnodup
    have hlater := ih hnodup.2 (fun other hmem ↦ h other (List.mem_cons_of_mem _ hmem))
      (Nat.lt_of_succ_lt_succ hfuel)
    obtain ⟨first, chars, htoList, hfirst, -⟩ := exists_of_isName hname
    obtain ⟨-, hgt, hslash⟩ := isNameStartChar_ne hfirst
    simp only [List.flatMap_cons, printAttribute, List.cons_append, List.append_assoc,
      List.nil_append, readAttributes]
    rw [dropWhile_isSpace_name hname]
    split
    · next hstart =>
      rw [htoList] at hstart
      cases hstart
      exact absurd rfl hgt
    · next hstart =>
      rw [htoList] at hstart
      cases hstart
      exact absurd rfl hslash
    · rw [if_neg (by simp), readName_append hname (by decide)]
      simp only [List.dropWhile_cons_of_neg (show ¬ isSpace '=' = true by decide),
        List.dropWhile_cons_of_neg (show ¬ isSpace '"' = true by decide),
        readValue_quoted hvalue, hlater]
      rw [if_neg hnodup.1]

theorem readEndTag_endTag {name : String} (hname : isName name = true) (rest : List Char) :
    readEndTag name (endTag name ++ rest) = some rest := by
  have hread := @readName_append name _ rest hname (show isNameChar '>' = false by decide)
  simp only [endTag, List.cons_append, List.append_assoc, List.nil_append, readEndTag, hread,
    List.dropWhile_cons_of_neg (show ¬ isSpace '>' = true by decide), if_true]

/-! ## Content -/

theorem readContent_nil (fuel : ℕ) : readContent (fuel + 1) [] = some ([], []) := rfl

theorem readContent_endTag (fuel : ℕ) (name : String) (rest : List Char) :
    readContent (fuel + 1) (endTag name ++ rest) = some ([], endTag name ++ rest) := rfl

theorem readContent_reference {fuel : ℕ} {chars rest rest' : List Char} {entity : Entity}
    {nodes : List Node} (hentity : readReference chars = some (entity, rest))
    (hnodes : readContent fuel rest = some (nodes, rest')) :
    readContent (fuel + 1) ('&' :: chars) = some (.reference entity :: nodes, rest') := by
  simp only [readContent, hentity, hnodes, Option.map_some]

theorem readContent_character {fuel : ℕ} {c : Char} {chars rest : List Char} {nodes : List Node}
    (hlt : c ≠ '<') (hamp : c ≠ '&') (hchar : isChar c = true)
    (hend : [']', ']', '>'].isPrefixOf (c :: chars) = false)
    (hnodes : readContent fuel chars = some (nodes, rest)) :
    readContent (fuel + 1) (c :: chars) = some (.character c :: nodes, rest) := by
  rw [readContent]
  · rw [hchar, hend, hnodes]
    rfl
  · rintro rest rfl -
    exact hlt rfl
  · exact hlt
  · exact hamp

theorem length_le_flatMap_printAttribute (attributes : List (String × String)) :
    attributes.length ≤ (attributes.flatMap printAttribute).length := by
  induction attributes with
  | nil => exact le_rfl
  | cons pair attributes ih =>
    simp only [List.flatMap_cons, List.length_append, printAttribute, List.length_cons]
    omega

/-- An element is its start tag, content up to its end tag, and what comes behind it. -/
theorem readContent_element {fuel : ℕ} {name : String} {attributes : List (String × String)}
    {chars rest rest' : List Char} {content siblings : List Node} (htag : IsTag name attributes)
    (hcontent : readContent fuel chars = some (content, endTag name ++ rest))
    (hsiblings : readContent fuel rest = some (siblings, rest')) :
    readContent (fuel + 1) (startTag name attributes ++ chars) =
      some (.element name attributes content :: siblings, rest') := by
  obtain ⟨hname, hnodup, hattributes⟩ := htag
  obtain ⟨first, others, htoList, hfirst, -⟩ := exists_of_isName hname
  -- The name behind the bracket is followed by a blank or by the closing bracket.
  have hreadName : readName (name.toList ++ (attributes.flatMap printAttribute ++ '>' :: chars)) =
      some (name, attributes.flatMap printAttribute ++ '>' :: chars) := by
    cases attributes with
    | nil => exact readName_append hname (by decide)
    | cons pair attributes => exact readName_append hname (by decide)
  have hreadAttributes : readAttributes
      ((attributes.flatMap printAttribute ++ '>' :: chars).length + 1)
      (attributes.flatMap printAttribute ++ '>' :: chars) = some (attributes, '>' :: chars) := by
    apply readAttributes_append hnodup hattributes
    have hlength := length_le_flatMap_printAttribute attributes
    rw [List.length_append]
    omega
  have helement : readElement (readContent fuel)
      (name.toList ++ (attributes.flatMap printAttribute ++ '>' :: chars)) =
        some (.element name attributes content, rest) := by
    simp only [readElement, hreadName, hreadAttributes, hcontent, readEndTag_endTag hname,
      Option.map_some]
  rw [startTag, List.cons_append, List.append_assoc, List.append_assoc, List.singleton_append,
    readContent]
  · simp only [helement, hsiblings, Option.map_some]
  · intro rest'' h
    rw [htoList] at h
    cases h
    exact (isNameStartChar_ne hfirst).2.2 rfl

/-! ## Line ends -/

theorem lineEnds_append_of_notMem {chars : List Char} (h : '\r' ∉ chars) (rest : List Char) :
    lineEnds (chars ++ rest) = chars ++ lineEnds rest := by
  induction chars with
  | nil => rfl
  | cons c chars ih =>
    obtain ⟨hc, hchars⟩ := not_or.mp (mt List.mem_cons.mpr h)
    rw [List.cons_append, lineEnds, lineEndsFrom, if_neg (Ne.symm hc), if_neg (by simp)]
    exact congrArg (c :: ·) (ih hchars)

theorem lineEnds_of_notMem {chars : List Char} (h : '\r' ∉ chars) : lineEnds chars = chars := by
  have happend := lineEnds_append_of_notMem h []
  rwa [List.append_nil, show lineEnds [] = [] from rfl, List.append_nil] at happend

theorem lineEndsFrom_append_cons {c : Char} (hc : c ≠ '\n') (afterReturn : Bool)
    (chars rest : List Char) : lineEndsFrom afterReturn (chars ++ c :: rest) =
      lineEndsFrom afterReturn chars ++ lineEndsFrom false (c :: rest) := by
  induction chars generalizing afterReturn with
  | nil =>
    have hfeed (after : Bool) : ¬ (c = '\n' ∧ after = true) := fun h ↦ hc h.1
    rw [List.nil_append, lineEndsFrom, lineEndsFrom, if_neg (hfeed _), lineEndsFrom, if_neg (hfeed _)]
    rfl
  | cons first chars ih =>
    rw [List.cons_append, lineEndsFrom, lineEndsFrom]
    split_ifs
    · rw [ih, List.cons_append]
    · rw [ih]
    · rw [ih, List.cons_append]

theorem lineEnds_append_cons {c : Char} (hc : c ≠ '\n') (chars rest : List Char) :
    lineEnds (chars ++ c :: rest) = lineEnds chars ++ lineEnds (c :: rest) :=
  lineEndsFrom_append_cons hc false chars rest

/-- No carriage return is left, and no character is new but line feeds. -/
theorem mem_lineEndsFrom {afterReturn : Bool} {chars : List Char} {c : Char}
    (h : c ∈ lineEndsFrom afterReturn chars) : c ≠ '\r' ∧ (c = '\n' ∨ c ∈ chars) := by
  induction chars generalizing afterReturn with
  | nil => cases h
  | cons first chars ih =>
    rw [lineEndsFrom] at h
    have hlater {afterReturn : Bool} (hmem : c ∈ lineEndsFrom afterReturn chars) :
        c ≠ '\r' ∧ (c = '\n' ∨ c ∈ first :: chars) :=
      ⟨(ih hmem).1, (ih hmem).2.imp_right (List.mem_cons_of_mem first)⟩
    split_ifs at h with hreturn hfeed
    · obtain rfl | hmem := List.mem_cons.mp h
      · exact ⟨by decide, .inl rfl⟩
      · exact hlater hmem
    · exact hlater h
    · obtain rfl | hmem := List.mem_cons.mp h
      · exact ⟨hreturn, .inr List.mem_cons_self⟩
      · exact hlater hmem

theorem lineEnds_eq_self_iff (chars : List Char) : lineEnds chars = chars ↔ '\r' ∉ chars := by
  refine ⟨fun heq hmem ↦ ?_, lineEnds_of_notMem⟩
  rw [← heq] at hmem
  exact (mem_lineEndsFrom hmem).1 rfl

theorem isChar_lineEnds {chars : List Char} (h : ∀ c ∈ chars, isChar c = true) :
    ∀ c ∈ lineEnds chars, isChar c = true := by
  intro c hmem
  obtain ⟨-, rfl | hold⟩ := mem_lineEndsFrom hmem
  · rfl
  · exact h c hold

/-- A document is the content of the reader once all of it has been read. -/
theorem read_eq {document name : String} {attributes : List (String × String)} {content : List Node}
    (h : readContent ((lineEnds document.toList).length + 1) (lineEnds document.toList) =
      some ([.element name attributes content], [])) :
    read document = some (.element name attributes content) := by
  rw [read, h]

end Foundation.Xml
