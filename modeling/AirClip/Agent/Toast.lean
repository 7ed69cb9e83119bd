import AirClip.Foundation.Xml

/-!
# Arrival toasts

An arriving clip is shown by a toast, whose XML is put together from the name of the sender and a
preview of the text.  Escaping takes care of markup in either.  A character that XML does not know is
not escaped and cannot be: the document is then not well-formed, and no toast appears.  A carriage return
in the title could be escaped and is not, so that it is read as a line feed.
-/

open Foundation

namespace AirClip.Agent

def toastPreviewChars : ℕ := 40

/-- Line ends become spaces, for a toast of a single line. -/
def flatten (ch : Char) : Char := if ch = '\n' ∨ ch = '\r' then ' ' else ch

/-- The loop over the characters, of which `count` have been taken. -/
def previewFrom (count : ℕ) : List Char → List Char
  | [] => []
  | ch :: rest =>
    if count = toastPreviewChars then ['…'] else flatten ch :: previewFrom (count + 1) rest

def toastPreview (text : String) : String := String.ofList (previewFrom 0 text.toList)

def escapeChar (c : Char) : List Char :=
  if c = '&' then "&amp;".toList
  else if c = '<' then "&lt;".toList
  else if c = '>' then "&gt;".toList
  else if c = '"' then "&quot;".toList
  else if c = '\'' then "&apos;".toList
  else [c]

def xmlEscape (s : String) : String := String.ofList (s.toList.flatMap escapeChar)

/-- The ToastGeneric payload. -/
def toastXml (title body : String) : String :=
  "<toast activationType=\"foreground\"><visual><binding template=\"ToastGeneric\"><text>" ++
    xmlEscape title ++ "</text><text>" ++ xmlEscape body ++ "</text></binding></visual></toast>"

/-! ## Previews -/

theorem previewFrom_eq {count : ℕ} (hcount : count ≤ toastPreviewChars) (chars : List Char) :
    previewFrom count chars = (chars.take (toastPreviewChars - count)).map flatten ++
      if toastPreviewChars - count < chars.length then ['…'] else [] := by
  induction chars generalizing count with
  | nil => simp [previewFrom]
  | cons ch rest ih =>
    rw [previewFrom]
    split_ifs with hfull hlong hlong
    · simp [hfull]
    · rw [hfull, Nat.sub_self, List.length_cons] at hlong
      omega
    all_goals
      have hlt : count < toastPreviewChars := Nat.lt_of_le_of_ne hcount hfull
      have hsucc : toastPreviewChars - count = toastPreviewChars - (count + 1) + 1 := by omega
      rw [hsucc, List.length_cons] at hlong
      rw [hsucc, ih hlt, List.take_succ_cons, List.map_cons, List.cons_append]
    · rw [if_pos (by omega)]
    · rw [if_neg (by omega)]

/-- The first forty characters, and an ellipsis if there are more. -/
theorem toList_toastPreview (text : String) : (toastPreview text).toList =
    (text.toList.take toastPreviewChars).map flatten ++
      if toastPreviewChars < text.toList.length then ['…'] else [] := by
  rw [toastPreview, String.toList_ofList, previewFrom_eq (Nat.zero_le _), Nat.sub_zero]

theorem isChar_flatten (ch : Char) : Xml.isChar (flatten ch) = Xml.isChar ch := by
  unfold flatten
  split_ifs with h
  · obtain rfl | rfl := h <;> rfl
  · rfl

theorem isChar_toastPreview (text : String) :
    (∀ c ∈ (toastPreview text).toList, Xml.isChar c = true) ↔
      ∀ c ∈ text.toList.take toastPreviewChars, Xml.isChar c = true := by
  rw [toList_toastPreview]
  constructor
  · intro h c hmem
    rw [← isChar_flatten]
    exact h _ (List.mem_append_left _ (List.mem_map_of_mem hmem))
  · intro h c hmem
    obtain hkept | hellipsis := List.mem_append.mp hmem
    · obtain ⟨ch, hch, rfl⟩ := List.mem_map.mp hkept
      rw [isChar_flatten]
      exact h ch hch
    · split_ifs at hellipsis
      · rw [List.mem_singleton.mp hellipsis]
        rfl
      · cases hellipsis

theorem return_notMem_toastPreview (text : String) : '\r' ∉ (toastPreview text).toList := by
  rw [toList_toastPreview]
  intro hmem
  obtain hkept | hellipsis := List.mem_append.mp hmem
  · obtain ⟨ch, -, hch⟩ := List.mem_map.mp hkept
    unfold flatten at hch
    split_ifs at hch with hend
    · exact absurd hch (by decide)
    · exact hend (.inr hch)
  · split_ifs at hellipsis
    · exact absurd (List.mem_singleton.mp hellipsis) (by decide)
    · cases hellipsis

/-! ## Escaped text -/

/-- An escaped character is a reference to the entity that stands for it, or itself. -/
theorem escapeChar_cases (c : Char) :
    (∃ entity name, escapeChar c = '&' :: name ∧ entity.char = c ∧
      ∀ rest, Xml.readReference (name ++ rest) = some (entity, rest)) ∨
    (c ≠ '<' ∧ c ≠ '&' ∧ c ≠ '>' ∧ escapeChar c = [c]) := by
  unfold escapeChar
  split_ifs with hamp hlt hgt hquot hapos
  · exact .inl ⟨.amp, _, rfl, hamp.symm, fun _ ↦ rfl⟩
  · exact .inl ⟨.lt, _, rfl, hlt.symm, fun _ ↦ rfl⟩
  · exact .inl ⟨.gt, _, rfl, hgt.symm, fun _ ↦ rfl⟩
  · exact .inl ⟨.quot, _, rfl, hquot.symm, fun _ ↦ rfl⟩
  · exact .inl ⟨.apos, _, rfl, hapos.symm, fun _ ↦ rfl⟩
  · exact .inr ⟨hlt, hamp, hgt, rfl⟩

theorem isChar_escapeChar (c : Char) :
    (∀ c' ∈ escapeChar c, Xml.isChar c' = true) ↔ Xml.isChar c = true := by
  unfold escapeChar
  split_ifs with hamp hlt hgt hquot hapos
  · exact iff_of_true (List.all_eq_true.mp (by decide)) (hamp ▸ rfl)
  · exact iff_of_true (List.all_eq_true.mp (by decide)) (hlt ▸ rfl)
  · exact iff_of_true (List.all_eq_true.mp (by decide)) (hgt ▸ rfl)
  · exact iff_of_true (List.all_eq_true.mp (by decide)) (hquot ▸ rfl)
  · exact iff_of_true (List.all_eq_true.mp (by decide)) (hapos ▸ rfl)
  · simp

theorem isChar_flatMap_escapeChar (chars : List Char) :
    (∀ c ∈ chars.flatMap escapeChar, Xml.isChar c = true) ↔ ∀ c ∈ chars, Xml.isChar c = true := by
  simp only [List.mem_flatMap, forall_exists_index, and_imp]
  constructor
  · intro h c hmem
    exact (isChar_escapeChar c).mp fun c' hmem' ↦ h c' c hmem hmem'
  · intro h c' c hmem hmem'
    exact (isChar_escapeChar c).mpr (h c hmem) c' hmem'

theorem gt_notMem_escaped (chars : List Char) : '>' ∉ chars.flatMap escapeChar := by
  intro hmem
  obtain ⟨c, -, hc⟩ := List.mem_flatMap.mp hmem
  unfold escapeChar at hc
  split_ifs at hc with hamp hlt hgt
  · exact absurd hc (by decide)
  · exact absurd hc (by decide)
  · exact absurd hc (by decide)
  · exact absurd hc (by decide)
  · exact absurd hc (by decide)
  · exact hgt (List.mem_singleton.mp hc).symm

theorem sectionEnd_isPrefixOf {chars rest : List Char} (h : '>' ∉ chars) :
    [']', ']', '>'].isPrefixOf (chars ++ '<' :: rest) = false := by
  by_contra hstarts
  rw [Bool.not_eq_false, List.isPrefixOf_iff_prefix] at hstarts
  obtain ⟨behind, hbehind⟩ := hstarts
  obtain _ | ⟨_, _ | ⟨_, _ | ⟨third, _⟩⟩⟩ := chars
  · cases hbehind
  · cases hbehind
  · cases hbehind
  · cases hbehind
    simp at h

theorem flatMap_escapeChar_cons_of_ne {c : Char} (hc : c ≠ '&' ∧ c ≠ '<' ∧ c ≠ '>' ∧ c ≠ '"' ∧ c ≠ '\'')
    (chars : List Char) :
    (c :: chars).flatMap escapeChar = c :: chars.flatMap escapeChar := by
  obtain ⟨hamp, hlt, hgt, hquot, hapos⟩ := hc
  rw [List.flatMap_cons, escapeChar, if_neg hamp, if_neg hlt, if_neg hgt, if_neg hquot, if_neg hapos]
  rfl

/-- Escaping leaves line ends alone. -/
theorem lineEndsFrom_escaped (afterReturn : Bool) (chars : List Char) :
    Xml.lineEndsFrom afterReturn (chars.flatMap escapeChar) =
      (Xml.lineEndsFrom afterReturn chars).flatMap escapeChar := by
  induction chars generalizing afterReturn with
  | nil => rfl
  | cons c chars ih =>
    by_cases hreturn : c = '\r'
    · rw [hreturn, flatMap_escapeChar_cons_of_ne (by decide), Xml.lineEndsFrom, if_pos rfl, ih,
        Xml.lineEndsFrom, if_pos rfl, flatMap_escapeChar_cons_of_ne (by decide)]
    · by_cases hfeed : c = '\n'
      · rw [hfeed, flatMap_escapeChar_cons_of_ne (by decide)]
        cases afterReturn
        · rw [show Xml.lineEndsFrom false ('\n' :: chars) = '\n' :: Xml.lineEndsFrom false chars from rfl,
            flatMap_escapeChar_cons_of_ne (by decide), ← ih false]
          rfl
        · exact ih false
      · have hescaped : '\r' ∉ escapeChar c ∧ '\n' ∉ escapeChar c := by
          unfold escapeChar
          split_ifs <;> first | exact ⟨by decide, by decide⟩ | simp [Ne.symm hreturn, Ne.symm hfeed]
        obtain ⟨first, rest, hcons⟩ : ∃ first rest, escapeChar c = first :: rest := by
          obtain ⟨-, name, hescape, -⟩ | ⟨-, -, -, hescape⟩ := escapeChar_cases c
          · exact ⟨_, _, hescape⟩
          · exact ⟨_, _, hescape⟩
        have hfirst : first ≠ '\n' := by
          rintro rfl
          exact hescaped.2 (hcons ▸ List.mem_cons_self)
        have hstart : Xml.lineEndsFrom afterReturn (first :: (rest ++ chars.flatMap escapeChar)) =
            Xml.lineEnds (first :: (rest ++ chars.flatMap escapeChar)) :=
          Xml.lineEndsFrom_append_cons hfirst afterReturn [] _
        rw [List.flatMap_cons, hcons, List.cons_append, hstart, ← List.cons_append, ← hcons,
          Xml.lineEnds_append_of_notMem hescaped.1, Xml.lineEndsFrom, if_neg hreturn,
          if_neg (by simp [hfeed]), List.flatMap_cons, ← ih false]
        rfl

theorem lineEnds_escaped (chars : List Char) :
    Xml.lineEnds (chars.flatMap escapeChar) = (Xml.lineEnds chars).flatMap escapeChar :=
  lineEndsFrom_escaped false chars

/-- Escaped text up to an end tag is read as one node for each character, and unescapes to the text. -/
theorem readContent_escaped {chars : List Char} (h : ∀ c ∈ chars, Xml.isChar c = true) :
    ∃ nodes, Xml.text nodes = some chars ∧ ∀ fuel name rest, chars.length < fuel →
      Xml.readContent fuel (chars.flatMap escapeChar ++ (Xml.endTag name ++ rest)) =
        some (nodes, Xml.endTag name ++ rest) := by
  induction chars with
  | nil =>
    refine ⟨[], rfl, ?_⟩
    intro fuel name rest hfuel
    obtain ⟨fuel, rfl⟩ := Nat.exists_eq_add_of_lt hfuel
    exact Xml.readContent_endTag _ name rest
  | cons c chars ih =>
    obtain ⟨nodes, htext, hread⟩ := ih fun other hmem ↦ h other (List.mem_cons_of_mem _ hmem)
    obtain ⟨entity, reference, hescape, hentity, hreference⟩ | ⟨hlt, hamp, -, hescape⟩ :=
      escapeChar_cases c
    · refine ⟨.reference entity :: nodes, by rw [Xml.text, htext, hentity, Option.map_some], ?_⟩
      intro fuel name rest hfuel
      obtain ⟨fuel, rfl⟩ := Nat.exists_eq_add_of_lt (Nat.zero_lt_of_lt hfuel)
      rw [List.flatMap_cons, hescape, List.cons_append, List.cons_append, List.append_assoc]
      rw [List.length_cons] at hfuel
      exact Xml.readContent_reference (hreference _) (hread _ name rest (by omega))
    · refine ⟨.character c :: nodes, by rw [Xml.text, htext, Option.map_some], ?_⟩
      intro fuel name rest hfuel
      obtain ⟨fuel, rfl⟩ := Nat.exists_eq_add_of_lt (Nat.zero_lt_of_lt hfuel)
      have hend : [']', ']', '>'].isPrefixOf
          ((c :: chars).flatMap escapeChar ++ (Xml.endTag name ++ rest)) = false :=
        sectionEnd_isPrefixOf (gt_notMem_escaped (c :: chars))
      rw [List.flatMap_cons, hescape, List.singleton_append, List.cons_append] at hend ⊢
      rw [List.length_cons] at hfuel
      exact Xml.readContent_character hlt hamp (h c List.mem_cons_self) hend
        (hread _ name rest (by omega))

/-! ## The document -/

/-- The template around two pieces of content. -/
def toastTemplate (title body : List Xml.Node) : Xml.Node :=
  .element "toast" [("activationType", "foreground")]
    [.element "visual" []
      [.element "binding" [("template", "ToastGeneric")]
        [.element "text" [] title, .element "text" [] body]]]

/-- The document is well-formed, it is the template with its two text elements, there is no markup in
these, and they unescape to the title and the body. -/
structure Shows (document title body : String) : Prop where
  chars : ∀ c ∈ document.toList, Xml.isChar c = true
  read : ∃ titleNodes bodyNodes, Xml.read document = some (toastTemplate titleNodes bodyNodes) ∧
    Xml.text titleNodes = some title.toList ∧ Xml.text bodyNodes = some body.toList

/-- The tags of the template around the escaped texts. -/
def payload (title body : List Char) : List Char :=
  Xml.startTag "toast" [("activationType", "foreground")] ++ (Xml.startTag "visual" [] ++
    (Xml.startTag "binding" [("template", "ToastGeneric")] ++
      (Xml.startTag "text" [] ++ (title.flatMap escapeChar ++ (Xml.endTag "text" ++
        (Xml.startTag "text" [] ++ (body.flatMap escapeChar ++ (Xml.endTag "text" ++
          (Xml.endTag "binding" ++ (Xml.endTag "visual" ++ (Xml.endTag "toast" ++ [])))))))))))

theorem toList_toastXml (title body : String) :
    (toastXml title body).toList = payload title.toList body.toList := by
  have hopening :
      "<toast activationType=\"foreground\"><visual><binding template=\"ToastGeneric\"><text>".toList =
      Xml.startTag "toast" [("activationType", "foreground")] ++ (Xml.startTag "visual" [] ++
        (Xml.startTag "binding" [("template", "ToastGeneric")] ++ Xml.startTag "text" [])) := by
    decide +kernel
  have hbetween : "</text><text>".toList = Xml.endTag "text" ++ Xml.startTag "text" [] := by
    decide +kernel
  have hclosing : "</text></binding></visual></toast>".toList =
      Xml.endTag "text" ++ (Xml.endTag "binding" ++ (Xml.endTag "visual" ++ Xml.endTag "toast")) := by
    decide +kernel
  have happend (opening title between body closing : String) :
      (opening ++ title ++ between ++ body ++ closing).toList =
        opening.toList ++ (title.toList ++ (between.toList ++ (body.toList ++ closing.toList))) := by
    simp only [String.toList_append, List.append_assoc]
  unfold toastXml payload
  rw [happend, hopening, hbetween, hclosing, xmlEscape, xmlEscape, String.toList_ofList,
    String.toList_ofList]
  simp only [List.append_assoc, List.append_nil]

theorem isChar_toastXml (title body : String) :
    (∀ c ∈ (toastXml title body).toList, Xml.isChar c = true) ↔
      (∀ c ∈ title.toList, Xml.isChar c = true) ∧ ∀ c ∈ body.toList, Xml.isChar c = true := by
  have htags : ([Xml.startTag "toast" [("activationType", "foreground")],
      Xml.startTag "visual" [], Xml.startTag "binding" [("template", "ToastGeneric")],
      Xml.startTag "text" [], Xml.endTag "text", Xml.endTag "binding", Xml.endTag "visual",
      Xml.endTag "toast"].all fun tag ↦ tag.all Xml.isChar) = true := by decide +kernel
  simp only [List.all_eq_true, List.forall_mem_cons] at htags
  obtain ⟨htoast, hvisual, hbinding, htext, htext', hbinding', hvisual', htoast', -⟩ := htags
  rw [toList_toastXml, payload, ← isChar_flatMap_escapeChar title.toList,
    ← isChar_flatMap_escapeChar body.toList]
  simp only [List.forall_mem_append]
  constructor
  · rintro ⟨-, -, -, -, htitle, -, -, hbody, -⟩
    exact ⟨htitle, hbody⟩
  · rintro ⟨htitle, hbody⟩
    exact ⟨htoast, hvisual, hbinding, htext, htitle, htext', htext, hbody, htext', hbinding', hvisual',
      htoast', by simp⟩

theorem length_le_flatMap_escapeChar (chars : List Char) :
    chars.length ≤ (chars.flatMap escapeChar).length := by
  induction chars with
  | nil => exact le_rfl
  | cons c chars ih =>
    have hpos : 0 < (escapeChar c).length := by
      obtain ⟨-, name, hescape, -⟩ | ⟨-, -, -, hescape⟩ := escapeChar_cases c <;> simp [hescape]
    rw [List.flatMap_cons, List.length_append, List.length_cons]
    omega

/-- Only the line ends of the texts are taken care of. -/
theorem lineEnds_payload (title body : List Char) :
    Xml.lineEnds (payload title body) = payload (Xml.lineEnds title) (Xml.lineEnds body) := by
  have hlt (chars rest : List Char) :
      Xml.lineEnds (chars ++ (Xml.endTag "text" ++ rest)) =
        Xml.lineEnds chars ++ Xml.lineEnds (Xml.endTag "text" ++ rest) :=
    Xml.lineEnds_append_cons (by decide) chars _
  have hclosing : Xml.lineEnds (Xml.endTag "binding" ++ (Xml.endTag "visual" ++
      (Xml.endTag "toast" ++ []))) = Xml.endTag "binding" ++ (Xml.endTag "visual" ++
        (Xml.endTag "toast" ++ [])) := Xml.lineEnds_of_notMem (by decide +kernel)
  unfold payload
  rw [Xml.lineEnds_append_of_notMem (by decide +kernel), Xml.lineEnds_append_of_notMem (by decide +kernel),
    Xml.lineEnds_append_of_notMem (by decide +kernel), Xml.lineEnds_append_of_notMem (by decide +kernel),
    hlt, lineEnds_escaped, Xml.lineEnds_append_of_notMem (by decide +kernel),
    Xml.lineEnds_append_of_notMem (by decide +kernel), hlt, lineEnds_escaped,
    Xml.lineEnds_append_of_notMem (by decide +kernel), hclosing]

/-- A title and a body of XML characters are read back from the payload, in the places of the
template, with their line ends taken care of. -/
theorem read_toastXml {title body : String} (htitle : ∀ c ∈ title.toList, Xml.isChar c = true)
    (hbody : ∀ c ∈ body.toList, Xml.isChar c = true) :
    ∃ titleNodes bodyNodes,
      Xml.read (toastXml title body) = some (toastTemplate titleNodes bodyNodes) ∧
        Xml.text titleNodes = some (Xml.lineEnds title.toList) ∧
          Xml.text bodyNodes = some (Xml.lineEnds body.toList) := by
  obtain ⟨titleNodes, htitleText, hreadTitle⟩ := readContent_escaped (Xml.isChar_lineEnds htitle)
  obtain ⟨bodyNodes, hbodyText, hreadBody⟩ := readContent_escaped (Xml.isChar_lineEnds hbody)
  refine ⟨titleNodes, bodyNodes, ?_, htitleText, hbodyText⟩
  have hdocument : Xml.lineEnds (toastXml title body).toList =
      payload (Xml.lineEnds title.toList) (Xml.lineEnds body.toList) := by
    rw [toList_toastXml, lineEnds_payload]
  obtain ⟨fuel, hfuel, htitleFuel, hbodyFuel⟩ : ∃ fuel,
      (payload (Xml.lineEnds title.toList) (Xml.lineEnds body.toList)).length + 1 = fuel + 6 ∧
        (Xml.lineEnds title.toList).length < fuel + 2 ∧
          (Xml.lineEnds body.toList).length < fuel + 1 := by
    have htitleLength := length_le_flatMap_escapeChar (Xml.lineEnds title.toList)
    have hbodyLength := length_le_flatMap_escapeChar (Xml.lineEnds body.toList)
    refine ⟨(payload (Xml.lineEnds title.toList) (Xml.lineEnds body.toList)).length - 5, ?_⟩
    simp only [payload, List.length_append, Xml.endTag, List.length_cons]
    omega
  apply Xml.read_eq
  rw [hdocument, hfuel]
  apply Xml.readContent_element (by decide +kernel) _ (Xml.readContent_nil _)
  apply Xml.readContent_element (by decide +kernel) _ (Xml.readContent_endTag _ _ _)
  apply Xml.readContent_element (by decide +kernel) _ (Xml.readContent_endTag _ _ _)
  apply Xml.readContent_element (by decide +kernel) (hreadTitle _ _ _ (by omega))
  apply Xml.readContent_element (by decide +kernel) (hreadBody _ _ _ (by omega))
  exact Xml.readContent_endTag _ _ _

/-- A payload shows texts of XML characters without carriage returns, and no others. -/
theorem shows_toastXml_iff (title body : String) : Shows (toastXml title body) title body ↔
    ((∀ c ∈ title.toList, Xml.isChar c = true) ∧ '\r' ∉ title.toList) ∧
      (∀ c ∈ body.toList, Xml.isChar c = true) ∧ '\r' ∉ body.toList := by
  constructor
  · intro h
    obtain ⟨htitle, hbody⟩ := (isChar_toastXml title body).mp h.chars
    obtain ⟨titleNodes, bodyNodes, hread, htitleText, hbodyText⟩ := h.read
    obtain ⟨titleNodes', bodyNodes', hread', htitleText', hbodyText'⟩ := read_toastXml htitle hbody
    have hsame := hread.symm.trans hread'
    simp only [toastTemplate, Option.some.injEq, Xml.Node.element.injEq, List.cons.injEq, and_true,
      true_and] at hsame
    obtain ⟨rfl, rfl⟩ := hsame
    have htitleKept := Option.some.inj (htitleText'.symm.trans htitleText)
    have hbodyKept := Option.some.inj (hbodyText'.symm.trans hbodyText)
    exact ⟨⟨htitle, (Xml.lineEnds_eq_self_iff _).mp htitleKept⟩, hbody,
      (Xml.lineEnds_eq_self_iff _).mp hbodyKept⟩
  · rintro ⟨⟨htitle, htitleKept⟩, hbody, hbodyKept⟩
    refine ⟨(isChar_toastXml _ _).mpr ⟨htitle, hbody⟩, ?_⟩
    have hread := read_toastXml htitle hbody
    rwa [Xml.lineEnds_of_notMem htitleKept, Xml.lineEnds_of_notMem hbodyKept] at hread

/-- The toast shows the title and the preview exactly if the title and the first forty characters of the
text are characters of XML, and there is no carriage return in the title. -/
theorem shows_toast_iff (title text : String) :
    Shows (toastXml title (toastPreview text)) title (toastPreview text) ↔
      (∀ c ∈ title.toList ++ text.toList.take toastPreviewChars, Xml.isChar c = true) ∧
        '\r' ∉ title.toList := by
  rw [shows_toastXml_iff, List.forall_mem_append, ← isChar_toastPreview]
  constructor
  · rintro ⟨⟨htitle, hkept⟩, hbody, -⟩
    exact ⟨⟨htitle, hbody⟩, hkept⟩
  · rintro ⟨⟨htitle, hbody⟩, hkept⟩
    exact ⟨⟨htitle, hkept⟩, hbody, return_notMem_toastPreview text⟩

/-- A clip with a control character in it gives a payload that is no XML, and a carriage return in the
title is read as a line feed. -/
theorem control_character_no_toast :
    (¬ Shows (toastXml "📋 from Phone" (toastPreview "red\x1b[0m")) "📋 from Phone"
        (toastPreview "red\x1b[0m") ∧
      (Xml.read (toastXml "📋 from Phone" (toastPreview "red\x1b[0m"))).isNone) ∧
    ¬ Shows (toastXml "📋 from a\rb" (toastPreview "hi")) "📋 from a\rb" (toastPreview "hi") := by
  refine ⟨⟨?_, by decide +kernel⟩, ?_⟩
  · intro h
    obtain ⟨-, hbody⟩ := (isChar_toastXml _ _).mp h.chars
    exact absurd (hbody '\x1b' (by decide +kernel)) (by decide)
  · intro h
    exact absurd ((shows_toastXml_iff _ _).mp h).1.2 (by decide +kernel)

end AirClip.Agent
