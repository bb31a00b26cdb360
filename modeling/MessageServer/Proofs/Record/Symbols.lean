import Mathlib.Data.List.TakeWhile
import MessageServer.Symbol

/-!
# Symbols and their texts

A symbol keeps the first 16 bytes of a text, but it is read in characters.  The two meet at the
boundaries of the text: a text that is cut at a boundary is a text again, and one that is cut
elsewhere is none.

* `isText_take_iff`: what is left of a text behind a cut is text exactly if the cut is a boundary.
* `stem_eq_utf8`: the bytes before the first zero byte are a text, for no byte of a character but
  the character zero is zero.
* `content_ofText`, `text_of_content` and `text_of_not_isText` are all that is used of the
  definitions of `Symbol`.
* `roundTrips` is the main statement.
-/

namespace MessageServer

namespace Symbol

/-! ## Texts as bytes -/

/-- The bytes of a text. -/
def utf8 (t : String) : List UInt8 :=
  t.toUTF8.data.toList

/-- The bytes are those of some text: they are well-formed. -/
def IsText (bs : List UInt8) : Prop :=
  ∃ t, utf8 t = bs

/-- A character of the text ends at the place, and the next one begins there. -/
def Boundary (n : Nat) (bs : List UInt8) : Prop :=
  ∃ front back, utf8 front ++ utf8 back = bs ∧ (utf8 front).length = n

/-- The bytes before the first zero byte. -/
def stem (t : String) : List UInt8 :=
  (utf8 t).takeWhile (· != 0)

variable {t u : String} {bs : List UInt8} {n : Nat} {s : Symbol}

theorem utf8_append (t u : String) : utf8 (t ++ u) = utf8 t ++ utf8 u := by
  simp [utf8]

theorem utf8_injective : Function.Injective utf8 := by
  intro t u h
  exact String.toByteArray_inj.1 (ByteArray.ext (Array.toList_inj.1 h))

theorem utf8_ofList (cs : List Char) :
    utf8 (String.ofList cs) = cs.flatMap String.utf8EncodeChar := by
  simp [utf8, List.utf8Encode]

theorem exists_utf8_eq_flatMap (t : String) :
    ∃ cs, t = String.ofList cs ∧ utf8 t = cs.flatMap String.utf8EncodeChar := by
  obtain ⟨cs, rfl⟩ := t.exists_eq_ofList
  exact ⟨cs, rfl, utf8_ofList cs⟩

/-! ## Boundaries -/

/-- A text that the bytes of another one begin with ends at a boundary of it. -/
theorem boundary_of_utf8_append {rest : List UInt8} (h : utf8 u ++ rest = utf8 t) :
    ∃ back, utf8 back = rest := by
  obtain ⟨us, rfl, hus⟩ := exists_utf8_eq_flatMap u
  obtain ⟨cs, rfl, hcs⟩ := exists_utf8_eq_flatMap t
  rw [hus, hcs] at h
  have hprefix : us <+: cs := by
    refine List.isPrefix_of_utf8Encode_append_eq_utf8Encode rest.toByteArray ?_
    rw [List.utf8Encode, List.utf8Encode, ← List.toByteArray_append, h]
  obtain ⟨back, rfl⟩ := hprefix
  refine ⟨String.ofList back, ?_⟩
  rw [List.flatMap_append] at h
  rw [utf8_ofList, List.append_cancel_left h]

/-- A cut leaves a text behind exactly at a boundary. -/
theorem isText_take_iff (h : IsText bs) (hn : n ≤ bs.length) :
    IsText (bs.take n) ↔ Boundary n bs := by
  obtain ⟨t, rfl⟩ := h
  constructor
  · rintro ⟨front, hfront⟩
    have hsplit : utf8 front ++ (utf8 t).drop n = utf8 t := by
      rw [hfront, List.take_append_drop]
    obtain ⟨back, hback⟩ := boundary_of_utf8_append hsplit
    refine ⟨front, back, ?_, ?_⟩
    · rw [hback, hsplit]
    · rw [hfront, List.length_take, Nat.min_eq_left hn]
  · rintro ⟨front, back, hsplit, rfl⟩
    exact ⟨front, by rw [← hsplit, List.take_left]⟩

/-- Boundaries are told by one byte: the next character begins with one that begins characters. -/
theorem boundary_iff_firstByte (h : IsText bs) (hn : n < bs.length) :
    Boundary n bs ↔ bs[n].IsUTF8FirstByte := by
  obtain ⟨t, rfl⟩ := h
  have hlength : (utf8 t).length = t.rawEndPos.byteIdx := rfl
  have hbyte : ∀ h, t.getUTF8Byte ⟨n⟩ h = (utf8 t)[n] := fun _ => rfl
  have hvalid : String.Pos.Raw.IsValid t ⟨n⟩ ↔ Boundary n (utf8 t) := by
    rw [String.Pos.Raw.isValid_iff_exists_append]
    constructor
    · rintro ⟨front, back, rfl, hplace⟩
      refine ⟨front, back, (utf8_append front back).symm, ?_⟩
      exact (congrArg String.Pos.Raw.byteIdx hplace).symm
    · rintro ⟨front, back, hsplit, rfl⟩
      rw [← utf8_append] at hsplit
      exact ⟨front, back, (utf8_injective hsplit).symm, rfl⟩
  rw [← hvalid, String.Pos.Raw.isValid_iff_isUTF8FirstByte]
  constructor
  · rintro (hend | ⟨hlt, hfirst⟩)
    · rw [hlength, ← hend] at hn
      exact absurd hn (Nat.lt_irrefl n)
    · exact hbyte hlt ▸ hfirst
  · exact fun hfirst => .inr ⟨hn, hfirst⟩

/-! ## The first zero byte -/

/-- No character but the character zero has a zero byte. -/
theorem eq_zero_of_mem_utf8EncodeChar {c : Char} (h : 0 ∈ String.utf8EncodeChar c) :
    c = '\x00' := by
  obtain ⟨i, hi, hzero⟩ := List.getElem_of_mem h
  -- a byte behind the first one of a character does not begin a character, but zero does
  have hfirst : i = 0 := by
    rw [← @UInt8.isUTF8FirstByte_getElem_utf8EncodeChar c i hi, hzero]
    exact .inl rfl
  subst hfirst
  have hhead : utf8 (String.ofList ['\x00']) ++ (String.utf8EncodeChar c).tail =
      utf8 (String.ofList [c]) := by
    rw [utf8_ofList, utf8_ofList, List.flatMap_singleton, List.flatMap_singleton]
    cases hbytes : String.utf8EncodeChar c with
    | nil => exact absurd hbytes String.utf8EncodeChar_ne_nil
    | cons b rest =>
        have hb : b = 0 := by simpa [hbytes] using hzero
        rw [hb]
        rfl
  -- so the text of this character begins with the character zero
  obtain ⟨back, hback⟩ := boundary_of_utf8_append hhead
  rw [← hback, ← utf8_append] at hhead
  have hchars := congrArg String.toList (utf8_injective hhead)
  rw [String.toList_append, String.toList_ofList, String.toList_ofList] at hchars
  exact (List.cons.inj hchars).1.symm

theorem takeWhile_flatMap_utf8EncodeChar (cs : List Char) :
    (cs.flatMap String.utf8EncodeChar).takeWhile (· != 0) =
      (cs.takeWhile (· != '\x00')).flatMap String.utf8EncodeChar := by
  induction cs with
  | nil => rfl
  | cons c cs ih =>
      by_cases hc : c = '\x00'
      · subst hc
        rfl
      · have hbytes : ∀ b ∈ String.utf8EncodeChar c, (b != 0) = true := by
          intro b hb
          rw [bne_iff_ne]
          rintro rfl
          exact hc (eq_zero_of_mem_utf8EncodeChar hb)
        have hkept : (c :: cs).takeWhile (· != '\x00') = c :: cs.takeWhile (· != '\x00') :=
          List.takeWhile_cons_of_pos (bne_iff_ne.2 hc)
        rw [List.flatMap_cons, List.takeWhile_append_of_pos hbytes, ih, hkept, List.flatMap_cons]

/-- The bytes before the first zero byte are the characters before the first character zero. -/
theorem stem_eq_utf8 (t : String) :
    stem t = utf8 (String.ofList (t.toList.takeWhile (· != '\x00'))) := by
  obtain ⟨cs, rfl, hcs⟩ := exists_utf8_eq_flatMap t
  rw [stem, hcs, takeWhile_flatMap_utf8EncodeChar, utf8_ofList, String.toList_ofList]

theorem isText_stem (t : String) : IsText (stem t) :=
  ⟨_, (stem_eq_utf8 t).symm⟩

/-! ## What a symbol holds and what it shows -/

/-- A symbol is the first bytes of the text and as many zeros as are missing. -/
theorem toList_ofText (t : String) :
    (ofText t).bytes.toList =
      (utf8 t).take 16 ++ List.replicate (16 - (utf8 t).length) 0 := by
  have hbytes : (ofText t).bytes.toList = List.ofFn fun i : Fin 16 => t.toUTF8.data.getD i 0 :=
    Vector.toList_ofFn
  rw [hbytes]
  apply List.ext_getElem
  · rw [List.length_ofFn, List.length_append, List.length_take, List.length_replicate]
    omega
  · intro i hi hi'
    rw [List.length_ofFn] at hi
    rw [List.getElem_ofFn, Array.getD_eq_getD_getElem?, ← Array.getElem?_toList]
    change (utf8 t)[i]?.getD 0 = _
    by_cases hlt : i < (utf8 t).length
    · rw [List.getElem_append_left (by rw [List.length_take]; omega), List.getElem_take,
        List.getElem?_eq_getElem hlt, Option.getD_some]
    · rw [List.getElem_append_right (by rw [List.length_take]; omega), List.getElem_replicate,
        List.getElem?_eq_none (Nat.le_of_not_lt hlt), Option.getD_none]

theorem eq_of_toList_eq {s s' : Symbol} (h : s.bytes.toList = s'.bytes.toList) : s = s' := by
  cases s
  cases s'
  exact congrArg mk (Vector.toList_inj.1 h)

theorem content_eq (s : Symbol) : s.content = s.bytes.toList.takeWhile (· != 0) :=
  rfl

theorem length_content_le (s : Symbol) : s.content.length ≤ 16 := by
  have hle := (List.takeWhile_prefix (l := s.bytes.toList) (· != 0)).length_le
  rwa [Vector.length_toList] at hle

/-- The bytes behind the first zero byte never show. -/
theorem content_ofText (t : String) : (ofText t).content = (stem t).take 16 := by
  have hzeros : ∀ n, (List.replicate n (0 : UInt8)).takeWhile (· != 0) = [] := by
    intro n
    rw [List.takeWhile_replicate, if_neg (by decide)]
  rw [content_eq, toList_ofText, stem, List.take_takeWhile, List.takeWhile_append, hzeros]
  split_ifs with hall
  · rw [List.append_nil]
    exact ((List.takeWhile_prefix _).eq_of_length hall).symm
  · rfl

/-- The text shown is the one that the content is the bytes of. -/
theorem text_of_content (h : s.content = utf8 t) : s.text = t := by
  have hvalid : (⟨s.content.toArray⟩ : ByteArray) = t.toByteArray := by
    rw [h]
    rfl
  rw [text, String.fromUTF8?, hvalid, dif_pos t.isValidUTF8]
  rfl

theorem text_of_not_isText (h : ¬IsText s.content) : s.text = "" := by
  have hinvalid : ¬(⟨s.content.toArray⟩ : ByteArray).IsValidUTF8 := by
    intro hvalid
    exact h ⟨String.fromUTF8 _ hvalid, rfl⟩
  rw [text, String.fromUTF8?, dif_neg hinvalid]
  rfl

theorem utf8_text (h : IsText s.content) : utf8 s.text = s.content := by
  obtain ⟨t, ht⟩ := h
  rw [text_of_content ht.symm, ht]

/-- A text that fits into a symbol fills it up with zeros. -/
theorem toList_ofText_of_le (h : (utf8 t).length ≤ 16) :
    (ofText t).bytes.toList = utf8 t ++ List.replicate (16 - (utf8 t).length) 0 := by
  rw [toList_ofText, List.take_of_length_le h]

/-! ## From a text to a symbol and back -/

/-- What is shown of a text. -/
structure Shows (t : String) : Prop where
  whole : (stem t).length ≤ 16 → utf8 (ofText t).text = stem t
  cut : 16 < (stem t).length → Boundary 16 (stem t) → utf8 (ofText t).text = (stem t).take 16
  split : 16 < (stem t).length → ¬Boundary 16 (stem t) → (ofText t).text = ""
  /-- Which of the two is the case can be read off the byte behind the cut. -/
  boundary : ∀ h : 16 < (stem t).length,
    Boundary 16 (stem t) ↔ (stem t)[16].IsUTF8FirstByte

theorem shows (t : String) : Shows t where
  whole := by
    intro hfits
    have hcontent : (ofText t).content = stem t := by
      rw [content_ofText, List.take_of_length_le hfits]
    rw [utf8_text (hcontent ▸ isText_stem t), hcontent]
  cut := by
    intro hlong hboundary
    have htext := (isText_take_iff (isText_stem t) hlong.le).2 hboundary
    rw [← content_ofText] at htext ⊢
    exact utf8_text htext
  split := by
    intro hlong hboundary
    apply text_of_not_isText
    rw [content_ofText, isText_take_iff (isText_stem t) hlong.le]
    exact hboundary
  boundary := boundary_iff_firstByte (isText_stem t)

/-- The bytes before the first zero byte are well-formed, and from it on there are only zeros. -/
structure Canonical (s : Symbol) : Prop where
  isText : IsText s.content
  padded : ∀ i, s.content.length ≤ i → ∀ h : i < 16, s.bytes[i] = 0

theorem Canonical.toList_eq (h : s.Canonical) :
    s.bytes.toList = s.content ++ List.replicate (16 - s.content.length) 0 := by
  have hle := length_content_le s
  have hprefix : s.content <+: s.bytes.toList := List.takeWhile_prefix _
  apply List.ext_getElem
  · rw [Vector.length_toList, List.length_append, List.length_replicate]
    omega
  · intro i hi hi'
    rw [Vector.length_toList] at hi
    rcases Nat.lt_or_ge i s.content.length with hshown | hbehind
    · rw [List.getElem_append_left hshown, hprefix.getElem hshown]
    · rw [List.getElem_append_right hbehind, List.getElem_replicate, Vector.getElem_toList,
        h.padded i hbehind hi]

/-- The text shown has no zero byte and fits, so that nothing of it is lost on the way back. -/
theorem stem_text (s : Symbol) : stem s.text = utf8 s.text ∧ (utf8 s.text).length ≤ 16 := by
  by_cases htext : IsText s.content
  · rw [stem, utf8_text htext]
    exact ⟨List.takeWhile_idem, length_content_le s⟩
  · rw [text_of_not_isText htext]
    exact ⟨rfl, Nat.zero_le 16⟩

theorem text_ofText_text (s : Symbol) : (ofText s.text).text = s.text := by
  obtain ⟨hstem, hfits⟩ := stem_text s
  apply utf8_injective
  rw [(shows s.text).whole (hstem ▸ hfits), hstem]

theorem isText_content_ofText_text (s : Symbol) : IsText (ofText s.text).content := by
  obtain ⟨hstem, hfits⟩ := stem_text s
  rw [content_ofText, hstem, List.take_of_length_le hfits]
  exact ⟨s.text, rfl⟩

theorem ofText_text_eq_iff (s : Symbol) : ofText s.text = s ↔ s.Canonical := by
  constructor
  · intro hback
    have htext : IsText s.content := hback ▸ isText_content_ofText_text s
    have hlist := toList_ofText_of_le (stem_text s).2
    rw [hback, utf8_text htext] at hlist
    refine ⟨htext, fun i hbehind hi => ?_⟩
    have hbyte : s.bytes.toList[i]? = some 0 := by
      rw [hlist, List.getElem?_append_right hbehind, List.getElem?_replicate,
        if_pos (Nat.sub_lt_sub_right hbehind hi)]
    rw [Vector.getElem?_toList, Vector.getElem?_eq_getElem hi] at hbyte
    exact Option.some.inj hbyte
  · intro hcanonical
    have hlist := toList_ofText_of_le (stem_text s).2
    rw [utf8_text hcanonical.isText, ← hcanonical.toList_eq] at hlist
    exact eq_of_toList_eq hlist

/-- What a symbol shows, and what becomes of it when it is made of its own text. -/
structure Reads (s : Symbol) : Prop where
  valid : IsText s.content → utf8 s.text = s.content
  invalid : ¬IsText s.content → s.text = ""
  restored : ofText s.text = s ↔ s.Canonical
  again : (ofText s.text).text = s.text

/-- A text shows up to its first zero byte or to the end of the symbol, and not at all where the
symbol ends within a character.  A symbol is the one of its text exactly if it is canonical, and its
text is the one of that symbol in any case. -/
theorem roundTrips : (∀ t, Shows t) ∧ ∀ s : Symbol, s.Reads :=
  ⟨shows, fun s => ⟨utf8_text, text_of_not_isText, ofText_text_eq_iff s, text_ofText_text s⟩⟩

/-- The second text has 17 bytes, and the cut is within its last character. -/
example : (ofText "ABCDEFGHIJKLMNOPQRS").text = "ABCDEFGHIJKLMNOP" ∧
    (ofText "ABCDEFGHIJKLMNOé").text = "" := by
  decide +kernel

end Symbol

end MessageServer
