import Mathlib
import TemplateGrep.Proofs.Yaml.Lines
import TemplateGrep.Yaml.Lexer

namespace TemplateGrep.Yaml.ScalarWriter

section Texts

variable {text : String}

lemma isPlain_of_style (h : style text = .plain) : IsPlain text.toList := by
  rw [style] at h
  split at h
  · split at h <;> cases h
  split at h
  case isTrue hfits =>
    rw [Bool.and_eq_true, Bool.not_eq_true'] at hfits
    refine .of_plainFits (fun hnil => ?_) hfits.2
    have htyped := hfits.1
    simp [isTyped, hnil] at htyped
  case isFalse => split at h <;> cases h

lemma isQuotable_of_style (h : style text = .singleQuoted) : IsQuotable text.toList := by
  rw [style] at h
  split at h
  · split at h <;> cases h
  case isFalse hn =>
    split at h
    · cases h
    split at h
    case isTrue hfits =>
      simp only [singleQuotesFit, isSpecial, Bool.and_eq_true, Bool.not_eq_true',
        List.any_eq_false, Bool.not_eq_false] at hfits
      refine ⟨fun c hc => ⟨hfits.2 c hc, ?_⟩, hfits.1.2, hfits.1.1⟩
      rintro rfl
      exact hn (by simpa using hc)
    case isFalse => cases h

lemma literalFits_of_style (h : style text = .literal) :
    '\n' ∈ text.toList ∧ ∀ c ∈ text.toList, isPrintable c = true := by
  rw [style] at h
  split at h
  case isTrue hn =>
    split at h
    case isTrue hfits =>
      simp only [literalFits, isSpecial, Bool.and_eq_true, Bool.not_eq_true',
        List.any_eq_false, Bool.not_eq_false] at hfits
      exact ⟨by simpa using hn, hfits.2⟩
    case isFalse => cases h
  case isFalse =>
    split at h
    · cases h
    · split at h <;> cases h

lemma style_eq_doubleQuoted (hplain : style text ≠ .plain) (hsingle : style text ≠ .singleQuoted)
    (hliteral : style text ≠ .literal) : style text = .doubleQuoted := by
  rw [style] at hplain hsingle hliteral ⊢
  split_ifs at hplain hsingle hliteral ⊢ <;> first | rfl | contradiction

lemma inline_cases (text : String) :
    (IsPlain text.toList ∧ inline text = text.toList) ∨
      (IsQuotable text.toList ∧ inline text = '\'' :: singleQuoted false text.toList) ∨
      inline text = '"' :: text.toList.flatMap doubleQuotedChar ++ ['"'] := by
  rw [inline]
  split
  case h_1 h => exact .inl ⟨isPlain_of_style h, rfl⟩
  case h_2 h => exact .inr (.inl ⟨isQuotable_of_style h, rfl⟩)
  case h_3 => exact .inr (.inr rfl)

lemma inline_chars {d : Char} (h : d ∈ inline text) :
    isPrintable d = true ∧ (isBreak d = true → d ∈ text.toList) := by
  rcases inline_cases text with ⟨hplain, heq⟩ | ⟨hquot, heq⟩ | heq <;> rw [heq] at h
  · exact ⟨(hplain.chars d h).1, fun _ => h⟩
  · rcases List.mem_cons.mp h with rfl | h
    · exact ⟨by decide, fun hb => by cases hb⟩
    rcases mem_singleQuoted h with h | rfl | rfl
    · exact ⟨(hquot.chars d h).1, fun _ => h⟩
    · exact ⟨by decide, fun hb => by cases hb⟩
    · exact ⟨by decide, fun hb => by cases hb⟩
  · simp only [List.cons_append, List.mem_cons, List.mem_append, List.mem_flatMap,
      List.not_mem_nil, or_false] at h
    rcases h with rfl | ⟨c, -, hd⟩ | rfl
    · exact ⟨by decide, fun hb => by cases hb⟩
    · obtain ⟨hprint, hb⟩ := doubleQuotedChar_chars c d hd
      exact ⟨hprint, fun hb' => by rw [hb] at hb'; cases hb'⟩
    · exact ⟨by decide, fun hb => by cases hb⟩

lemma startsToken_plain {cs : List Char} (h : IsPlain cs) (rest : List Char) :
    StartsToken (cs ++ rest) := by
  have hstart := h.start
  obtain ⟨c, cs, rfl, hprint, hblank, hbreak⟩ := h.exists_cons
  intro d hd
  obtain rfl : c = d := by simpa using hd
  refine ⟨hblank, hbreak, ?_, isPrintable_ne hprint (by decide)⟩
  rintro rfl
  simp [startsLikeToken, indicators] at hstart

lemma startsToken_mark {c : Char} (h : c ∈ ['\'', '"', '|', '?', ':']) (rest : List Char) :
    StartsToken (c :: rest) := by
  intro d hd
  obtain rfl : c = d := by simpa using hd
  fin_cases h <;> decide

lemma startsToken_inline (text : String) (rest : List Char) : StartsToken (inline text ++ rest) := by
  rcases inline_cases text with ⟨hplain, heq⟩ | ⟨-, heq⟩ | heq <;> rw [heq]
  · exact startsToken_plain hplain rest
  · exact startsToken_mark (by decide) _
  · exact startsToken_mark (by decide) _

lemma inline_ne_nil (text : String) : inline text ≠ [] := by
  rcases inline_cases text with ⟨hplain, heq⟩ | ⟨-, heq⟩ | heq <;> rw [heq]
  · exact hplain.ne_nil
  · exact List.cons_ne_nil _ _
  · exact List.cons_ne_nil _ _

lemma mem_literalLines {cs : List Char} {atLineStart : Bool} {d : Char}
    (h : d ∈ literalLines atLineStart cs) : d ∈ cs ∨ d = ' ' ∨ d = '\n' := by
  induction cs generalizing atLineStart with
  | nil =>
    cases atLineStart with
    | true => cases h
    | false => exact .inr (.inr (List.mem_singleton.mp h))
  | cons c cs ih =>
    rw [literalLines_cons, literalChar] at h
    rcases List.mem_append.mp h with h | h
    · split at h
      · exact .inl (List.mem_singleton.mp h ▸ List.mem_cons_self)
      · rcases List.mem_append.mp h with h | h
        · cases atLineStart with
          | true => exact .inr (.inl (List.eq_of_mem_replicate (n := 4) h))
          | false => cases h
        · exact .inl (List.mem_singleton.mp h ▸ List.mem_cons_self)
    · exact (ih h).imp_left (List.mem_cons_of_mem c)

lemma mem_literalHints {cs : List Char} {d : Char} (h : d ∈ literalHints cs) :
    d = '2' ∨ d = '-' ∨ d = '+' := by
  rw [literalHints_eq] at h
  rcases List.mem_append.mp h with h | h
  · split at h
    · exact .inl (List.mem_singleton.mp h)
    · cases h
  · split at h
    · exact .inr (.inl (List.mem_singleton.mp h))
    · exact .inr (.inr (List.mem_singleton.mp h))
    · cases h

lemma isPrintable_line {d : Char} (h : d ∈ line text) : isPrintable d = true := by
  rw [line] at h
  split at h
  case isTrue hstyle =>
    simp only [List.cons_append, List.mem_cons, List.mem_append] at h
    rcases h with rfl | h | rfl | h
    · decide
    · rcases mem_literalHints h with rfl | rfl | rfl <;> decide
    · decide
    · rcases mem_literalLines h with h | rfl | rfl
      · exact (literalFits_of_style hstyle).2 d h
      · decide
      · decide
  case isFalse =>
    rcases List.mem_append.mp h with h | h
    · exact (inline_chars h).1
    · obtain rfl := List.mem_singleton.mp h
      decide

lemma isPrintable_entry {key value : String} {d : Char} (h : d ∈ entry key value) :
    isPrintable d = true := by
  have hmarks : ∀ {marks : List Char}, marks.all isPrintable = true → d ∈ marks →
      isPrintable d = true := fun hall hd => List.all_eq_true.mp hall d hd
  rw [entry] at h
  split at h <;> simp only [List.mem_append] at h
  · rcases h with ((h | h) | h) | h
    · exact hmarks (by decide) h
    · exact (inline_chars h).1
    · exact hmarks (by decide) h
    · exact isPrintable_line h
  · rcases h with ((h | h) | h) | h
    · exact hmarks (by decide) h
    · exact isPrintable_line h
    · exact hmarks (by decide) h
    · exact isPrintable_line h

lemma length_singleQuoted {cs : List Char} (h : ∀ c ∈ cs, isLineEnd c = false) :
    (singleQuoted false cs).length ≤ 2 * cs.length + 1 := by
  induction cs with
  | nil => exact Nat.le_refl 1
  | cons c cs ih =>
    have ih := ih fun d hd => h d (List.mem_cons_of_mem c hd)
    have hc := h c List.mem_cons_self
    have hchar : (if c = '\'' then ['\'', '\''] else [c]).length ≤ 2 := by split <;> simp
    simp only [singleQuoted, hc, Bool.false_eq_true, if_false, List.nil_append, List.length_append,
      List.length_cons]
    omega

lemma length_doubleQuotedChar (c : Char) : (doubleQuotedChar c).length ≤ 4 * c.utf8Size := by
  have hsize := c.utf8Size_pos
  have hone : c.utf8Size = 1 → c.toNat ≤ 0x7F := fun h =>
    UInt32.le_iff_toNat_le.mp (Char.utf8Size_eq_one_iff.mp h)
  have htwo : c.utf8Size = 2 → c.toNat ≤ 0x7FF := fun h =>
    UInt32.le_iff_toNat_le.mp (Char.utf8Size_eq_two_iff.mp h).2
  have hdigits : ∀ width, 0 < width → c.toNat < 16 ^ width →
      (hexDigits width c.toNat).length = width := fun _ => length_hexDigits
  have hlt : c.toNat < 16 ^ 8 := c.val.toNat_lt
  rw [doubleQuotedChar]
  split
  · simp only [List.length_cons, List.length_nil]
    omega
  split
  · simp only [List.length_cons, List.length_nil]
    omega
  · simp only [escapedByNumber]
    split
    · simp only [List.length_cons, hdigits 2 (by decide) (by omega)]
      omega
    split
    · simp only [List.length_cons, hdigits 4 (by decide) (by omega)]
      omega
    · simp only [List.length_cons, hdigits 8 (by decide) hlt]
      omega

lemma length_le_utf8Len (cs : List Char) : cs.length ≤ String.utf8Len cs := by
  induction cs with
  | nil => exact Nat.le_refl 0
  | cons c cs ih =>
    have := c.utf8Size_pos
    rw [String.utf8Len_cons, List.length_cons]
    omega

lemma length_flatMap_doubleQuotedChar (cs : List Char) :
    (cs.flatMap doubleQuotedChar).length ≤ 4 * String.utf8Len cs := by
  induction cs with
  | nil => exact Nat.le_refl 0
  | cons c cs ih =>
    have := length_doubleQuotedChar c
    rw [List.flatMap_cons, List.length_append, String.utf8Len_cons]
    omega

lemma length_inline {text : String} (hends : ∀ c ∈ text.toList, isLineEnd c = false) :
    (inline text).length ≤ 4 * text.utf8ByteSize + 2 := by
  have hsize : text.utf8ByteSize = String.utf8Len text.toList := by
    rw [← String.utf8ByteSize_ofList, String.ofList_toList]
  have hchars := length_le_utf8Len text.toList
  rcases inline_cases text with ⟨-, heq⟩ | ⟨-, heq⟩ | heq <;> rw [heq]
  · omega
  · have hquoted := length_singleQuoted hends
    rw [List.length_cons]
    omega
  · have hquoted := length_flatMap_doubleQuotedChar text.toList
    simp only [List.cons_append, List.length_cons, List.length_append, List.length_nil]
    omega

lemma inline_of_isSimpleKey (h : isSimpleKey text = true) :
    style text ≠ .literal ∧ (∀ d ∈ inline text, isBreak d = false) ∧
      (inline text).length ≤ LexerState.keyLength := by
  obtain ⟨hends, hsize⟩ : (∀ c ∈ text.toList, isLineEnd c = false) ∧
      text.utf8ByteSize ≤ keyBytes := by
    simpa [isSimpleKey] using h
  refine ⟨fun hstyle => ?_, fun d hd => ?_, ?_⟩
  · have hn := hends '\n' (literalFits_of_style hstyle).1
    cases hn
  · by_contra hb
    obtain ⟨hprint, hmem⟩ := inline_chars hd
    rw [isBreak_eq_isLineEnd hprint] at hb hmem
    exact hb (hends d (hmem (by simpa using hb)))
  · have hlen := length_inline hends
    have hkey : 4 * keyBytes + 2 ≤ LexerState.keyLength := by decide
    omega

end Texts

end TemplateGrep.Yaml.ScalarWriter
