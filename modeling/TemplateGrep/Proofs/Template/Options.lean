import Mathlib
import TemplateGrep.Proofs.Template.Names
import TemplateGrep.Proofs.Template.Seam
import TemplateGrep.Template.Composition

/-!
Patterns between the wrappers of the options. A wrapper in front changes no token of the pattern. The
wrapper behind closes an open block, and it loses its meaning behind a lone backslash or brace.
-/

namespace TemplateGrep.Template

def boundary : List Char := ['\\', 'b']

def wrapper : List Char := opening ++ boundary ++ closing

lemma toList_block (fragment : String) :
    (block fragment).toList = opening ++ fragment.toList ++ closing := by
  simp [block, opening, closing]

lemma toList_wordBoundary (pattern : String) :
    (wordBoundary pattern).toList = wrapper ++ (pattern.toList ++ wrapper) := by
  simp [wordBoundary, toList_block, wrapper, boundary]

lemma toList_caseInsensitive (pattern : String) :
    (caseInsensitive pattern).toList =
      opening ++ ['(', '?', 'i', ')'] ++ closing ++ pattern.toList := by
  simp [caseInsensitive, toList_block]

lemma not_closing_infix_append {content rest : List Char} {c : Char}
    (hcontent : ¬ closing <:+: content) (hc : c ≠ '}') (hrest : ¬ closing <:+: rest) :
    ¬ closing <:+: content ++ c :: rest := by
  induction content with
  | nil =>
    intro h
    rcases List.infix_cons_iff.mp h with h | h
    · exact hc (List.cons_prefix_cons.mp h).1.symm
    · exact hrest h
  | cons d content ih =>
    have hcontent' : ¬ closing <:+: content := fun h =>
      hcontent (h.trans (List.suffix_cons d content).isInfix)
    intro h
    rcases List.infix_cons_iff.mp h with h | h
    · rcases pair_prefix_append h with h | ⟨rfl, _, h⟩
      · exact hcontent h.isInfix
      · exact hc (List.cons_prefix_cons.mp h).1.symm
    · exact ih hcontent' h

lemma cutting_wrapper : Cutting wrapper [.block boundary] :=
  Cutting.nil.block_append boundary (by decide)

lemma cutting_openBlock_wrapper {content : List Char} (h : ¬ closing <:+: content) :
    Cutting (opening ++ content ++ wrapper) [.block (content ++ opening ++ boundary)] := by
  have hno : ¬ closing <:+: content ++ '{' :: ('{' :: boundary ++ ['}']) :=
    not_closing_infix_append h (by decide) (by decide)
  have hc := Cutting.nil.block_append (content ++ opening ++ boundary)
    (by simpa [opening] using hno)
  simpa [wrapper] using hc

lemma cutting_openingBrace_wrapper : Cutting ('{' :: wrapper) [.block ('{' :: boundary)] :=
  Cutting.nil.block_append ('{' :: boundary) (by decide)

lemma cutting_backslash_wrapper :
    Cutting ('\\' :: wrapper)
      [.brace, .char '{', .char '\\', .char 'b', .char '}', .char '}'] := by
  change Cutting (bracing ++ ['{', '\\', 'b', '}', '}']) _
  apply Cutting.brace
  repeat refine .char (by decide) (by decide) ?_
  exact .nil

lemma Cutting.exists_closed_wrapper {text : List Char} {tokens : List Token}
    (h : Cutting text tokens) :
    ∃ others, Cutting (text ++ wrapper) others ∧ others.all Token.isClosed := by
  rcases h.joins_or_last with ⟨hc, hj⟩ | ⟨before, last, rfl, hlast⟩
  · exact ⟨_, h.append hc cutting_wrapper (hj wrapper), by simpa [Token.isClosed] using hc⟩
  · have hc : before.all Token.isClosed := h.closed_of_append (by simp)
    rcases hlast with rfl | rfl | ⟨content, rfl⟩
    · exact ⟨_, h.extend_last cutting_backslash_wrapper, by simpa [Token.isClosed] using hc⟩
    · exact ⟨_, h.extend_last cutting_openingBrace_wrapper, by simpa [Token.isClosed] using hc⟩
    · obtain ⟨_, _, _, _, hopen, _⟩ := h.split hc
      have hno : ¬ closing <:+: content := by
        cases hopen with
        | openBlock hno => exact hno
      exact ⟨_, h.extend_last (cutting_openBlock_wrapper hno),
        by simpa [Token.isClosed] using hc⟩

lemma Cutting.caseInsensitive {pattern : String} {tokens : List Token}
    (h : Cutting pattern.toList tokens) :
    Cutting (caseInsensitive pattern).toList (.block ['(', '?', 'i', ')'] :: tokens) := by
  rw [toList_caseInsensitive]
  exact h.block_append _ (by decide)

lemma Cutting.wordBoundary {pattern : String} {others : List Token}
    (h : Cutting (pattern.toList ++ wrapper) others) :
    Cutting (wordBoundary pattern).toList (.block boundary :: others) := by
  rw [toList_wordBoundary]
  exact h.block_append _ (by decide)

namespace Table

variable {t : Table}

lemma NamesHoldNoDelimiter.lookup_of_cutting (ht : t.NamesHoldNoDelimiter) {pattern : String}
    {content : List Char} {tokens : List Token}
    (h : Cutting pattern.toList (.block content :: tokens)) : t.lookup pattern = none := by
  apply ht.lookup_eq_none
  rw [← h.text_eq]
  exact (List.prefix_append opening _).isInfix

lemma NamesHoldNoDelimiter.expand_eq_error_iff (ht : t.NamesHoldNoDelimiter) {pattern : String}
    {content : List Char} {tokens : List Token}
    (h : Cutting pattern.toList (.block content :: tokens)) :
    (∃ p, t.expand pattern = .error (.unclosed p)) ↔ tokens.all Token.isClosed = false := by
  rw [Table.expand_eq_error_iff (ht.lookup_of_cutting h) h]
  simp [Token.isClosed]

lemma output_boundary : builtin.output (.block boundary) = boundary := by decide +kernel

lemma NamesHoldNoDelimiter.prepare_wordBoundary (ht : t.NamesHoldNoDelimiter) {raw : String}
    {others : List Token} (hw : Cutting (raw.toList ++ wrapper) others)
    (hclosed : others.all Token.isClosed) :
    t.prepare { wordBoundary := true } raw =
      .ok (String.ofList (t.output (.block boundary) ++ others.flatMap t.output)) := by
  have hword := hw.wordBoundary
  have hclosed' : (Token.block boundary :: others).all Token.isClosed := by
    simpa [Token.isClosed] using hclosed
  have hexpand := expand_of_cutting (ht.lookup_of_cutting hword) hword
  rw [reading_of_closed hclosed'] at hexpand
  simpa [prepare] using! hexpand

/-- An open block is reported, unless the wrapper of a word boundary stands behind it. -/
theorem prepare_eq_error_iff {pairs : List Entry} (ht : withTemplates pairs = .ok t)
    {raw : String} (hn : t.lookup raw = none) {options : PatternOptions}
    (ho : options.noTemplate = false) :
    (∃ p, t.prepare options raw = .error (.unclosed p)) ↔
      options.wordBoundary = false ∧ ∃ p, t.expand raw = .error (.unclosed p) := by
  have hnames := namesHoldNoDelimiter_of_withTemplates ht
  obtain ⟨tokens, hc⟩ := exists_cutting raw.toList
  obtain ⟨word, ignore, plain⟩ := options
  obtain rfl : plain = false := ho
  rw [expand_eq_error_iff hn hc]
  cases word with
  | false =>
    cases ignore with
    | false => simpa [prepare] using expand_eq_error_iff hn hc
    | true => simpa [prepare, expandCaseInsensitive] using
        hnames.expand_eq_error_iff hc.caseInsensitive
  | true =>
    -- whatever the pattern ends in, the wrapper behind it closes what is open
    obtain ⟨others, hw, hclosed⟩ := hc.exists_closed_wrapper
    have hword := hw.wordBoundary
    cases ignore with
    | false => simpa [prepare, hclosed] using hnames.expand_eq_error_iff hword
    | true =>
      have h := hnames.expand_eq_error_iff hword.caseInsensitive
      simpa [prepare, expandCaseInsensitive, Token.isClosed, hclosed] using h

theorem prepare_eq_error_iff_int :
    withTemplates [("host", "[a-z.]+")] = .ok (builtin.insert "host" "[a-z.]+") ∧
      (builtin.insert "host" "[a-z.]+").lookup "\x7b\x7bint" = none ∧
      ((∃ p, (builtin.insert "host" "[a-z.]+").prepare { ignoreCase := true } "\x7b\x7bint" =
          .error (.unclosed p)) ↔
        false = false ∧
          ∃ p, (builtin.insert "host" "[a-z.]+").expand "\x7b\x7bint" = .error (.unclosed p)) :=
  have ht : withTemplates [("host", "[a-z.]+")] = .ok (builtin.insert "host" "[a-z.]+") := by
    decide +kernel
  have hn : (builtin.insert "host" "[a-z.]+").lookup "\x7b\x7bint" = none := by decide +kernel
  ⟨ht, hn, prepare_eq_error_iff ht hn rfl⟩

theorem prepare_hides_openBlock :
    builtin.expand "\x7b\x7bint" = .error (.unclosed 0) ∧
      builtin.prepare { wordBoundary := true } "\x7b\x7bint" = .ok "\\bint\x7b\x7b\\b" := by
  decide +kernel

lemma prepare_wordBoundary_ne {raw : String} {before others : List Token} {last : Token}
    (hw : Cutting (raw.toList ++ wrapper) (before ++ others))
    (hclosed : (before ++ others).all Token.isClosed)
    (hlen : (others.flatMap builtin.output).length ≠ (builtin.output last).length + 2) :
    builtin.prepare { wordBoundary := true } raw ≠
      .ok ("\\b" ++ String.ofList ((before ++ [last]).flatMap builtin.output) ++ "\\b") := by
  intro he
  rw [namesHoldNoDelimiter_builtin.prepare_wordBoundary hw hclosed, output_boundary] at he
  have h := congrArg (fun s => s.toList.length) (Except.ok.inj he)
  simp only [String.toList_append, String.toList_ofList, List.flatMap_append, List.length_append,
    List.flatMap_singleton] at h
  have hanchor : "\\b".toList.length = 2 := by decide +kernel
  have hboundary : boundary.length = 2 := rfl
  omega

/-- The anchors of a word boundary stand around the expansion, unless the pattern ends in a lone
backslash or brace. -/
theorem prepare_wordBoundary_eq_iff {raw r : String} {tokens : List Token}
    (hn : builtin.lookup raw = none) (hr : builtin.expand raw = .ok r)
    (hc : Cutting raw.toList tokens) :
    builtin.prepare { wordBoundary := true } raw = .ok ("\\b" ++ r ++ "\\b") ↔
      tokens.getLast? ≠ some (.char '\\') ∧ tokens.getLast? ≠ some (.char '{') := by
  obtain ⟨hclosed, rfl⟩ := closed_of_expand_eq_ok hn hc hr
  rcases hc.joins_or_last with ⟨-, hj⟩ | ⟨before, last, rfl, rfl | rfl | ⟨content, rfl⟩⟩
  · have hw := hc.append hclosed cutting_wrapper (hj wrapper)
    refine iff_of_true ?_ (hj ['{'] (List.prefix_refl _))
    rw [namesHoldNoDelimiter_builtin.prepare_wordBoundary hw
      (by simpa [Token.isClosed] using hclosed)]
    rw [List.flatMap_append, List.flatMap_singleton, output_boundary]
    simp [boundary, ← String.toList_inj]
  · refine iff_of_false ?_ (by simp)
    apply prepare_wordBoundary_ne (hc.extend_last cutting_backslash_wrapper)
    · simpa [Token.isClosed] using hclosed
    · decide +kernel
  · refine iff_of_false ?_ (by simp)
    apply prepare_wordBoundary_ne (hc.extend_last cutting_openingBrace_wrapper)
    · simpa [Token.isClosed] using hclosed
    · decide +kernel
  · simp [Token.isClosed] at hclosed

theorem prepare_wordBoundary_eq_iff_brace :
    builtin.lookup "\x7b\x7ba\x7d\x7d\\\x7b" = none ∧
      builtin.expand "\x7b\x7ba\x7d\x7d\\\x7b" = .ok "a\\\x7b" ∧
      Cutting "\x7b\x7ba\x7d\x7d\\\x7b".toList [.block ['a'], .brace] ∧
      (builtin.prepare { wordBoundary := true } "\x7b\x7ba\x7d\x7d\\\x7b" =
          .ok ("\\b" ++ "a\\\x7b" ++ "\\b") ↔
        [Token.block ['a'], .brace].getLast? ≠ some (.char '\\') ∧
          [Token.block ['a'], .brace].getLast? ≠ some (.char '{')) := by
  have hn : builtin.lookup "\x7b\x7ba\x7d\x7d\\\x7b" = none := by decide +kernel
  have hr : builtin.expand "\x7b\x7ba\x7d\x7d\\\x7b" = .ok "a\\\x7b" := by decide +kernel
  have hc : Cutting "\x7b\x7ba\x7d\x7d\\\x7b".toList [.block ['a'], .brace] :=
    Cutting.nil.brace.block_append ['a'] (by decide)
  exact ⟨hn, hr, hc, prepare_wordBoundary_eq_iff hn hr hc⟩

theorem prepare_wordBoundary_loses_anchor :
    builtin.expand "\x7b" = .ok "\\\x7b" ∧
      builtin.prepare { wordBoundary := true } "\x7b" = .ok "\\b\x7b\\b" ∧
      builtin.expand "\\" = .ok "\\\\" ∧
      builtin.prepare { wordBoundary := true } "\\" = .ok "\\b\\\x7b\\\x7b\\\\b\\\x7d\\\x7d" := by
  decide +kernel

end Table

end TemplateGrep.Template
