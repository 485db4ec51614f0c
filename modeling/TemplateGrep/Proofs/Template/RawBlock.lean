import Mathlib
import TemplateGrep.Proofs.Template.Wrappers
import TemplateGrep.Search.Matcher

namespace TemplateGrep.Template

namespace PatternOptions

def around (options : PatternOptions) (text : String) : String :=
  (if options.ignoreCase then "(?i)" else "") ++
    if options.wordBoundary then "\\b" ++ text ++ "\\b" else text

lemma around_injective (options : PatternOptions) : options.around.Injective := by
  intro a b h
  have htext : (options.around a).toList = (options.around b).toList := congrArg String.toList h
  obtain ⟨word, ignore, plain⟩ := options
  cases word <;> cases ignore <;> simpa [around, String.toList_inj] using htext

end PatternOptions

lemma not_closing_infix_append_brace {content : List Char} (h : ¬ closing <:+: content)
    (hlast : content.getLast? ≠ some '}') : ¬ closing <:+: content ++ ['}'] := by
  rintro ⟨before, behind, he⟩
  rcases List.eq_nil_or_concat behind with rfl | ⟨behind, c, rfl⟩
  · have hc : before ++ ['}'] ++ ['}'] = content ++ ['}'] := by simpa [closing] using he
    obtain rfl := List.append_cancel_right hc
    simp at hlast
  · have hc : before ++ closing ++ behind ++ [c] = content ++ ['}'] := by simpa using he
    obtain ⟨rfl, -⟩ := List.append_inj' hc rfl
    exact h ⟨before, behind, rfl⟩

lemma cutting_block {raw : String} (h : ¬ closing <:+: raw.toList)
    (hlast : raw.toList.getLast? ≠ some '}') :
    Cutting (block raw).toList [.block raw.toList] := by
  rw [toList_block]
  simpa using Cutting.nil.block_append raw.toList (not_closing_infix_append_brace h hlast)

lemma cutting_block_of_brace {raw : String} {before : List Char}
    (h : ¬ closing <:+: raw.toList) (hraw : raw.toList = before ++ ['}']) :
    Cutting (block raw).toList [.block before, .char '}'] := by
  have hchar : Cutting ['}'] [.char '}'] := .char (by decide) (by decide) .nil
  rw [toList_block, hraw]
  simpa [closing] using hchar.block_append before (hraw ▸ h)

namespace Table

lemma prepare_noTemplate (t : Table) (options : PatternOptions) (raw : String) :
    t.prepare { options with noTemplate := true } raw = .ok (options.around raw) := by
  obtain ⟨word, ignore, plain⟩ := options
  cases word <;> cases ignore <;> simp [prepare, PatternOptions.around]

lemma expand_of_closed {t : Table} {pattern : String} {tokens : List Token}
    (hn : t.lookup pattern = none) (hc : Cutting pattern.toList tokens)
    (hclosed : tokens.all Token.isClosed) :
    t.expand pattern = .ok (String.ofList (tokens.flatMap t.output)) := by
  rw [expand_of_cutting hn hc, reading_of_closed hclosed]
  rfl

lemma flatMap_resolve_builtin {options : PatternOptions} {contents : List (List Char)}
    (h : contents ⊆ options.leading) : contents.flatMap builtin.resolve = contents.flatten := by
  have hresolve : ∀ content ∈ contents, builtin.resolve content = id content := by
    intro content hmem
    rcases options.mem_leading (h hmem) with rfl | rfl <;> decide +kernel
  rw [List.flatMap_congr hresolve, List.flatMap_id]

lemma around_eq (options : PatternOptions) (text : List Char) :
    options.around (String.ofList text) =
      String.ofList (options.leading.flatMap builtin.resolve ++
        (text ++ options.trailing.flatMap builtin.resolve)) := by
  rw [flatMap_resolve_builtin (List.Subset.refl _),
    flatMap_resolve_builtin options.trailing_subset_leading]
  obtain ⟨word, ignore, plain⟩ := options
  cases word <;> cases ignore <;>
    simp [PatternOptions.around, PatternOptions.leading, PatternOptions.trailing, caseFlag,
      boundary, ← String.toList_inj]

lemma prepare_eq_around {pattern : String} {tokens : List Token}
    (hn : builtin.lookup pattern = none) (hc : Cutting pattern.toList tokens)
    (hclosed : tokens.all Token.isClosed) (hj : Joins tokens wrapper) (options : PatternOptions) :
    builtin.prepare { options with noTemplate := false } pattern =
      .ok (options.around (String.ofList (tokens.flatMap builtin.output))) := by
  have hjoins : Joins tokens (blocks options.trailing) := by
    obtain ⟨word, ignore, plain⟩ := options
    cases word with
    | false => simp [PatternOptions.trailing, blocks, Joins]
    | true => exact hj
  have hscan : builtin.scan (pattern.toList ++ blocks options.trailing) =
      .ok (tokens.flatMap builtin.output ++ options.trailing.flatMap builtin.resolve) := by
    rw [scan_append_of_joins builtin hc hclosed hjoins, scan_trailing]
    rfl
  have ho : ({ options with noTemplate := false } : PatternOptions).noTemplate = false := rfl
  refine (namesHoldNoDelimiter_builtin.prepare_eq_scan ho fun _ => hn).trans ?_
  change (fun s => String.ofList (options.leading.flatMap builtin.resolve ++ s)) <$>
    (builtin.scan (pattern.toList ++ blocks options.trailing)).mapError
      (ExpandError.shift (blocks options.leading).length) = _
  rw [hscan, around_eq]
  rfl

lemma output_brace (t : Table) : t.output (.char '}') = ['\\', '}'] := rfl

lemma lookup_block (raw : String) : builtin.lookup (block raw) = none := by
  apply namesHoldNoDelimiter_builtin.lookup_eq_none
  rw [toList_block, List.append_assoc]
  exact (List.prefix_append opening _).isInfix

lemma resolve_append_backslash_ne (content : List Char) :
    builtin.resolve content ++ ['\\'] ≠ content := by
  intro h
  rw [resolve] at h
  split at h
  case h_1 fragment hl =>
    have hnames : ∀ e ∈ builtin.entries, e.2.toList ++ ['\\'] ≠ e.1.toList := by decide +kernel
    obtain ⟨_, _, hsplit, -⟩ := List.lookup_eq_some_iff.mp hl
    have hmem : (String.ofList content, fragment) ∈ builtin.entries := by
      rw [hsplit]
      simp
    exact hnames _ hmem (by simpa using h)
  case h_2 => simpa using congrArg List.length h

/-- Regex text in a block is prepared as without templating, unless it ends in a brace. -/
theorem prepare_block_eq_iff {raw : String} (hn : builtin.lookup raw = none)
    (hc : ¬ closing <:+: raw.toList) (options : PatternOptions) :
    (builtin.prepare { options with noTemplate := false } (block raw) =
        builtin.prepare { options with noTemplate := true } raw ↔
      raw.toList.getLast? ≠ some '}') ∧
    (raw.toList.getLast? ≠ some '}' →
      Matcher.compile builtin { options with noTemplate := false } [block raw] =
        Matcher.compile builtin { options with noTemplate := true } [raw]) := by
  have hplain := prepare_noTemplate builtin options raw
  have hraw : raw.toList.getLast? ≠ some '}' →
      builtin.prepare { options with noTemplate := false } (block raw) =
        .ok (options.around raw) := by
    intro hlast
    rw [prepare_eq_around (lookup_block raw) (cutting_block hc hlast) rfl (by simp [Joins])]
    simp [output_block, resolve, hn]
  refine ⟨⟨fun he hlast => ?_, fun hlast => (hraw hlast).trans hplain.symm⟩, fun hlast => ?_⟩
  · obtain ⟨before, hbefore⟩ := List.getLast?_eq_some_iff.mp hlast
    have hcut := cutting_block_of_brace hc hbefore
    rw [prepare_eq_around (lookup_block raw) hcut rfl (by simp [Joins]), hplain] at he
    have htext := options.around_injective (Except.ok.inj he)
    have hlist : builtin.resolve before ++ ['\\'] ++ ['}'] = before ++ ['}'] := by
      rw [← hbefore, ← htext]
      simp [output_block, output_brace]
    exact resolve_append_backslash_ne before (List.append_cancel_right hlist)
  · simp [Matcher.compile, Matcher.compileFrom, Matcher.compileOne, hraw hlast, hplain]

theorem prepare_block_eq_iff_count :
    builtin.lookup "[0-9]\x7b2,3\x7d$" = none ∧ ¬ closing <:+: "[0-9]\x7b2,3\x7d$".toList ∧
      builtin.prepare { wordBoundary := true, ignoreCase := true } (block "[0-9]\x7b2,3\x7d$") =
        builtin.prepare { wordBoundary := true, ignoreCase := true, noTemplate := true }
          "[0-9]\x7b2,3\x7d$" := by
  have hn : builtin.lookup "[0-9]\x7b2,3\x7d$" = none := by decide +kernel
  have hc : ¬ closing <:+: "[0-9]\x7b2,3\x7d$".toList := by decide +kernel
  exact ⟨hn, hc, (prepare_block_eq_iff hn hc ⟨true, true, false⟩).1.mpr (by decide +kernel)⟩

theorem prepare_block_loses_count :
    builtin.lookup "[0-9]\x7b2\x7d" = none ∧ ¬ closing <:+: "[0-9]\x7b2\x7d".toList ∧
      builtin.prepare {} (block "[0-9]\x7b2\x7d") = .ok "[0-9]\x7b2\\\x7d" ∧
      builtin.prepare { noTemplate := true } "[0-9]\x7b2\x7d" = .ok "[0-9]\x7b2\x7d" := by
  decide +kernel

end Table

end TemplateGrep.Template
