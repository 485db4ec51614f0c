import Mathlib
import TemplateGrep.Proofs.Template.Options

namespace TemplateGrep.Template

def caseFlag : List Char := ['(', '?', 'i', ')']

def blocks (contents : List (List Char)) : List Char :=
  contents.flatMap fun content => opening ++ content ++ closing

lemma cutting_blocks {contents : List (List Char)}
    (hno : ∀ content ∈ contents, ¬ closing <:+: content ++ ['}']) :
    Cutting (blocks contents) (contents.map .block) := by
  induction contents with
  | nil => exact .nil
  | cons content contents ih =>
    obtain ⟨hcontent, hrest⟩ := List.forall_mem_cons.mp hno
    exact (ih hrest).block_append content hcontent

lemma joins_blocks (contents : List (List Char)) (behind : List Char) :
    Joins (contents.map .block) behind := fun _ => by
  simp [List.getLast?_map]

namespace PatternOptions

def leading (options : PatternOptions) : List (List Char) :=
  (if options.ignoreCase then [caseFlag] else []) ++
    if options.wordBoundary then [boundary] else []

def trailing (options : PatternOptions) : List (List Char) :=
  if options.wordBoundary then [boundary] else []

variable (options : PatternOptions)

lemma mem_leading {content : List Char} (h : content ∈ options.leading) :
    content = caseFlag ∨ content = boundary := by
  rcases List.mem_append.mp h with h | h
  · exact .inl (by simp_all)
  · exact .inr (by simp_all)

lemma trailing_subset_leading : options.trailing ⊆ options.leading :=
  List.subset_append_right _ _

lemma not_closing_leading :
    ∀ content ∈ options.leading, ¬ closing <:+: content ++ ['}'] := by
  intro content h
  rcases options.mem_leading h with rfl | rfl <;> decide

lemma not_closing_trailing :
    ∀ content ∈ options.trailing, ¬ closing <:+: content ++ ['}'] := fun content h =>
  options.not_closing_leading content (options.trailing_subset_leading h)

lemma nodup_of_mem_leading {content : List Char} (h : content ∈ options.leading) :
    content.Nodup := by
  rcases options.mem_leading h with rfl | rfl <;> decide

end PatternOptions

namespace Table

section Scanning

variable (t : Table)

lemma scan_blocks {contents : List (List Char)}
    (hno : ∀ content ∈ contents, ¬ closing <:+: content ++ ['}']) (rest : List Char) :
    t.scan (blocks contents ++ rest) =
      (contents.flatMap t.resolve ++ ·) <$>
        (t.scan rest).mapError (ExpandError.shift (blocks contents).length) := by
  have hclosed : (contents.map Token.block).all Token.isClosed := by simp [Token.isClosed]
  have houtput : (contents.map Token.block).flatMap t.output = contents.flatMap t.resolve := by
    simp only [List.flatMap_map, output_block]
  rw [scan_append_of_joins t (cutting_blocks hno) hclosed (joins_blocks contents rest), houtput]

end Scanning

variable {t : Table} {options : PatternOptions}

lemma prepare_eq_expand (ho : options.noTemplate = false) (raw : String) :
    ∃ pattern, t.prepare options raw = t.expand pattern ∧
      pattern.toList = blocks options.leading ++ (raw.toList ++ blocks options.trailing) := by
  obtain ⟨word, ignore, plain⟩ := options
  obtain rfl : plain = false := ho
  cases word <;> cases ignore <;>
    refine ⟨_, rfl, ?_⟩ <;>
    simp [toList_caseInsensitive, toList_wordBoundary, PatternOptions.leading,
      PatternOptions.trailing, blocks, caseFlag, wrapper]

lemma NamesHoldNoDelimiter.prepare_eq_scan (ht : t.NamesHoldNoDelimiter)
    (ho : options.noTemplate = false) {raw : String}
    (hn : options.leading = [] → t.lookup raw = none) :
    t.prepare options raw =
      (fun s => String.ofList (options.leading.flatMap t.resolve ++ s)) <$>
        (t.scan (raw.toList ++ blocks options.trailing)).mapError
          (ExpandError.shift (blocks options.leading).length) := by
  obtain ⟨pattern, hprepare, hpattern⟩ := prepare_eq_expand (t := t) ho raw
  have hlookup : t.lookup pattern = none := by
    cases hleading : options.leading with
    | nil =>
      have htrailing : options.trailing = [] :=
        List.subset_nil.mp (hleading ▸ options.trailing_subset_leading)
      obtain rfl : pattern = raw := by
        simpa [hleading, htrailing, blocks, String.toList_inj] using hpattern
      exact hn hleading
    | cons content contents =>
      apply ht.lookup_eq_none
      rw [hpattern, hleading, blocks, List.flatMap_cons, List.append_assoc, List.append_assoc,
        List.append_assoc]
      exact (List.prefix_append opening _).isInfix
  rw [hprepare, expand, hlookup, hpattern, scan_blocks t options.not_closing_leading,
    Functor.map_map]

lemma scan_trailing (t : Table) (options : PatternOptions) :
    t.scan (blocks options.trailing) = .ok (options.trailing.flatMap t.resolve) := by
  have h := scan_blocks t options.not_closing_trailing []
  rw [List.append_nil] at h
  simpa [scan, scanLiteral, Except.mapError] using! h

lemma NamesHoldNoDelimiter.leading_prefix (ht : t.NamesHoldNoDelimiter)
    (ho : options.noTemplate = false) (hl : options.leading ≠ []) {raw r : String}
    (hr : t.prepare options raw = .ok r) : options.leading.flatMap t.resolve <+: r.toList := by
  rw [ht.prepare_eq_scan ho (absurd · hl)] at hr
  cases hs : t.scan (raw.toList ++ blocks options.trailing) with
  | error e => simp [hs, Except.mapError] at hr
  | ok s =>
    obtain rfl : String.ofList (options.leading.flatMap t.resolve ++ s) = r := by
      simpa [hs, Except.mapError] using! hr
    rw [String.toList_ofList]
    exact List.prefix_append _ _

lemma NamesHoldNoDelimiter.prepare_empty (ht : t.NamesHoldNoDelimiter)
    (ho : options.noTemplate = false) (hl : options.leading ≠ []) :
    t.prepare options "" =
      .ok (String.ofList
        (options.leading.flatMap t.resolve ++ options.trailing.flatMap t.resolve)) := by
  rw [ht.prepare_eq_scan ho (absurd · hl), String.toList_empty, List.nil_append, scan_trailing]
  rfl

lemma resolve_of_lookup_eq_none {content : List Char}
    (h : t.lookup (String.ofList content) = none) : t.resolve content = content := by
  rw [resolve, h]

lemma prefix_of_nodup {w a b : List Char} (hw : w.Nodup) (h : w <+: a ++ b) (hb : b ⊆ a) :
    w <+: a := by
  rcases List.prefix_or_prefix_of_prefix h (List.prefix_append a b) with h' | ⟨c, rfl⟩
  · exact h'
  · cases c with
    | nil => simp
    | cons x c =>
      -- the first character of `w` behind `a` would be one of `b`, and so one of `a`
      obtain ⟨d, rfl⟩ := (List.prefix_append_right_inj a).mp h
      have hx : x ∈ a := hb List.mem_cons_self
      exact absurd rfl ((List.nodup_append.mp hw).2.2 x hx x List.mem_cons_self)

lemma flatMap_resolve_subset (t : Table) {contents others : List (List Char)}
    (h : contents ⊆ others) : contents.flatMap t.resolve ⊆ others.flatMap t.resolve := by
  intro c hc
  obtain ⟨content, hmem, hc⟩ := List.mem_flatMap.mp hc
  exact List.mem_flatMap.mpr ⟨content, h hmem, hc⟩

/-- Expansions begin with the first wrapper of the options, whatever the pattern, if and only if the
table makes of the wrappers a text that does. It does if no template is called like the first wrapper. -/
theorem prepare_starts_iff {pairs : List Entry} (ht : withTemplates pairs = .ok t)
    (ho : options.noTemplate = false) {w : List Char} (hw : options.leading.head? = some w) :
    ((∀ raw r, t.prepare options raw = .ok r → w <+: r.toList) ↔
      w <+: options.leading.flatMap t.resolve) ∧
    (t.lookup (String.ofList w) = none →
      ∀ raw r, t.prepare options raw = .ok r → w <+: r.toList) := by
  have hnames := namesHoldNoDelimiter_of_withTemplates ht
  obtain ⟨others, hleading⟩ := List.head?_eq_some_iff.mp hw
  have hl : options.leading ≠ [] := by simp [hleading]
  have hstarts : w <+: options.leading.flatMap t.resolve →
      ∀ raw r, t.prepare options raw = .ok r → w <+: r.toList := fun h raw r hr =>
    h.trans (hnames.leading_prefix ho hl hr)
  refine ⟨⟨fun h => ?_, hstarts⟩, fun hn => hstarts ?_⟩
  · -- the empty pattern leaves nothing but the wrappers
    have hempty := h _ _ (hnames.prepare_empty ho hl)
    rw [String.toList_ofList] at hempty
    refine prefix_of_nodup (options.nodup_of_mem_leading (List.mem_of_mem_head? hw)) hempty ?_
    exact flatMap_resolve_subset t options.trailing_subset_leading
  · rw [hleading, List.flatMap_cons, resolve_of_lookup_eq_none hn]
    exact List.prefix_append w _

theorem prepare_starts_iff_boundary :
    ∃ t, withTemplates [("\\b", "x")] = .ok t ∧
      (⟨true, true, false⟩ : PatternOptions).leading.head? = some caseFlag ∧
      t.lookup (String.ofList caseFlag) = none ∧
      ∀ raw r, t.prepare ⟨true, true, false⟩ raw = .ok r → caseFlag <+: r.toList := by
  have ht : withTemplates [("\\b", "x")] = .ok (builtin.insert "\\b" "x") := by decide +kernel
  have hn : (builtin.insert "\\b" "x").lookup (String.ofList caseFlag) = none := by decide +kernel
  exact ⟨_, ht, rfl, hn, (prepare_starts_iff ht rfl rfl).2 hn⟩

theorem prepare_captured :
    withTemplates [("(?i)", "x"), ("\\b", "y")] =
        .ok ((builtin.insert "(?i)" "x").insert "\\b" "y") ∧
      ((builtin.insert "(?i)" "x").insert "\\b" "y").prepare { wordBoundary := true } "a" =
        .ok "yay" ∧
      ((builtin.insert "(?i)" "x").insert "\\b" "y").prepare { ignoreCase := true } "a" =
        .ok "xa" := by
  decide +kernel

lemma NamesHoldNoDelimiter.lookup_caseInsensitive (ht : t.NamesHoldNoDelimiter) (pattern : String) :
    t.lookup (caseInsensitive pattern) = none := by
  apply ht.lookup_eq_none
  rw [toList_caseInsensitive, List.append_assoc, List.append_assoc]
  exact (List.prefix_append opening _).isInfix

lemma NamesHoldNoDelimiter.expandCaseInsensitive_eq (ht : t.NamesHoldNoDelimiter)
    (pattern : String) :
    t.expandCaseInsensitive pattern =
      (fun s => String.ofList (t.resolve caseFlag ++ s)) <$>
        (t.scan pattern.toList).mapError (ExpandError.shift 8) := by
  have hleading : PatternOptions.leading { ignoreCase := true } = [caseFlag] := rfl
  have htrailing : blocks (PatternOptions.trailing { ignoreCase := true }) = [] := rfl
  have hprepare : t.prepare { ignoreCase := true } pattern = _ :=
    ht.prepare_eq_scan rfl (absurd · (by decide))
  rw [hleading, htrailing, List.append_nil, List.flatMap_singleton] at hprepare
  exact hprepare

/-- Behind the case flag a pattern is scanned and never looked up, be it a template name or not. -/
theorem expandCaseInsensitive_eq_scan {pairs : List Entry} (ht : withTemplates pairs = .ok t)
    (hflag : t.lookup "(?i)" = none) (pattern : String) :
    t.lookup (caseInsensitive pattern) = none ∧
      (∀ s, t.scan pattern.toList = .ok s →
        t.expandCaseInsensitive pattern = .ok ("(?i)" ++ String.ofList s)) ∧
      ∀ q, t.scan pattern.toList = .error (.unclosed q) →
        t.expandCaseInsensitive pattern = .error (.unclosed (q + 8)) := by
  have hnames := namesHoldNoDelimiter_of_withTemplates ht
  have hresolve : t.resolve caseFlag = caseFlag := resolve_of_lookup_eq_none hflag
  have hexpand := hnames.expandCaseInsensitive_eq pattern
  rw [hresolve] at hexpand
  refine ⟨hnames.lookup_caseInsensitive pattern, fun s hs => ?_, fun q hq => ?_⟩
  · have hjoin : String.ofList (caseFlag ++ s) = "(?i)" ++ String.ofList s := String.ofList_append
    rw [hexpand, hs, ← hjoin]
    rfl
  · rw [hexpand, hq]
    rfl

theorem expandCaseInsensitive_eq_scan_host :
    ∃ t, withTemplates [("host", "[a-z.]+")] = .ok t ∧ t.lookup "(?i)" = none ∧
      t.scan "host".toList = .ok "host".toList ∧
      t.lookup "host" = some "[a-z.]+" ∧
      t.expandCaseInsensitive "host" = .ok "(?i)host" ∧
      t.scan "é\x7b\x7bhost".toList = .error (.unclosed 1) ∧
      t.expandCaseInsensitive "é\x7b\x7bhost" = .error (.unclosed 9) := by
  have ht : withTemplates [("host", "[a-z.]+")] = .ok (builtin.insert "host" "[a-z.]+") := by
    decide +kernel
  have hflag : (builtin.insert "host" "[a-z.]+").lookup "(?i)" = none := by decide +kernel
  have hname : (builtin.insert "host" "[a-z.]+").scan "host".toList = .ok "host".toList := by
    decide +kernel
  have hopen : (builtin.insert "host" "[a-z.]+").scan "é\x7b\x7bhost".toList =
      .error (.unclosed 1) := by decide +kernel
  refine ⟨_, ht, hflag, hname, by decide +kernel, ?_, hopen, ?_⟩
  · exact (expandCaseInsensitive_eq_scan ht hflag "host").2.1 _ hname
  · exact (expandCaseInsensitive_eq_scan ht hflag "é\x7b\x7bhost").2.2 1 hopen

end Table

end TemplateGrep.Template
