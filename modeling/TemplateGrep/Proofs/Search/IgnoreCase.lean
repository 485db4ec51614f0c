import Mathlib
import TemplateGrep.Proofs.Regex.FoldedText
import TemplateGrep.Proofs.Search.LiteralPattern

namespace TemplateGrep

open Template (Cutting Entry Table Token bracing caseFlag escaped exists_cutting opening)
open Unicode.CaseFolding (SameFold forall₂_sameFold_iff forall₂_sameFold_symm
  mem_variants_iff variants)

structure IsLiteral (pattern : String) (tokens : List Token) : Prop where
  cutting : Cutting pattern.toList tokens
  no_block : ∀ token ∈ tokens, token.opensBlock = false
  no_operator : ∀ c ∈ pattern.toList, c ∉ Regex.operators

section SameFold

lemma eq_of_sameFold_mark {mark c : Char} (hmark : mark ∈ ['\\', '{']) (h : SameFold mark c) :
    c = mark := by
  have halone : ['\\', '{'].all (fun mark =>
      (variants mark.toNat).all (· == mark.toNat)) = true := by
    decide +kernel
  have hvariants := List.all_eq_true.mp (List.all_eq_true.mp halone mark hmark)
  exact Char.toNat_inj.mp (beq_iff_eq.mp (hvariants _ (mem_variants_iff.mpr h.symm)))

lemma prefix_of_sameFold {marks text other : List Char} (hmarks : marks ⊆ ['\\', '{'])
    (h : List.Forall₂ SameFold text other) (hp : marks <+: other) : marks <+: text := by
  induction marks generalizing text other with
  | nil => exact List.nil_prefix
  | cons mark marks ih =>
    obtain ⟨hmark, hrest⟩ := List.cons_subset.mp hmarks
    obtain ⟨rest, rfl⟩ := hp
    obtain ⟨c, text, hc, htext, rfl⟩ := List.forall₂_cons_right_iff.mp h
    obtain rfl := eq_of_sameFold_mark hmark hc.symm
    exact List.cons_prefix_cons.mpr ⟨rfl, ih hrest htext (List.prefix_append _ _)⟩

lemma denoted_sameFold {text other : List Char} {tokens others : List Token}
    (hc : Cutting text tokens) (hc' : Cutting other others)
    (hb : ∀ token ∈ tokens, token.opensBlock = false)
    (h : List.Forall₂ SameFold text other) :
    List.Forall₂ SameFold (tokens.flatMap Token.denoted) (others.flatMap Token.denoted) := by
  induction hc generalizing other others with
  | nil =>
    obtain rfl := List.forall₂_nil_left_iff.mp h
    obtain rfl := Cutting.nil.unique hc'
    exact .nil
  | @brace rest tokens _ ih =>
    have hsame := forall₂_sameFold_symm h
    obtain ⟨behind, rfl⟩ := prefix_of_sameFold (.refl _) hsame (List.prefix_append bracing rest)
    have hbehind : List.Forall₂ SameFold rest behind :=
      (List.forall₂_cons.mp (List.forall₂_cons.mp h).2).2
    obtain ⟨others', hothers⟩ := exists_cutting behind
    obtain rfl := hothers.brace.unique hc'
    exact .cons rfl (ih hothers (List.forall_mem_cons.mp hb).2 hbehind)
  | block => cases (List.forall_mem_cons.mp hb).1
  | openBlock => cases (List.forall_mem_cons.mp hb).1
  | @char c rest tokens hbracing hopening _ ih =>
    obtain ⟨d, behind, hd, hbehind, rfl⟩ := List.forall₂_cons_left_iff.mp h
    obtain ⟨others', hothers⟩ := exists_cutting behind
    have hbracing' : ¬ bracing <+: d :: behind :=
      fun hp => hbracing (prefix_of_sameFold (.refl _) h hp)
    have hopening' : ¬ opening <+: d :: behind :=
      fun hp => hopening (prefix_of_sameFold (by simp [opening]) h hp)
    obtain rfl := (Cutting.char hbracing' hopening' hothers).unique hc'
    exact .cons hd (ih hothers (List.forall_mem_cons.mp hb).2 hbehind)

end SameFold

namespace Matcher

section IgnoreCase

variable {t : Table} {pattern : String} {tokens : List Token}

lemma prepare_ignoreCase (hnames : t.NamesHoldNoDelimiter) (hflag : t.lookup "(?i)" = none)
    (hl : IsLiteral pattern tokens) :
    t.prepare { ignoreCase := true } pattern =
      .ok (String.ofList (caseFlag ++ (tokens.flatMap Token.denoted).flatMap escaped)) := by
  have hresolve : t.resolve caseFlag = caseFlag := Table.resolve_of_lookup_eq_none hflag
  have hprepare : t.prepare { ignoreCase := true } pattern = t.expandCaseInsensitive pattern := rfl
  rw [hprepare, hnames.expandCaseInsensitive_eq, scan_literal t hl.cutting hl.no_block, hresolve]
  rfl

lemma compile_ignoreCase (hnames : t.NamesHoldNoDelimiter) (hflag : t.lookup "(?i)" = none)
    (hl : IsLiteral pattern tokens) :
    (∀ f, compile t { ignoreCase := true } [pattern] = .error f →
      ∃ text, f = .regex text .tooLarge) ∧
    ((∃ m, compile t { ignoreCase := true } [pattern] = .ok m) ↔
      (Regex.foldedText (tokens.flatMap Token.denoted)).footprint ≤ Regex.sizeLimit) ∧
    ∀ m, compile t { ignoreCase := true } [pattern] = .ok m → ∀ line : Bytes,
      m.isMatch line = (Regex.foldedText (tokens.flatMap Token.denoted)).isMatch ⟨line.toArray⟩ := by
  have hprepare := prepare_ignoreCase hnames hflag hl
  have hcompile := Regex.compile_caseFlag (denoted_not_operators hl.cutting hl.no_operator)
  exact compile_of_sized hprepare hcompile

lemma isMatch_foldedText_iff {cs : List Char} {line : Bytes} :
    (Regex.foldedText cs).isMatch ⟨line.toArray⟩ = true ↔
      ∃ text : String, List.Forall₂ SameFold cs text.toList ∧ Bytes.ofString text <:+: line := by
  rw [Regex.isMatch_foldedText_iff]
  constructor
  · rintro ⟨ds, hds, hin⟩
    exact ⟨String.ofList ds, by rwa [String.toList_ofList], by rwa [ofString_ofList]⟩
  · rintro ⟨text, htext, hin⟩
    refine ⟨text.toList, htext, ?_⟩
    rwa [← ofString_ofList, String.ofList_toList]

lemma isMatch_foldedText_congr {cs ds : List Char} (h : List.Forall₂ SameFold cs ds)
    (line : Bytes) :
    (Regex.foldedText ds).isMatch ⟨line.toArray⟩ =
      (Regex.foldedText cs).isMatch ⟨line.toArray⟩ := by
  rw [Bool.eq_iff_iff, isMatch_foldedText_iff, isMatch_foldedText_iff]
  simp only [forall₂_sameFold_iff, forall₂_sameFold_iff.mp h]

/-- With case ignored, a pattern without blocks and operators is refused for its size only, be it a
template name or not, and matches the lines that contain the encoding of a text with the same fold,
character by character, as the text it denotes. So two patterns match the same lines if they have the
same fold, or if the texts do that they denote. -/
theorem isMatch_ignoreCase_iff {pairs : List Entry} (ht : Table.withTemplates pairs = .ok t)
    (hflag : t.lookup "(?i)" = none) (hl : IsLiteral pattern tokens) :
    (∀ f, compile t { ignoreCase := true } [pattern] = .error f →
      ∃ text, f = .regex text .tooLarge) ∧
    ((∃ m, compile t { ignoreCase := true } [pattern] = .ok m) ↔
      (Regex.foldedText (tokens.flatMap Token.denoted)).footprint ≤ Regex.sizeLimit) ∧
    ∀ m, compile t { ignoreCase := true } [pattern] = .ok m →
      (∀ line : Bytes, m.isMatch line = true ↔ ∃ text : String,
        List.Forall₂ SameFold (tokens.flatMap Token.denoted) text.toList ∧
          Bytes.ofString text <:+: line) ∧
      ∀ other others m', IsLiteral other others →
        List.Forall₂ SameFold pattern.toList other.toList ∨
          List.Forall₂ SameFold (tokens.flatMap Token.denoted) (others.flatMap Token.denoted) →
        compile t { ignoreCase := true } [other] = .ok m' →
          ∀ line, m'.isMatch line = m.isMatch line := by
  have hnames := Table.namesHoldNoDelimiter_of_withTemplates ht
  obtain ⟨hrefused, haccepts, hmatch⟩ := compile_ignoreCase hnames hflag hl
  refine ⟨hrefused, haccepts, fun m hm => ⟨fun line => ?_, ?_⟩⟩
  · rw [hmatch m hm, isMatch_foldedText_iff]
  · intro other others m' hl' hsame hm' line
    obtain ⟨-, -, hmatch'⟩ := compile_ignoreCase hnames hflag hl'
    have hdenoted : List.Forall₂ SameFold (tokens.flatMap Token.denoted)
        (others.flatMap Token.denoted) :=
      hsame.elim (denoted_sameFold hl.cutting hl'.cutting hl.no_block) id
    rw [hmatch m hm, hmatch' m' hm', isMatch_foldedText_congr hdenoted]

theorem isMatch_ignoreCase_iff_kelvin :
    ∃ t, Table.withTemplates [("\u212as", "[0-9]")] = .ok t ∧ t.lookup "(?i)" = none ∧
      IsLiteral "\u212as" [.char '\u212a', .char 's'] ∧
      IsLiteral "k\u017f" [.char 'k', .char '\u017f'] ∧
      List.Forall₂ SameFold "\u212as".toList "k\u017f".toList ∧
      ∃ m m', compile t { ignoreCase := true } ["\u212as"] = .ok m ∧
        compile t { ignoreCase := true } ["k\u017f"] = .ok m' ∧
        (∀ line : Bytes, m.isMatch line = true ↔ ∃ text : String,
          List.Forall₂ SameFold ['\u212a', 's'] text.toList ∧ Bytes.ofString text <:+: line) ∧
        ∀ line, m'.isMatch line = m.isMatch line := by
  have ht : Table.withTemplates [("\u212as", "[0-9]")] =
      .ok (Table.builtin.insert "\u212as" "[0-9]") := by decide +kernel
  have hflag : (Table.builtin.insert "\u212as" "[0-9]").lookup "(?i)" = none := by decide +kernel
  have hl : IsLiteral "\u212as" [.char '\u212a', .char 's'] := by
    refine ⟨?_, by decide, by simp [Regex.operators]⟩
    exact .char (by decide) (by decide) (.char (by decide) (by decide) .nil)
  have hl' : IsLiteral "k\u017f" [.char 'k', .char '\u017f'] := by
    refine ⟨?_, by decide, by simp [Regex.operators]⟩
    exact .char (by decide) (by decide) (.char (by decide) (by decide) .nil)
  have hsame : List.Forall₂ SameFold "\u212as".toList "k\u017f".toList :=
    forall₂_sameFold_iff.mpr (by decide +kernel)
  obtain ⟨-, haccepts, hmatch⟩ := isMatch_ignoreCase_iff ht hflag hl
  obtain ⟨-, haccepts', -⟩ := isMatch_ignoreCase_iff ht hflag hl'
  obtain ⟨m, hm⟩ := haccepts.mpr (by decide +kernel)
  obtain ⟨m', hm'⟩ := haccepts'.mpr (by decide +kernel)
  obtain ⟨hlines, hothers⟩ := hmatch m hm
  exact ⟨_, ht, hflag, hl, hl', hsame, m, m', hm, hm', hlines, hothers _ _ m' hl' (.inl hsame) hm'⟩

end IgnoreCase

end Matcher

end TemplateGrep
