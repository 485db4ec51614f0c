import Mathlib
import TemplateGrep.Proofs.Template.RawBlock

namespace TemplateGrep.Template

def IsPlain (text : List Char) : Prop := ∀ c ∈ text, c ∉ specialCharacters

lemma Cutting.char_of_plain {c : Char} {rest : List Char} {tokens : List Token}
    (h : Cutting rest tokens) (hc : c ∉ specialCharacters) :
    Cutting (c :: rest) (.char c :: tokens) := by
  refine .char (fun hpre => hc ?_) (fun hpre => hc ?_) h
  · rw [← (List.cons_prefix_cons.mp hpre).1]
    decide
  · rw [← (List.cons_prefix_cons.mp hpre).1]
    decide

lemma Cutting.plain_append {text rest : List Char} {tokens : List Token} (h : Cutting rest tokens)
    (hp : IsPlain text) : Cutting (text ++ rest) (text.map .char ++ tokens) := by
  induction text with
  | nil => exact h
  | cons c text ih =>
    obtain ⟨hc, htext⟩ := List.forall_mem_cons.mp hp
    exact (ih htext).char_of_plain hc

lemma cutting_plain {text : List Char} (hp : IsPlain text) : Cutting text (text.map .char) := by
  simpa using Cutting.nil.plain_append hp

namespace Table

variable {t : Table}

lemma flatMap_output_plain {text : List Char} (hp : IsPlain text) :
    (text.map .char).flatMap t.output = text := by
  induction text with
  | nil => rfl
  | cons c text ih =>
    obtain ⟨hc, htext⟩ := List.forall_mem_cons.mp hp
    rw [List.map_cons, List.flatMap_cons, ih htext, output, if_neg hc]
    rfl

lemma isClosed_plain (text : List Char) : (text.map Token.char).all Token.isClosed := by
  simp [Token.isClosed]

lemma NamesHoldNoDelimiter.expand_around (ht : t.NamesHoldNoDelimiter) {pattern : String}
    {before content behind : List Char} {tokens : List Token}
    (hpattern : pattern.toList = before ++ (opening ++ content ++ closing ++ behind))
    (hb : IsPlain before) (hno : ¬ closing <:+: content ++ ['}']) (hc : Cutting behind tokens)
    (hclosed : tokens.all Token.isClosed) :
    t.expand pattern =
      .ok (String.ofList (before ++ (t.resolve content ++ tokens.flatMap t.output))) := by
  have hn : t.lookup pattern = none := by
    apply ht.lookup_eq_none
    rw [hpattern]
    exact ⟨before, content ++ closing ++ behind, by simp⟩
  have hcut : Cutting pattern.toList (before.map .char ++ .block content :: tokens) := by
    rw [hpattern]
    exact (hc.block_append content hno).plain_append hb
  rw [expand_of_closed hn hcut]
  · rw [List.flatMap_append, flatMap_output_plain hb, List.flatMap_cons, output_block]
  · simpa [Token.isClosed] using hclosed

section NamedBlocks

variable {e : Entry} {before behind : String}

lemma NamesHoldNoDelimiter.expand_named (ht : t.NamesHoldNoDelimiter) (he : e ∈ t.entries)
    (hlast : e.1.toList.getLast? ≠ some '}') (hb : IsPlain before.toList)
    (hp : IsPlain behind.toList) :
    t.expand (before ++ block e.1 ++ behind) = .ok (before ++ e.2 ++ behind) := by
  have hno := not_closing_infix_append_brace (ht.not_closing_infix he) hlast
  have hpattern : (before ++ block e.1 ++ behind).toList =
      before.toList ++ (opening ++ e.1.toList ++ closing ++ behind.toList) := by
    simp [toList_block]
  rw [ht.expand_around hpattern hb hno (cutting_plain hp) (isClosed_plain _),
    flatMap_output_plain hp, resolve, String.ofList_toList, lookup_of_mem he]
  simp [← String.toList_inj]

lemma NamesHoldNoDelimiter.expand_named_brace (ht : t.NamesHoldNoDelimiter) (he : e ∈ t.entries)
    {content : List Char} (hname : e.1.toList = content ++ ['}']) (hb : IsPlain before.toList)
    (hp : IsPlain behind.toList) :
    t.expand (before ++ block e.1 ++ behind) =
      .ok (before ++ String.ofList (t.resolve content ++ ['\\', '}']) ++ behind) := by
  have hno : ¬ closing <:+: content ++ ['}'] := hname ▸ ht.not_closing_infix he
  have hpattern : (before ++ block e.1 ++ behind).toList =
      before.toList ++ (opening ++ content ++ closing ++ ('}' :: behind.toList)) := by
    simp [toList_block, hname, closing]
  have hc : Cutting ('}' :: behind.toList) (.char '}' :: behind.toList.map .char) :=
    .char (fun h => by simp [bracing] at h) (fun h => by simp [opening] at h) (cutting_plain hp)
  rw [ht.expand_around hpattern hb hno hc (by simp [Token.isClosed]), List.flatMap_cons,
    flatMap_output_plain hp, output_brace]
  simp [← String.toList_inj]

end NamedBlocks

/-- A template of a built table is found by its name alone. In a block it is found unless its name ends
in a brace, which then closes the block and is left over as text. -/
theorem expand_named_block_iff {pairs : List Entry} (ht : withTemplates pairs = .ok t) {e : Entry}
    (he : e ∈ t.entries) {before behind : String} (hb : IsPlain before.toList)
    (hp : IsPlain behind.toList) :
    t.expand e.1 = .ok e.2 ∧
      (t.expand (before ++ block e.1 ++ behind) = .ok (before ++ e.2 ++ behind) ↔
        ∀ content, e.1.toList = content ++ ['}'] →
          e.2.toList = t.resolve content ++ ['\\', '}']) ∧
      ∀ content, e.1.toList = content ++ ['}'] →
        t.expand (before ++ block e.1 ++ behind) =
          .ok (before ++ String.ofList (t.resolve content ++ ['\\', '}']) ++ behind) := by
  have hnames := namesHoldNoDelimiter_of_withTemplates ht
  have hbrace := fun content (hname : e.1.toList = content ++ ['}']) =>
    hnames.expand_named_brace he hname hb hp
  refine ⟨?_, ⟨fun h content hname => ?_, fun h => ?_⟩, hbrace⟩
  · rw [expand, lookup_of_mem he]
  · have htext := congrArg String.toList (Except.ok.inj ((hbrace content hname).symm.trans h))
    simp only [String.toList_append, String.toList_ofList] at htext
    exact (List.append_cancel_left (List.append_cancel_right htext)).symm
  · by_cases hlast : e.1.toList.getLast? = some '}'
    · obtain ⟨content, hname⟩ := List.getLast?_eq_some_iff.mp hlast
      rw [hbrace content hname, ← h content hname, String.ofList_toList]
    · exact hnames.expand_named he hlast hb hp

theorem expand_named_block_iff_regex :
    withTemplates [("\x7b a\\|[b", "x+")] = .ok (builtin.insert "\x7b a\\|[b" "x+") ∧
      ("\x7b a\\|[b", "x+") ∈ (builtin.insert "\x7b a\\|[b" "x+").entries ∧
      IsPlain "für ".toList ∧ IsPlain " b".toList ∧
      (builtin.insert "\x7b a\\|[b" "x+").expand ("für " ++ block "\x7b a\\|[b" ++ " b") =
        .ok ("für " ++ "x+" ++ " b") := by
  have ht : withTemplates [("\x7b a\\|[b", "x+")] = .ok (builtin.insert "\x7b a\\|[b" "x+") := by
    decide +kernel
  have he : ("\x7b a\\|[b", "x+") ∈ (builtin.insert "\x7b a\\|[b" "x+").entries := by
    decide +kernel
  have hb : IsPlain "für ".toList := by simp [IsPlain, specialCharacters]
  have hp : IsPlain " b".toList := by simp [IsPlain, specialCharacters]
  refine ⟨ht, he, hb, hp, (expand_named_block_iff ht he hb hp).2.1.mpr fun content hname => ?_⟩
  have hlast := congrArg List.getLast? hname
  simp at hlast

theorem expand_loses_named_block :
    withTemplates [("a\x7d", "[0-9]")] = .ok (builtin.insert "a\x7d" "[0-9]") ∧
      ("a\x7d", "[0-9]") ∈ (builtin.insert "a\x7d" "[0-9]").entries ∧
      (builtin.insert "a\x7d" "[0-9]").expand ("x" ++ block "a\x7d" ++ "y") = .ok "xa\\\x7dy" := by
  decide +kernel

end Table

end TemplateGrep.Template
