import Mathlib
import TemplateGrep.Proofs.Template.Cutting

namespace TemplateGrep.Template

/-- No token reaches from a text with these tokens into the text behind it. -/
def Joins (tokens : List Token) (behind : List Char) : Prop :=
  ['{'] <+: behind →
    tokens.getLast? ≠ some (.char '\\') ∧ tokens.getLast? ≠ some (.char '{')

namespace Joins

lemma nil (behind : List Char) : Joins [] behind := fun _ => by simp

lemma of_cons {token : Token} {tokens : List Token} {behind : List Char}
    (h : Joins (token :: tokens) behind) : Joins tokens behind := by
  cases tokens with
  | nil => exact nil behind
  | cons _ _ => simpa [Joins] using h

lemma cons {token : Token} {tokens : List Token} {behind : List Char} (h : Joins tokens behind)
    (htoken : tokens = [] → Joins [token] behind) : Joins (token :: tokens) behind := by
  cases tokens with
  | nil => exact htoken rfl
  | cons _ _ => simpa [Joins] using h

lemma of_head {tokens : List Token} {c : Char} {rest rest' : List Char}
    (h : Joins tokens (c :: rest)) : Joins tokens (c :: rest') := fun hpre =>
  h (List.cons_prefix_cons.mpr ⟨(List.cons_prefix_cons.mp hpre).1, List.nil_prefix⟩)

end Joins

lemma Cutting.eq_nil {tokens : List Token} (h : Cutting [] tokens) : tokens = [] := by
  simpa using Cutting.nil.unique h

lemma Cutting.nil_of_nil {text : List Char} (h : Cutting text []) : text = [] := by
  simpa using h.text_eq.symm

lemma pair_prefix_append {a b c : Char} {rest behind : List Char} (h : [a, b] <+: c :: (rest ++ behind)) :
    [a, b] <+: c :: rest ∨ (rest = [] ∧ a = c ∧ [b] <+: behind) := by
  cases rest with
  | nil =>
    obtain ⟨rfl, hb⟩ := List.cons_prefix_cons.mp h
    exact .inr ⟨rfl, rfl, hb⟩
  | cons d rest =>
    obtain ⟨rfl, hb⟩ := List.cons_prefix_cons.mp h
    obtain ⟨rfl, -⟩ := List.cons_prefix_cons.mp hb
    exact .inl (by simp [List.cons_prefix_cons])

lemma Cutting.append {a b : List Char} {tokens others : List Token} (ha : Cutting a tokens)
    (hc : tokens.all Token.isClosed) (hb : Cutting b others) (hj : Joins tokens b) :
    Cutting (a ++ b) (tokens ++ others) := by
  induction ha with
  | nil => exact hb
  | @brace rest tokens _ ih =>
    rw [List.append_assoc]
    exact .brace (ih (by simpa [Token.isClosed] using hc) hj.of_cons)
  | @block text content rest tokens hcl _ ih =>
    rw [List.append_assoc]
    exact .block (hcl.append b) (ih (by simpa [Token.isClosed] using hc) hj.of_cons)
  | openBlock _ => simp [Token.isClosed] at hc
  | @char c rest tokens hbr hop ht ih =>
    -- the look-ahead of one character crosses the seam only behind the last character of `a`
    have hlast : rest = [] → ['{'] <+: b → c ≠ '\\' ∧ c ≠ '{' := by
      rintro rfl hpre
      obtain rfl := ht.eq_nil
      simpa [Joins] using hj hpre
    refine .char (fun hpre => ?_) (fun hpre => ?_)
      (ih (by simpa [Token.isClosed] using hc) hj.of_cons)
    · rcases pair_prefix_append hpre with h | ⟨hr, rfl, hb'⟩
      · exact hbr h
      · exact (hlast hr hb').1 rfl
    · rcases pair_prefix_append hpre with h | ⟨hr, rfl, hb'⟩
      · exact hop h
      · exact (hlast hr hb').2 rfl

lemma Cutting.split {text : List Char} {tokens others : List Token}
    (h : Cutting text (tokens ++ others)) (hc : tokens.all Token.isClosed) :
    ∃ a b, text = a ++ b ∧ Cutting a tokens ∧ Cutting b others ∧ Joins tokens b := by
  induction tokens generalizing text with
  | nil => exact ⟨[], text, rfl, .nil, h, .nil text⟩
  | cons token tokens ih =>
    have hc' : tokens.all Token.isClosed := by
      rw [List.all_cons, Bool.and_eq_true] at hc
      exact hc.2
    rw [List.cons_append] at h
    generalize hu : tokens ++ others = us at h
    cases h with
    | brace h =>
      subst hu
      obtain ⟨a, b, rfl, ha, hb, hj⟩ := ih h hc'
      exact ⟨bracing ++ a, b, by simp, .brace ha, hb, hj.cons fun _ => by simp [Joins]⟩
    | @block _ content _ _ hcl h =>
      subst hu
      obtain ⟨a, b, rfl, ha, hb, hj⟩ := ih h hc'
      obtain ⟨rfl, hno⟩ := closesAt_iff.mp hcl
      have hcl' : ClosesAt (content ++ closing ++ a) content a := closesAt_iff.mpr ⟨rfl, hno⟩
      exact ⟨opening ++ (content ++ closing ++ a), b, by simp, .block hcl' ha, hb,
        hj.cons fun _ => by simp [Joins]⟩
    | openBlock _ => simp [Token.isClosed] at hc
    | @char c _ _ hbr hop h =>
      subst hu
      obtain ⟨a, b, rfl, ha, hb, hj⟩ := ih h hc'
      have hpre : c :: a <+: c :: (a ++ b) := ⟨b, rfl⟩
      refine ⟨c :: a, b, rfl, .char (fun h => hbr (h.trans hpre)) (fun h => hop (h.trans hpre)) ha,
        hb, hj.cons ?_⟩
      rintro rfl hb'
      obtain rfl := ha.nil_of_nil
      constructor
      · rintro hlast
        obtain rfl : c = '\\' := by simpa using hlast
        exact hbr (List.cons_prefix_cons.mpr ⟨rfl, hb'⟩)
      · rintro hlast
        obtain rfl : c = '{' := by simpa using hlast
        exact hop (List.cons_prefix_cons.mpr ⟨rfl, hb'⟩)

lemma Cutting.extend_last {text behind : List Char} {tokens others : List Token} {last : Token}
    (h : Cutting text (tokens ++ [last])) (ho : Cutting (last.text ++ behind) others) :
    Cutting (text ++ behind) (tokens ++ others) := by
  have hc : tokens.all Token.isClosed := h.closed_of_append (by simp)
  obtain ⟨a, b, rfl, ha, hb, hj⟩ := h.split hc
  obtain rfl : last.text = b := by simpa using hb.text_eq
  rw [List.append_assoc]
  apply ha.append hc ho
  cases hl : last.text with
  | nil => cases last <;> simp [Token.text, bracing, opening] at hl
  | cons c rest => exact (hl ▸ hj).of_head

lemma Cutting.joins_or_last {text : List Char} {tokens : List Token} (h : Cutting text tokens) :
    (tokens.all Token.isClosed ∧ ∀ behind, Joins tokens behind) ∨
      ∃ before last, tokens = before ++ [last] ∧
        (last = .char '\\' ∨ last = .char '{' ∨ ∃ content, last = .openBlock content) := by
  rcases List.eq_nil_or_concat tokens with rfl | ⟨before, last, rfl⟩
  · exact .inl ⟨rfl, .nil⟩
  · rw [List.concat_eq_append] at h ⊢
    by_cases hlast : last = .char '\\' ∨ last = .char '{' ∨ ∃ content, last = .openBlock content
    · exact .inr ⟨before, last, rfl, hlast⟩
    · obtain ⟨hb, hbr, ho⟩ := by simpa only [not_or] using hlast
      refine .inl ⟨?_, fun behind _ => by simpa using ⟨hb, hbr⟩⟩
      rw [List.all_append, h.closed_of_append (by simp)]
      cases last with
      | openBlock content => exact absurd ⟨content, rfl⟩ ho
      | brace | block _ | char _ => rfl

namespace Table

variable (t : Table) {a b : List Char} {tokens : List Token}

lemma scanLiteral_append (ha : Cutting a tokens) (hc : tokens.all Token.isClosed)
    (hj : Joins tokens b) (pos : Nat) :
    t.scanLiteral pos (a ++ b) =
      (tokens.flatMap t.output ++ ·) <$> t.scanLiteral (pos + a.length) b := by
  obtain ⟨others, hb⟩ := exists_cutting b
  rw [scanLiteral_eq_reading t (ha.append hc hb hj), reading_append t hc, ha.text_eq,
    scanLiteral_eq_reading t hb]

lemma scan_append_of_joins (ha : Cutting a tokens) (hc : tokens.all Token.isClosed)
    (hj : Joins tokens b) :
    t.scan (a ++ b) =
      (tokens.flatMap t.output ++ ·) <$> (t.scan b).mapError (ExpandError.shift a.length) := by
  rw [scan, scanLiteral_append t ha hc hj, Nat.zero_add, scanLiteral_eq_mapError]

lemma scan_append_brace_ne (ha : Cutting a tokens) (hc : tokens.all Token.isClosed)
    (hj : ¬ Joins tokens ['{']) :
    t.scan (a ++ ['{']) ≠ .ok (tokens.flatMap t.output ++ escaped '{') := by
  intro he
  rcases ha.joins_or_last with ⟨-, h⟩ | ⟨before, last, rfl, rfl | rfl | ⟨content, rfl⟩⟩
  · exact hj (h ['{'])
  · -- the backslash and the brace become one token, so the backslash is not escaped any more
    have hbrace : Cutting ((Token.char '\\').text ++ ['{']) [.brace] := Cutting.brace .nil
    have hclosed : (before ++ [Token.brace]).all Token.isClosed := by
      simpa [Token.isClosed] using hc
    rw [scan_eq_reading t (ha.extend_last hbrace), reading_of_closed hclosed] at he
    have hlen := congrArg List.length (Except.ok.inj he)
    simp [output, escaped, specialCharacters, bracing] at hlen
  · have hopen : Cutting ((Token.char '{').text ++ ['{']) [.openBlock []] :=
      .openBlock (by decide)
    rw [scan_eq_reading t (ha.extend_last hopen)] at he
    simp [reading, Token.isClosed] at he
  · simp [Token.isClosed] at hc

/-- Two texts one behind the other are scanned like each of them alone, if the first ends outside a
block and no token reaches over the seam. Where one can, a single brace is scanned otherwise. -/
theorem scan_append {ra : List Char} (ha : Cutting a tokens) (hra : t.scan a = .ok ra) :
    tokens.all Token.isClosed ∧
    (∀ b, Joins tokens b →
      (∀ rb, t.scan b = .ok rb → t.scan (a ++ b) = .ok (ra ++ rb)) ∧
      ∀ q, t.scan b = .error (.unclosed q) →
        t.scan (a ++ b) = .error (.unclosed (q + a.length))) ∧
    (t.scan (a ++ ['{']) = .ok (ra ++ escaped '{') ↔ Joins tokens ['{']) := by
  obtain ⟨hc, rfl⟩ := closed_of_scan_eq_ok ha hra
  have happend := fun b (hj : Joins tokens b) => scan_append_of_joins t ha hc hj
  refine ⟨hc, fun b hj => ⟨fun rb hb => ?_, fun q hb => ?_⟩, fun he => ?_, fun hj => ?_⟩
  · rw [happend b hj, hb]
    rfl
  · rw [happend b hj, hb]
    rfl
  · by_contra hj
    exact scan_append_brace_ne t ha hc hj he
  · rw [happend ['{'] hj]
    rfl

theorem scan_append_backslash :
    Cutting "é\x7b\x7bint\x7d\x7d\\".toList [.char 'é', .block "int".toList, .char '\\'] ∧
      builtin.scan "é\x7b\x7bint\x7d\x7d\\".toList = .ok "é-?[0-9]+\\\\".toList ∧
      Joins [.char 'é', .block "int".toList, .char '\\'] "d\x7b\x7b+\x7d\x7d".toList ∧
      builtin.scan "d\x7b\x7b+\x7d\x7d".toList = .ok "d+".toList ∧
      builtin.scan ("é\x7b\x7bint\x7d\x7d\\".toList ++ "d\x7b\x7b+\x7d\x7d".toList) =
        .ok ("é-?[0-9]+\\\\".toList ++ "d+".toList) ∧
      Joins [.char 'é', .block "int".toList, .char '\\'] "d\x7b\x7b+".toList ∧
      builtin.scan "d\x7b\x7b+".toList = .error (.unclosed 1) ∧
      builtin.scan ("é\x7b\x7bint\x7d\x7d\\".toList ++ "d\x7b\x7b+".toList) =
        .error (.unclosed (1 + "é\x7b\x7bint\x7d\x7d\\".toList.length)) := by
  have hlast : Cutting ['\\'] [.char '\\'] := .char (by decide) (by decide) .nil
  have ha : Cutting "é\x7b\x7bint\x7d\x7d\\".toList
      [.char 'é', .block "int".toList, .char '\\'] :=
    .char (by decide) (by decide) (hlast.block_append "int".toList (by decide))
  have hra : builtin.scan "é\x7b\x7bint\x7d\x7d\\".toList = .ok "é-?[0-9]+\\\\".toList := by
    decide +kernel
  have hclosed : builtin.scan "d\x7b\x7b+\x7d\x7d".toList = .ok "d+".toList := by decide +kernel
  have hopen : builtin.scan "d\x7b\x7b+".toList = .error (.unclosed 1) := by decide +kernel
  have hj : ∀ rest, Joins [.char 'é', .block "int".toList, .char '\\'] ('d' :: rest) :=
    fun rest h => by simp at h
  obtain ⟨-, hjoin, -⟩ := scan_append builtin ha hra
  exact ⟨ha, hra, hj _, hclosed, (hjoin _ (hj _)).1 _ hclosed, hj _, hopen,
    (hjoin _ (hj _)).2 1 hopen⟩

end Table

end TemplateGrep.Template
