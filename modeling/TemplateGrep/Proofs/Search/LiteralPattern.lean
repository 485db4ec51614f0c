import Mathlib
import TemplateGrep.Proofs.Regex.LiteralText
import TemplateGrep.Proofs.Search.Compilation
import TemplateGrep.Proofs.Template.Cutting

namespace TemplateGrep

open Template (Table Token Cutting PatternOptions escaped bracing)

namespace Template.Token

def denoted : Token → List Char
  | .brace => ['{']
  | .char c => [c]
  | .block _ | .openBlock _ => []

def opensBlock : Token → Bool
  | .block _ | .openBlock _ => true
  | _ => false

lemma isClosed_of_opensBlock {token : Token} (h : token.opensBlock = false) : token.isClosed := by
  cases token <;> simp_all [opensBlock, isClosed]

lemma output_eq_escaped (t : Table) {token : Token} (h : token.opensBlock = false) :
    t.output token = token.denoted.flatMap escaped := by
  cases token with
  | brace => rfl
  | char c => simp [Table.output, denoted, escaped]
  | block _ | openBlock _ => simp [opensBlock] at h

lemma mem_text_of_mem_denoted {token : Token} {c : Char} (h : c ∈ token.denoted) :
    c = '{' ∨ c ∈ token.text := by
  cases token <;> simp_all [denoted, text]

end Template.Token

def denotedBytes (tokens : List Token) : Bytes :=
  Bytes.ofString (String.ofList (tokens.flatMap Token.denoted))

namespace Matcher

lemma compile_singleton (t : Table) (options : PatternOptions) (raw : String) :
    compile t options [raw] = (compileOne t options 0 raw).map fun p => ⟨[p]⟩ := by
  cases h : compileOne t options 0 raw <;> simp [compile, compileFrom, h, Except.map]

lemma compileOne_of_compile {t : Table} {options : PatternOptions} {index : Nat}
    {raw text : String} {r : Regex} (h : t.prepare options raw = .ok text)
    (hr : Regex.compile text = .ok r) : compileOne t options index raw = .ok ⟨text, r⟩ :=
  (compileOne_eq_ok_iff index).mpr ⟨h, hr⟩

lemma compileOne_of_refused {t : Table} {options : PatternOptions} {index : Nat}
    {raw text : String} {e : Regex.CompileError} (h : t.prepare options raw = .ok text)
    (hr : Regex.compile text = .error e) :
    compileOne t options index raw = .error (.regex text e) :=
  compileOne_eq_error_iff.mpr (.regex h hr)

lemma isMatch_singleton {text : String} {r : Regex} {line : Bytes} :
    isMatch ⟨[⟨text, r⟩]⟩ line = r.isMatch ⟨line.toArray⟩ := by
  simp [isMatch]

lemma compile_of_sized {t : Table} {options : PatternOptions} {raw text : String} {r : Regex}
    {P : Prop} [Decidable P] (h : t.prepare options raw = .ok text)
    (hr : Regex.compile text = if P then .ok r else .error .tooLarge) :
    (∀ f, compile t options [raw] = .error f → ∃ text, f = .regex text .tooLarge) ∧
      ((∃ m, compile t options [raw] = .ok m) ↔ P) ∧
      ∀ m, compile t options [raw] = .ok m →
        ∀ line : Bytes, m.isMatch line = r.isMatch ⟨line.toArray⟩ := by
  rw [compile_singleton]
  by_cases hP : P
  · rw [if_pos hP] at hr
    rw [compileOne_of_compile h hr]
    refine ⟨fun _ hf => ?_, iff_of_true ⟨_, rfl⟩ hP, fun m hm line => ?_⟩
    · cases hf
    · obtain rfl := Except.ok.inj hm
      exact isMatch_singleton
  · rw [if_neg hP] at hr
    rw [compileOne_of_refused h hr]
    refine ⟨fun f hf => ⟨_, (Except.error.inj hf).symm⟩, iff_of_false ?_ hP, fun _ hm => ?_⟩
    · rintro ⟨_, hm⟩
      cases hm
    · cases hm

lemma ofString_ofList (cs : List Char) : Bytes.ofString (String.ofList cs) = Regex.encode cs := by
  simp [Bytes.ofString, Regex.encode, List.utf8Encode]

section Literal

variable {t : Table} {pattern : String} {tokens : List Token}

lemma scan_literal (t : Table) (hc : Cutting pattern.toList tokens)
    (hb : ∀ token ∈ tokens, token.opensBlock = false) :
    t.scan pattern.toList = .ok ((tokens.flatMap Token.denoted).flatMap escaped) := by
  have hclosed : tokens.all Token.isClosed :=
    List.all_eq_true.mpr fun token h => Token.isClosed_of_opensBlock (hb token h)
  have hout : tokens.flatMap t.output = (tokens.flatMap Token.denoted).flatMap escaped := by
    rw [List.flatMap_assoc]
    exact List.flatMap_congr fun token h => Token.output_eq_escaped t (hb token h)
  rw [Template.scan_eq_reading t hc, Table.reading_of_closed hclosed, hout]

lemma prepare_literal (hn : t.lookup pattern = none) (hc : Cutting pattern.toList tokens)
    (hb : ∀ token ∈ tokens, token.opensBlock = false) :
    t.prepare {} pattern =
      .ok (String.ofList ((tokens.flatMap Token.denoted).flatMap escaped)) := by
  have hexpand : t.prepare {} pattern = t.expand pattern := rfl
  rw [hexpand, Table.expand, hn, scan_literal t hc hb]
  rfl

lemma denoted_not_operators (hc : Cutting pattern.toList tokens)
    (ho : ∀ c ∈ pattern.toList, c ∉ Regex.operators) :
    ∀ c ∈ tokens.flatMap Token.denoted, c ∉ Regex.operators := by
  intro c h
  obtain ⟨token, htoken, h⟩ := List.mem_flatMap.mp h
  rcases Token.mem_text_of_mem_denoted h with rfl | h
  · decide
  · exact ho c (hc.text_eq ▸ List.mem_flatMap.mpr ⟨token, htoken, h⟩)

/-- A pattern without blocks and operators is refused for its size only, and matches the lines that
contain the encoding of the text it denotes. -/
theorem isMatch_literal_iff (hn : t.lookup pattern = none) (hc : Cutting pattern.toList tokens)
    (hb : ∀ token ∈ tokens, token.opensBlock = false)
    (ho : ∀ c ∈ pattern.toList, c ∉ Regex.operators) :
    (∀ f, compile t {} [pattern] = .error f → ∃ text, f = .regex text .tooLarge) ∧
      ((∃ m, compile t {} [pattern] = .ok m) ↔
        Regex.Footprint.frame +
          max 1 (denotedBytes tokens).length * Regex.Footprint.state ≤ Regex.sizeLimit) ∧
      ∀ m, compile t {} [pattern] = .ok m →
        ∀ line : Bytes, m.isMatch line = true ↔ denotedBytes tokens <:+: line := by
  have hprepare := prepare_literal hn hc hb
  have hcompile := Regex.compile_escaped (denoted_not_operators hc ho)
  rw [denotedBytes, ofString_ofList]
  obtain ⟨hrefused, haccepts, hmatch⟩ := compile_of_sized hprepare hcompile
  refine ⟨hrefused, haccepts, fun m hm line => ?_⟩
  rw [hmatch m hm, Regex.isMatch_text_iff]

theorem isMatch_literal_iff_brackets :
    Table.builtin.lookup "\\\x7b(é]" = none ∧
      Cutting "\\\x7b(é]".toList [.brace, .char '(', .char 'é', .char ']'] ∧
      (∀ token ∈ [Token.brace, .char '(', .char 'é', .char ']'], token.opensBlock = false) ∧
      (∀ c ∈ "\\\x7b(é]".toList, c ∉ Regex.operators) ∧
      ∃ m, compile .builtin {} ["\\\x7b(é]"] = .ok m ∧
        ∀ line : Bytes, m.isMatch line = true ↔ Bytes.ofString "\x7b(é]" <:+: line := by
  have hn : Table.builtin.lookup "\\\x7b(é]" = none := by decide +kernel
  have hc : Cutting "\\\x7b(é]".toList [.brace, .char '(', .char 'é', .char ']'] := by
    change Cutting (bracing ++ ['(', 'é', ']']) _
    apply Cutting.brace
    repeat refine .char (by decide) (by decide) ?_
    exact .nil
  have hb : ∀ token ∈ [Token.brace, .char '(', .char 'é', .char ']'],
      token.opensBlock = false := by decide
  have ho : ∀ c ∈ "\\\x7b(é]".toList, c ∉ Regex.operators := by
    simp [Regex.operators]
  obtain ⟨-, haccepts, hmatch⟩ := isMatch_literal_iff hn hc hb ho
  obtain ⟨m, hm⟩ := haccepts.mpr (by decide +kernel)
  exact ⟨hn, hc, hb, ho, m, hm, hmatch m hm⟩

end Literal

end Matcher

end TemplateGrep
