import Mathlib
import TemplateGrep.Proofs.Regex.LiteralText
import TemplateGrep.Proofs.Template.Wrappers
import TemplateGrep.Proofs.Unicode.CaseVariants

/-!
Escaped text behind the case flag. It is read as the flag and one literal for each character, and it
matches the encodings of the texts that are the same up to simple case folding.
-/

namespace TemplateGrep.Regex

open Template (caseFlag escaped)
open Unicode.CaseFolding

def caseChange : FlagChange := { ignoreCase := some true }

def foldedText (cs : List Char) : Regex := concats (.empty :: cs.map foldedChar)

lemma run_caseFlag (fuel : Nat) (rest : List Char) :
    ParserState.run (fuel + 1) {} (caseFlag ++ rest) =
      ParserState.run fuel (ParserState.add {} (.flags caseChange)) rest := rfl

lemma parse_caseFlag {cs : List Char} (hcs : ∀ c ∈ cs, c ∉ operators) :
    parse (caseFlag ++ cs.flatMap escaped) =
      some (Ast.ofItems (.flags caseChange :: cs.map Ast.char)) := by
  have hfuel : cs.length < (caseFlag ++ cs.flatMap escaped).length := by
    have hle := length_le_length_flatMap_escaped cs
    rw [List.length_append]
    exact hle.trans_lt (Nat.lt_add_of_pos_left (by decide))
  have hrun := run_caseFlag (caseFlag ++ cs.flatMap escaped).length (cs.flatMap escaped)
  rw [run_escaped hcs rfl hfuel] at hrun
  apply parse_of_run hrun rfl
  · simp [addChars, ParserState.add, Level.add]
  · rw [Ast.heights, heights_chars]
    decide
  · rw [Ast.allCaptureNames, allCaptureNames_chars]
    exact List.nodup_nil

lemma meaning?_caseFlag (cs : List Char) :
    (Ast.ofItems (.flags caseChange :: cs.map Ast.char)).meaning? {} =
      some (foldedText cs, { ignoreCase := true }) := by
  have hchars := meanings?_chars { ignoreCase := true } cs
  have happly : Flags.apply {} caseChange = { ignoreCase := true } := rfl
  rw [meaning?_ofItems, Ast.meanings?, Ast.meaning?]
  simp only [Option.bind_eq_bind, Option.bind_some, happly, hchars]
  rfl

lemma compile_caseFlag {cs : List Char} (hcs : ∀ c ∈ cs, c ∉ operators) :
    compile (String.ofList (caseFlag ++ cs.flatMap escaped)) =
      if (foldedText cs).footprint ≤ sizeLimit then .ok (foldedText cs) else .error .tooLarge := by
  rw [compile, String.toList_ofList, parse_caseFlag hcs]
  simp only [meaning?_caseFlag]

section Matching

variable {line : ByteArray}

lemma charAt?_eq_some_iff {i : Nat} {c : Char} :
    charAt? line i = some c ↔ literalAt line (String.utf8EncodeChar c) i = true := by
  have hdrop : (line.extract i line.size).data.toList = line.data.toList.drop i := by
    simp
  rw [charAt?, ByteArray.utf8DecodeChar?_eq_utf8DecodeChar?_extract, literalAt_iff, ← hdrop]
  constructor
  · intro h
    obtain ⟨l, hl⟩ := ByteArray.exists_of_utf8DecodeChar?_eq_some h
    rw [hl, ByteArray.toList_data_append]
    simp
  · rintro ⟨rest, hrest⟩
    have hl : line.extract i line.size = [c].utf8Encode ++ rest.toByteArray := by
      apply ByteArray.ext
      apply Array.ext'
      rw [← hrest, ByteArray.toList_data_append]
      simp [List.utf8Encode]
    rw [hl]
    exact List.utf8DecodeChar?_utf8Encode_singleton_append

lemma matches_ofChar {c : Char} {i j : Nat} :
    Matches line (ofChar c) i j ↔ charAt? line i = some c ∧ j = i + c.utf8Size := by
  rw [charAt?_eq_some_iff, ofChar, Matches, String.length_utf8EncodeChar]

lemma matches_foldedChar {c : Char} {i j : Nat} :
    Matches line (foldedChar c) i j ↔ ∃ d, SameFold c d ∧ Matches line (ofChar d) i j := by
  rw [foldedChar]
  split
  case isTrue hall =>
    -- a character without other variants is a literal
    have honly : ∀ d, SameFold c d → d = c := by
      intro d hd
      have hmem : d.toNat ∈ variants c.toNat := mem_variants_iff.mpr hd.symm
      exact Char.toNat_inj.mp (beq_iff_eq.mp (List.all_eq_true.mp hall _ hmem))
    constructor
    · exact fun h => ⟨c, rfl, h⟩
    · rintro ⟨d, hd, h⟩
      rwa [honly d hd] at h
  case isFalse =>
    simp only [Matches, hasChar_variants_iff, matches_ofChar]
    constructor
    · rintro ⟨d, hd, hfold, hj⟩
      exact ⟨d, hfold, hd, hj⟩
    · rintro ⟨d, hfold, hd, hj⟩
      exact ⟨d, hd, hfold, hj⟩

lemma matches_foldedChars {cs : List Char} {i j : Nat} :
    Matches line (concats (cs.map foldedChar)) i j ↔
      ∃ ds, List.Forall₂ SameFold cs ds ∧ Matches line (ofText ds) i j := by
  induction cs generalizing i with
  | nil => simp [ofText]
  | cons c cs ih =>
    rw [List.map_cons, matches_concats_cons]
    simp only [matches_foldedChar, ih]
    constructor
    · rintro ⟨k, ⟨d, hd, hc⟩, ds, hds, hcs⟩
      exact ⟨d :: ds, .cons hd hds, matches_concats_cons.mpr ⟨k, hc, hcs⟩⟩
    · rintro ⟨es, hes, hm⟩
      obtain ⟨d, ds, hd, hds, rfl⟩ := List.forall₂_cons_left_iff.mp hes
      obtain ⟨k, hc, hcs⟩ := matches_concats_cons.mp hm
      exact ⟨k, ⟨d, hd, hc⟩, ds, hds, hcs⟩

lemma isMatch_foldedText_iff {cs : List Char} :
    (foldedText cs).isMatch line = true ↔
      ∃ ds, List.Forall₂ SameFold cs ds ∧ encode ds <:+: line.data.toList := by
  have hmatch : ∀ i j, Matches line (foldedText cs) i j ↔
      ∃ ds, List.Forall₂ SameFold cs ds ∧ Matches line (ofText ds) i j := by
    intro i j
    rw [foldedText, matches_concats_cons, ← matches_foldedChars]
    simp [Matches]
  simp only [← isMatch_text_iff, isMatch_iff, hmatch]
  constructor
  · rintro ⟨i, j, hi, ds, hds, hm⟩
    exact ⟨ds, hds, i, j, hi, hm⟩
  · rintro ⟨ds, hds, i, j, hi, hm⟩
    exact ⟨i, j, hi, ds, hds, hm⟩

end Matching

end TemplateGrep.Regex
