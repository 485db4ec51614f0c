import Mathlib
import TemplateGrep.Proofs.Regex.Ends
import TemplateGrep.Regex.Compile
import TemplateGrep.Template.Expansion

/-!
Escaped text as a regex. It is read as one literal for each character, it matches the encoding of the
characters, and only its size can keep it from compiling.
-/

namespace TemplateGrep.Regex

open Template (escaped specialCharacters)

def operators : List Char := ['.', '*', '+', '?', '|']

def Ast.char (c : Char) : Ast := .literal ⟨c, false⟩

lemma step_escaped (s : ParserState) {c : Char} (hc : c ∉ operators) (rest : List Char) :
    s.step (escaped c ++ rest) = some (s.add (.char c), rest) := by
  by_cases hs : c ∈ specialCharacters
  · rw [escaped, if_pos hs]
    simp only [specialCharacters, List.mem_cons, List.not_mem_nil, or_false] at hs
    rcases hs with rfl | rfl | rfl | rfl | rfl | rfl | rfl | rfl <;> rfl
  · rw [escaped, if_neg hs]
    simp only [specialCharacters, operators, List.mem_cons, List.not_mem_nil, or_false, not_or]
      at hs hc
    simp [ParserState.step, readPrimitive, Primitive.char, Primitive.toAst, Ast.char, hs, hc]

lemma escaped_ne_nil (c : Char) : escaped c ≠ [] := by
  rw [escaped]
  split <;> simp

def addChars (s : ParserState) (cs : List Char) : ParserState :=
  { s with level := { s.level with items := (cs.map Ast.char).reverse ++ s.level.items } }

lemma addChars_cons (s : ParserState) (c : Char) (cs : List Char) :
    addChars s (c :: cs) = addChars (s.add (.char c)) cs := by
  simp [addChars, ParserState.add, Level.add]

lemma run_escaped {cs : List Char} (hcs : ∀ c ∈ cs, c ∉ operators) {s : ParserState}
    (hv : s.verbose = false) {fuel : Nat} (hf : cs.length < fuel) :
    ParserState.run fuel s (cs.flatMap escaped) = some (addChars s cs) := by
  induction cs generalizing s fuel with
  | nil =>
    obtain ⟨fuel, rfl⟩ := Nat.exists_eq_add_of_lt hf
    simp only [ParserState.run, skip, hv, Bool.false_eq_true, if_false, List.flatMap_nil]
    rfl
  | cons c cs ih =>
    obtain ⟨fuel, rfl⟩ := Nat.exists_eq_add_of_lt hf
    have hstep := step_escaped s (hcs c List.mem_cons_self) (cs.flatMap escaped)
    have hfuel : cs.length < (c :: cs).length + fuel := by
      rw [List.length_cons]
      omega
    have hrest := ih (fun d hd => hcs d (List.mem_cons_of_mem c hd)) (s := s.add (.char c)) hv hfuel
    rw [List.flatMap_cons, addChars_cons]
    generalize htext : escaped c ++ cs.flatMap escaped = text at hstep ⊢
    cases text with
    | nil => exact absurd (List.append_eq_nil_iff.mp htext).1 (escaped_ne_nil c)
    | cons d text =>
      simp only [ParserState.run, skip, hv, Bool.false_eq_true, if_false, hstep]
      exact hrest

lemma length_le_length_flatMap_escaped (cs : List Char) :
    cs.length ≤ (cs.flatMap escaped).length := by
  induction cs with
  | nil => simp
  | cons c cs ih =>
    have hpos : 0 < (escaped c).length := List.length_pos_iff.mpr (escaped_ne_nil c)
    rw [List.flatMap_cons, List.length_append, List.length_cons]
    omega

lemma heights_chars (cs : List Char) : Ast.heights (cs.map Ast.char) = 0 := by
  induction cs with
  | nil => rfl
  | cons c cs ih => simpa [Ast.heights, Ast.char, Ast.height] using ih

lemma allCaptureNames_chars (cs : List Char) : Ast.allCaptureNames (cs.map Ast.char) = [] := by
  induction cs with
  | nil => rfl
  | cons c cs ih => simpa [Ast.allCaptureNames, Ast.char, Ast.captureNames] using ih

lemma height_ofItems_le (items : List Ast) :
    (Ast.ofItems items).height ≤ Ast.heights items + 1 := by
  match items with
  | [] => exact Nat.zero_le _
  | [a] =>
    have hle : a.height ≤ max a.height 0 := Nat.le_max_left _ _
    exact hle.trans (Nat.le_succ _)
  | a :: b :: items => exact Nat.le_refl _

lemma captureNames_ofItems (items : List Ast) :
    (Ast.ofItems items).captureNames = Ast.allCaptureNames items := by
  match items with
  | [] => rfl
  | [a] => exact (List.append_nil _).symm
  | a :: b :: items => rfl

lemma parse_of_run {text : List Char} {items : List Ast} {s : ParserState}
    (hrun : ParserState.run (text.length + 1) {} text = some s) (hgroups : s.groups = [])
    (hlevel : s.level = ⟨[], items.reverse⟩) (hheights : Ast.heights items < nestLimit)
    (hnames : (Ast.allCaptureNames items).Nodup) : parse text = some (Ast.ofItems items) := by
  have hast : s.level.toAst = Ast.ofItems items := by
    simp [hlevel, Level.toAst, Level.nextBranch, Ast.ofBranches]
  have hheight : (Ast.ofItems items).height ≤ nestLimit := (height_ofItems_le items).trans hheights
  have hnodup : (Ast.ofItems items).captureNames.Nodup := by
    rwa [captureNames_ofItems]
  rw [parse, hrun]
  simp only [Option.bind_eq_bind, Option.bind_some, hast]
  simp [hgroups, hheight, hnodup]

lemma parse_escaped {cs : List Char} (hcs : ∀ c ∈ cs, c ∉ operators) :
    parse (cs.flatMap escaped) = some (Ast.ofItems (cs.map Ast.char)) := by
  have hrun := run_escaped hcs (s := {}) rfl
    (Nat.lt_succ_of_le (length_le_length_flatMap_escaped cs))
  apply parse_of_run hrun rfl
  · simp [addChars]
  · rw [heights_chars]
    decide
  · rw [allCaptureNames_chars]
    exact List.nodup_nil

lemma meaning?_ofItems (f : Flags) (items : List Ast) :
    (Ast.ofItems items).meaning? f =
      (Ast.meanings? f items).map fun p => (concats p.1, p.2) := by
  match items with
  | [] => rfl
  | [a] => cases h : a.meaning? f <;> simp [Ast.ofItems, Ast.meanings?, h, concats]
  | a :: b :: items =>
    have hconcat : Ast.ofItems (a :: b :: items) = .concat (a :: b :: items) := rfl
    rw [hconcat, Ast.meaning?, Option.map_eq_bind]
    rfl

lemma meanings?_chars (f : Flags) (cs : List Char) :
    Ast.meanings? f (cs.map Ast.char) = some (cs.map fun c => Literal.meaning f ⟨c, false⟩, f) := by
  induction cs with
  | nil => rfl
  | cons c cs ih => simp [Ast.meanings?, Ast.char, Ast.meaning?, ih]

lemma meaning?_ofItems_chars (f : Flags) (cs : List Char) :
    (Ast.ofItems (cs.map Ast.char)).meaning? f =
      some (concats (cs.map fun c => Literal.meaning f ⟨c, false⟩), f) := by
  rw [meaning?_ofItems, meanings?_chars]
  rfl

def ofText (cs : List Char) : Regex := concats (cs.map ofChar)

def encode (cs : List Char) : List UInt8 := cs.flatMap String.utf8EncodeChar

lemma meaning?_text (cs : List Char) :
    (Ast.ofItems (cs.map Ast.char)).meaning? {} = some (ofText cs, {}) :=
  meaning?_ofItems_chars {} cs

section Matching

variable {line : ByteArray}

lemma matches_concats_cons {r : Regex} {rs : List Regex} {i j : Nat} :
    Matches line (concats (r :: rs)) i j ↔
      ∃ k, Matches line r i k ∧ Matches line (concats rs) k j := by
  cases rs with
  | nil => simp [concats, Matches]
  | cons _ _ => rfl

lemma literalAt_append {as bs : List UInt8} {i : Nat} :
    literalAt line (as ++ bs) i = (literalAt line as i && literalAt line bs (i + as.length)) := by
  induction as generalizing i with
  | nil => simp [literalAt]
  | cons a as ih => simp [literalAt, ih, Bool.and_assoc, Nat.add_assoc, Nat.add_comm 1]

lemma matches_text {cs : List Char} {i j : Nat} :
    Matches line (ofText cs) i j ↔
      literalAt line (encode cs) i = true ∧ j = i + (encode cs).length := by
  induction cs generalizing i with
  | nil => simp [ofText, encode, concats, Matches, literalAt, eq_comm]
  | cons c cs ih =>
    have he : encode (c :: cs) = String.utf8EncodeChar c ++ encode cs := rfl
    rw [ofText, List.map_cons, matches_concats_cons, he, literalAt_append, List.length_append,
      Bool.and_eq_true]
    constructor
    · rintro ⟨k, ⟨hc, rfl⟩, hcs⟩
      obtain ⟨hl, rfl⟩ := ih.mp hcs
      exact ⟨⟨hc, hl⟩, Nat.add_assoc _ _ _⟩
    · rintro ⟨⟨hc, hl⟩, rfl⟩
      exact ⟨_, ⟨hc, rfl⟩, ih.mpr ⟨hl, (Nat.add_assoc _ _ _).symm⟩⟩

lemma byteAt?_eq (i : Nat) : byteAt? line i = line.data.toList[i]? := by
  by_cases hi : i < line.size
  · rw [byteAt?, getElem?_pos line i hi, List.getElem?_eq_getElem (by simpa using hi)]
    rfl
  · rw [byteAt?, getElem?_neg line i hi, List.getElem?_eq_none (by simpa using hi)]

lemma literalAt_iff {bytes : List UInt8} {i : Nat} :
    literalAt line bytes i = true ↔ bytes <+: line.data.toList.drop i := by
  induction bytes generalizing i with
  | nil => simp [literalAt]
  | cons b bytes ih =>
    rw [literalAt, Bool.and_eq_true, beq_iff_eq, ih, byteAt?_eq]
    by_cases hi : i < line.data.toList.length
    · rw [List.drop_eq_getElem_cons hi, List.cons_prefix_cons, List.getElem?_eq_getElem hi]
      simp [eq_comm]
    · have hle : line.data.toList.length ≤ i := Nat.le_of_not_lt hi
      simp [List.getElem?_eq_none hle, List.drop_eq_nil_of_le hle]

lemma isMatch_text_iff {cs : List Char} :
    (ofText cs).isMatch line = true ↔ encode cs <:+: line.data.toList := by
  rw [isMatch_iff, List.infix_iff_prefix_suffix]
  simp only [matches_text, literalAt_iff]
  constructor
  · rintro ⟨i, _, _, hpre, _⟩
    exact ⟨_, hpre, List.drop_suffix i _⟩
  · rintro ⟨t, hpre, hsuf⟩
    obtain ⟨before, hl⟩ := hsuf
    have hdrop : line.data.toList.drop before.length = t := by rw [← hl, List.drop_left]
    have hle : before.length ≤ line.data.toList.length := by
      rw [← hl, List.length_append]
      exact Nat.le_add_right _ _
    exact ⟨before.length, _, hle, hdrop ▸ hpre, rfl⟩

end Matching

lemma size_ofChar (d : Footprint.Direction) (c : Char) :
    Footprint.size d .inSequence (ofChar c) = c.utf8Size * Footprint.state ∧
      Footprint.size d .alone (ofChar c) = c.utf8Size * Footprint.state := by
  have hpos : 1 ≤ c.utf8Size := c.utf8Size_pos
  simp [ofChar, Footprint.size, Footprint.Place.alternatives, Nat.max_eq_right hpos]

lemma size_text (d : Footprint.Direction) (cs : List Char) :
    Footprint.size d .inSequence (ofText cs) = (encode cs).length * Footprint.state ∧
      Footprint.size d .alone (ofText cs) = max 1 (encode cs).length * Footprint.state := by
  induction cs with
  | nil => exact ⟨rfl, rfl⟩
  | cons c cs ih =>
    have hpos : 1 ≤ c.utf8Size := c.utf8Size_pos
    have he : (encode (c :: cs)).length = c.utf8Size + (encode cs).length := by
      simp [encode]
    rw [he, Nat.max_eq_right (hpos.trans (Nat.le_add_right _ _))]
    cases cs with
    | nil => simpa [ofText, concats, encode] using size_ofChar d c
    | cons e cs =>
      have hin : Footprint.size d .inSequence (ofText (e :: cs)) =
          (encode (e :: cs)).length * Footprint.state := ih.1
      have hmax : Footprint.state ≤ (c.utf8Size + (encode (e :: cs)).length) * Footprint.state :=
        Nat.le_mul_of_pos_left _ (by omega)
      have hofText : ofText (c :: e :: cs) = .concat (ofChar c) (ofText (e :: cs)) := rfl
      rw [hofText, Footprint.size, Footprint.size, (size_ofChar d c).1, hin, ← Nat.add_mul]
      exact ⟨rfl, Nat.max_eq_right hmax⟩

lemma literalBranches?_text (cs : List Char) :
    (Footprint.literalBranches? (ofText cs)).any (Footprint.wordListLength ≤ ·) = false := by
  match cs with
  | [] => rfl
  | [_] => rfl
  | c :: e :: cs =>
    have hofText : ofText (c :: e :: cs) = .concat (ofChar c) (ofText (e :: cs)) := rfl
    rw [hofText, Footprint.literalBranches?]
    · split <;> rfl
    · simp

lemma footprint_text (cs : List Char) :
    (ofText cs).footprint =
      Footprint.frame + max 1 (encode cs).length * Footprint.state := by
  have hbackward : Footprint.around .backward ≤ Footprint.frame := by decide
  rw [footprint, literalBranches?_text, (size_text .forward cs).2, (size_text .backward cs).2]
  exact Nat.max_eq_left (Nat.add_le_add_right hbackward _)

lemma compile_escaped {cs : List Char} (hcs : ∀ c ∈ cs, c ∉ operators) :
    compile (String.ofList (cs.flatMap escaped)) =
      if Footprint.frame + max 1 (encode cs).length * Footprint.state ≤ sizeLimit
      then .ok (ofText cs) else .error .tooLarge := by
  rw [compile, String.toList_ofList, parse_escaped hcs]
  simp only [meaning?_text, footprint_text]

end TemplateGrep.Regex
