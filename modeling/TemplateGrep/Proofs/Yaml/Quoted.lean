import Mathlib
import TemplateGrep.Proofs.Yaml.Characters

namespace TemplateGrep.Yaml

open ScalarWriter (isPrintable isLineEnd isSpace hasPair escapeLetter? hexDigits escapedByNumber
  doubleQuotedChar singleQuoted indent)

/-! ### Escapes -/

def hexAlphabet : List Char :=
  ['0', '1', '2', '3', '4', '5', '6', '7', '8', '9', 'A', 'B', 'C', 'D', 'E', 'F']

lemma digitChar_mem_hexAlphabet : ∀ k < 16, k.digitChar.toUpper ∈ hexAlphabet := by decide

lemma hexDigit?_digitChar : ∀ k < 16, hexDigit? k.digitChar.toUpper = some k := by decide

lemma hexAlphabet_chars : ∀ d ∈ hexAlphabet, isPrintable d = true ∧ isBreak d = false := by
  intro d hd
  fin_cases hd <;> exact ⟨rfl, rfl⟩

lemma foldlM_toDigits (n : Nat) :
    (((Nat.toDigits 16 n).map Char.toUpper).foldlM (fun n c => (hexDigit? c).map (n * 16 + ·)) 0 =
      some n) ∧ ∀ d ∈ (Nat.toDigits 16 n).map Char.toUpper, d ∈ hexAlphabet := by
  induction n using Nat.strong_induction_on with
  | _ n ih =>
    rw [Nat.toDigits_eq_if (by decide)]
    split
    case isTrue hlt =>
      simp [digitChar_mem_hexAlphabet n hlt, hexDigit?_digitChar n hlt]
    case isFalse hle =>
      obtain ⟨hfold, hall⟩ := ih (n / 16) (Nat.div_lt_self (by omega) (by decide))
      have hlt : n % 16 < 16 := Nat.mod_lt n (by decide)
      rw [List.map_append, List.foldlM_append, hfold, List.forall_mem_append]
      refine ⟨?_, hall, by simpa using digitChar_mem_hexAlphabet _ hlt⟩
      simp [hexDigit?_digitChar _ hlt, Nat.div_add_mod']

lemma foldlM_zeros (k : Nat) (ds : List Char) :
    (List.replicate k '0' ++ ds).foldlM (fun n c => (hexDigit? c).map (n * 16 + ·)) 0 =
      ds.foldlM (fun n c => (hexDigit? c).map (n * 16 + ·)) 0 := by
  induction k with
  | zero => rfl
  | succ k ih =>
    rw [List.replicate_succ, List.cons_append, List.foldlM_cons]
    exact ih

lemma mem_hexAlphabet {width n : Nat} : ∀ d ∈ hexDigits width n, d ∈ hexAlphabet := by
  intro d hd
  rcases List.mem_append.mp hd with hd | hd
  · obtain rfl := List.eq_of_mem_replicate hd
    decide
  · exact (foldlM_toDigits n).2 d hd

lemma length_hexDigits {width n : Nat} (hw : 0 < width) (h : n < 16 ^ width) :
    (hexDigits width n).length = width := by
  have hle := (Nat.length_toDigits_le_iff (by decide) hw).mpr h
  simp only [hexDigits, List.length_append, List.length_replicate, List.length_map]
  omega

lemma hexEscape?_hexDigits (width : Nat) (c : Char) :
    hexEscape? (hexDigits width c.toNat) = some c := by
  rw [hexEscape?, hexDigits, foldlM_zeros, (foldlM_toDigits c.toNat).1]
  have hvalid : c.toNat.isValidChar := c.valid
  simp [hvalid]

lemma simpleEscape?_of_escapeLetter? {c e : Char} (h : escapeLetter? c = some e) :
    simpleEscape? e = some c ∧ isBreak e = false ∧ isPrintable e = true := by
  unfold escapeLetter? at h
  split at h
  case h_15 => cases h
  all_goals
    cases h
    exact ⟨rfl, by decide, by decide⟩

lemma plain_of_escapeLetter? {c : Char} (h : escapeLetter? c = none) (hp : isPrintable c) :
    isBreak c = false ∧ c ≠ '"' ∧ c ≠ '\\' := by
  refine ⟨Bool.eq_false_iff.mpr fun hb => ?_, ?_, ?_⟩
  · simp only [isBreak, Bool.or_eq_true, beq_iff_eq] at hb
    rcases hb with (rfl | rfl) | rfl <;> cases h
  · rintro rfl
    cases h
  · rintro rfl
    cases h

lemma escapedByNumber_eq (c : Char) :
    ∃ letter width, 0 < width ∧ width ≤ 8 ∧ hexWidth? letter = some width ∧
      simpleEscape? letter = none ∧ isBreak letter = false ∧ isPrintable letter = true ∧
      escapedByNumber c = letter :: hexDigits width c.toNat ∧
      (hexDigits width c.toNat).length = width := by
  have hlt : c.toNat < 16 ^ 8 := c.val.toNat_lt
  simp only [escapedByNumber]
  split
  · exact ⟨'x', 2, by decide, by decide, rfl, rfl, by decide, by decide, rfl,
      length_hexDigits (by decide) (by omega)⟩
  split
  · exact ⟨'u', 4, by decide, by decide, rfl, rfl, by decide, by decide, rfl,
      length_hexDigits (by decide) (by omega)⟩
  · exact ⟨'U', 8, by decide, by decide, rfl, rfl, by decide, by decide, rfl,
      length_hexDigits (by decide) hlt⟩

lemma doubleQuotedChar_chars (c : Char) :
    ∀ d ∈ doubleQuotedChar c, isPrintable d = true ∧ isBreak d = false := by
  rw [doubleQuotedChar]
  split
  case h_1 e he =>
    obtain ⟨-, hb, hp⟩ := simpleEscape?_of_escapeLetter? he
    simp [hb, hp, show isPrintable '\\' = true by decide, show isBreak '\\' = false by decide]
  case h_2 he =>
    split
    case isTrue hp => simp [hp, (plain_of_escapeLetter? he hp).1]
    case isFalse =>
      obtain ⟨letter, width, -, -, -, -, hb, hp, heq, -⟩ := escapedByNumber_eq c
      rw [heq]
      simp only [List.mem_cons, forall_eq_or_imp]
      exact ⟨by decide, ⟨hp, hb⟩, fun d hd => hexAlphabet_chars d (mem_hexAlphabet d hd)⟩

/-! ### Double quotes -/

lemma readDoubleQuoted_digits {digits : List Char} (hne : digits ≠ [])
    (hb : ∀ d ∈ digits, isBreak d = false) {before : List Char} {c : Char}
    (h : hexEscape? (before.reverse ++ digits) = some c) (p : Position) (text rest : List Char) :
    readDoubleQuoted p {} (some (digits.length, before)) text (digits ++ rest) =
      readDoubleQuoted (p.afterAll digits) {} none (c :: text) rest := by
  induction digits generalizing p before with
  | nil => exact absurd rfl hne
  | cons d digits ih =>
    have hd : p.after d = p.next := Position.after_of_not_isBreak (hb d List.mem_cons_self)
    rw [List.cons_append, Position.afterAll_cons, hd]
    cases digits with
    | nil => simp [readDoubleQuoted, h, Position.afterAll_nil]
    | cons d' digits =>
      have h' : hexEscape? ((d :: before).reverse ++ d' :: digits) = some c := by simpa using h
      rw [← ih (List.cons_ne_nil _ _) (fun x hx => hb x (List.mem_cons_of_mem d hx)) h',
        readDoubleQuoted]
      simp

lemma exists_readDoubleQuoted_char (c : Char) {p : Position} (hp : 0 < p.column)
    (blanks text rest : List Char) :
    ∃ blanks' text', blanks' ++ text' = c :: (blanks ++ text) ∧
      readDoubleQuoted p { blanks } none text (doubleQuotedChar c ++ rest) =
        readDoubleQuoted (p.afterAll (doubleQuotedChar c)) { blanks := blanks' } none text' rest := by
  have hcol : (p.column == 0) = false := by simpa using hp.ne'
  have hslash : p.after '\\' = p.next := rfl
  have hstart : isBlank '\\' = false ∧ isBreak '\\' = false := by decide
  cases he : escapeLetter? c with
  | some e =>
    obtain ⟨hsimple, hb, -⟩ := simpleEscape?_of_escapeLetter? he
    have hchar : doubleQuotedChar c = ['\\', e] := by rw [doubleQuotedChar, he]
    refine ⟨[], c :: (blanks ++ text), rfl, ?_⟩
    rw [hchar, Position.afterAll_cons, Position.afterAll_cons, Position.afterAll_nil, hslash,
      Position.after_of_not_isBreak hb]
    simp [readDoubleQuoted, hstart, hcol, hb, hsimple, Gap.fold]
  | none =>
    by_cases hprint : isPrintable c
    · obtain ⟨hb, hquote, hback⟩ := plain_of_escapeLetter? he hprint
      have hchar : doubleQuotedChar c = [c] := by rw [doubleQuotedChar, he, if_pos hprint]
      rw [hchar, Position.afterAll_cons, Position.afterAll_nil, Position.after_of_not_isBreak hb]
      by_cases hspace : isBlank c
      · refine ⟨c :: blanks, text, rfl, ?_⟩
        rw [List.singleton_append, readDoubleQuoted.eq_def]
        simp [hspace, Gap.addBlank]
      · refine ⟨[], c :: (blanks ++ text), rfl, ?_⟩
        rw [List.singleton_append, readDoubleQuoted.eq_def]
        simp [hspace, hb, hcol, hquote, hback, Gap.fold]
    · obtain ⟨letter, width, hpos, -, hwidth, hsimple, hb, -, heq, hlen⟩ := escapedByNumber_eq c
      have hchar : doubleQuotedChar c = '\\' :: letter :: hexDigits width c.toNat := by
        rw [doubleQuotedChar, he, if_neg hprint, heq]
      have hne : hexDigits width c.toNat ≠ [] := by
        rw [← List.length_pos_iff, hlen]
        exact hpos
      have hescape : hexEscape? ([].reverse ++ hexDigits width c.toNat) = some c :=
        hexEscape?_hexDigits width c
      have hdigits := readDoubleQuoted_digits hne
        (fun d hd => (hexAlphabet_chars d (mem_hexAlphabet d hd)).2) hescape p.next.next
        (blanks ++ text) rest
      refine ⟨[], c :: (blanks ++ text), rfl, ?_⟩
      rw [hchar, Position.afterAll_cons, Position.afterAll_cons, hslash,
        Position.after_of_not_isBreak hb, ← hdigits, hlen]
      simp [readDoubleQuoted, hstart, hcol, hb, hsimple, hwidth, Gap.fold]

lemma readDoubleQuoted_chars (cs : List Char) {p : Position} (hp : 0 < p.column)
    (blanks text rest : List Char) :
    readDoubleQuoted p { blanks } none text (cs.flatMap doubleQuotedChar ++ '"' :: rest) =
      some ⟨(blanks ++ text).reverse ++ cs, p.afterAll (cs.flatMap doubleQuotedChar ++ ['"']), rest,
        false⟩ := by
  induction cs generalizing p blanks text with
  | nil =>
    have hcol : (p.column == 0) = false := by simpa using hp.ne'
    have hquote : isBlank '"' = false ∧ isBreak '"' = false := by decide
    have hafter : p.afterAll ['"'] = p.next := rfl
    rw [List.flatMap_nil, List.nil_append, readDoubleQuoted.eq_def]
    simp [hquote, hcol, Gap.fold, hafter]
  | cons c cs ih =>
    obtain ⟨blanks', text', hsum, hread⟩ := exists_readDoubleQuoted_char c hp blanks text
      (cs.flatMap doubleQuotedChar ++ '"' :: rest)
    have hp' : 0 < (p.afterAll (doubleQuotedChar c)).column := by
      rw [Position.afterAll_eq fun d hd => (doubleQuotedChar_chars c d hd).2]
      exact Nat.add_pos_left hp _
    rw [List.flatMap_cons, List.append_assoc, hread, ih hp', hsum, List.append_assoc,
      Position.afterAll_append (doubleQuotedChar c)]
    simp

lemma readDoubleQuoted_eq (cs : List Char) {p : Position} (hp : 0 < p.column) (rest : List Char) :
    readDoubleQuoted p {} none [] (cs.flatMap doubleQuotedChar ++ '"' :: rest) =
      some ⟨cs, p.afterAll (cs.flatMap doubleQuotedChar ++ ['"']), rest, false⟩ :=
  readDoubleQuoted_chars cs hp [] [] rest

/-! ### Single quotes -/

lemma hasPair_cons_eq_false {p q : Char → Bool} {c : Char} {cs : List Char}
    (h : hasPair p q (c :: cs) = false) :
    (p c = true → ∀ d ∈ cs.head?, q d = false) ∧ hasPair p q cs = false := by
  cases cs with
  | nil => simp [hasPair]
  | cons d cs =>
    rw [hasPair, Bool.or_eq_false_iff, Bool.and_eq_false_imp] at h
    simpa using h

structure IsQuotable (cs : List Char) : Prop where
  chars : ∀ c ∈ cs, isPrintable c = true ∧ c ≠ '\n'
  space_end : hasPair isSpace isLineEnd cs = false
  end_space : hasPair isLineEnd isSpace cs = false

lemma IsQuotable.of_cons {c : Char} {cs : List Char} (h : IsQuotable (c :: cs)) :
    IsQuotable cs where
  chars d hd := h.chars d (List.mem_cons_of_mem c hd)
  space_end := (hasPair_cons_eq_false h.space_end).2
  end_space := (hasPair_cons_eq_false h.end_space).2

structure Gap.Kept (g : Gap) (atLineStart : Bool) : Prop where
  broken : g.broken = atLineStart
  first : atLineStart = true → ∃ c, g.first = some c ∧ c ≠ '\n'

namespace Gap.Kept

variable {g : Gap} {c : Char}

lemma nil : Kept {} false := ⟨rfl, by simp⟩

lemma addBlank (h : g.Kept false) (c : Char) : (g.addBlank c).Kept false :=
  ⟨by simp [Gap.addBlank, h.broken], by simp⟩

lemma fold_addBlank (h : g.Kept false) (c : Char) : (g.addBlank c).fold = c :: g.fold := by
  simp [Gap.addBlank, Gap.fold, h.broken]

lemma addBreak {atLineStart : Bool} (h : g.Kept atLineStart) (hc : c ≠ '\n') :
    (g.addBreak c).Kept true := by
  cases atLineStart with
  | false => exact ⟨by simp [Gap.addBreak, h.broken], fun _ => ⟨c, by simp [Gap.addBreak, h.broken], hc⟩⟩
  | true =>
    obtain ⟨d, hd, hne⟩ := h.first rfl
    exact ⟨by simp [Gap.addBreak, h.broken], fun _ => ⟨d, by simp [Gap.addBreak, h.broken, hd], hne⟩⟩

lemma fold_addBreak {atLineStart : Bool} (h : g.Kept atLineStart) (hc : c ≠ '\n')
    (hb : atLineStart = false → g.blanks = []) : (g.addBreak c).fold = c :: g.fold := by
  cases atLineStart with
  | false => simp [Gap.addBreak, Gap.fold, h.broken, hc, hb rfl]
  | true =>
    obtain ⟨d, hd, hne⟩ := h.first rfl
    simp [Gap.addBreak, Gap.fold, h.broken, hd, hne]

end Gap.Kept

def margin (atLineStart : Bool) : List Char := if atLineStart then indent else []

lemma column_margin {p : Position} {atLineStart : Bool} (h : atLineStart = false → 0 < p.column) :
    0 < (p.afterAll (margin atLineStart)).column := by
  cases atLineStart with
  | false => exact h rfl
  | true => exact Nat.succ_pos _

section SingleQuoted

variable {p : Position} {g : Gap} {c : Char} (text rest : List Char)

lemma readSingleQuoted_blank (h : isBlank c = true) :
    readSingleQuoted p g text (c :: rest) = readSingleQuoted p.next (g.addBlank c) text rest := by
  rw [readSingleQuoted.eq_def]
  simp only [h, if_true]

lemma readSingleQuoted_break (h : isBreak c = true) :
    readSingleQuoted p g text (c :: rest) =
      readSingleQuoted p.nextLine (g.addBreak c) text rest := by
  rw [readSingleQuoted.eq_def]
  simp only [isBlank_of_isBreak h, h, Bool.false_eq_true, if_false, if_true]

lemma readSingleQuoted_char (hblank : isBlank c = false) (hbreak : isBreak c = false)
    (hquote : c ≠ '\'') (hp : 0 < p.column) :
    readSingleQuoted p g text (c :: rest) =
      readSingleQuoted p.next {} (c :: g.fold ++ text) rest := by
  have hcol := beq_false_of_ne hp.ne'
  rw [readSingleQuoted.eq_def]
  simp only [hblank, hbreak, hcol, hquote, Bool.false_and, Bool.false_eq_true, if_false]

lemma readSingleQuoted_quote (hp : 0 < p.column) :
    readSingleQuoted p g text ('\'' :: '\'' :: rest) =
      readSingleQuoted p.next.next {} ('\'' :: g.fold ++ text) rest := by
  have hquote : isBlank '\'' = false ∧ isBreak '\'' = false := by decide
  have hcol := beq_false_of_ne hp.ne'
  rw [readSingleQuoted.eq_def]
  simp only [hquote, hcol, Bool.false_and, Bool.false_eq_true, if_false, if_true]

lemma readSingleQuoted_end {rest : List Char} (hp : 0 < p.column) (hrest : rest.head? ≠ some '\'') :
    readSingleQuoted p g text ('\'' :: rest) =
      some ⟨(g.fold ++ text).reverse, p.next, rest, false⟩ := by
  have hquote : isBlank '\'' = false ∧ isBreak '\'' = false := by decide
  have hcol := beq_false_of_ne hp.ne'
  rw [readSingleQuoted.eq_def]
  simp only [hquote, hcol, Bool.false_and, Bool.false_eq_true, if_false, if_true]
  split
  · simp at hrest
  · rfl

lemma readSingleQuoted_margin {atLineStart : Bool} (h : g.broken = atLineStart) :
    readSingleQuoted p g text (margin atLineStart ++ rest) =
      readSingleQuoted (p.afterAll (margin atLineStart)) g text rest := by
  cases atLineStart with
  | false => rfl
  | true =>
    have hblank : isBlank ' ' = true := rfl
    have hadd : g.addBlank ' ' = g := by simp [Gap.addBlank, h]
    simp only [margin, indent, if_true, List.cons_append, List.nil_append,
      readSingleQuoted_blank _ _ hblank, hadd]
    rfl

end SingleQuoted

lemma readSingleQuoted_chars {cs : List Char} (hcs : IsQuotable cs) {p : Position} {g : Gap}
    {atLineStart : Bool} (hg : g.Kept atLineStart)
    (hcol : atLineStart = false → 0 < p.column)
    (hblanks : atLineStart = false → g.blanks ≠ [] → ∀ c ∈ cs.head?, isLineEnd c = false)
    (hstart : atLineStart = true → ∀ c ∈ cs.head?, isSpace c = false)
    (text : List Char) {rest : List Char} (hrest : rest.head? ≠ some '\'') :
    readSingleQuoted p g text (singleQuoted atLineStart cs ++ rest) =
      some ⟨(g.fold ++ text).reverse ++ cs, p.afterAll (singleQuoted atLineStart cs), rest, false⟩ := by
  induction cs generalizing p g atLineStart text with
  | nil =>
    have hafter : ∀ q : Position, q.afterAll ['\''] = q.next := fun _ => rfl
    rw [singleQuoted, ← margin, List.append_assoc, readSingleQuoted_margin _ _ hg.broken,
      Position.afterAll_append, hafter, List.singleton_append,
      readSingleQuoted_end _ (column_margin hcol) hrest, List.append_nil]
  | cons c cs ih =>
    obtain ⟨hc, hn⟩ := hcs.chars c List.mem_cons_self
    have hspace := (hasPair_cons_eq_false hcs.space_end).1
    have hend := (hasPair_cons_eq_false hcs.end_space).1
    have ih := fun {p g l} => @ih hcs.of_cons p g l
    cases hle : isLineEnd c with
    | true =>
      have hb : isBreak c = true := (isBreak_eq_isLineEnd hc).trans hle
      have hno : atLineStart = false → g.blanks = [] := fun hl => by
        by_contra hne
        simpa [hle] using hblanks hl hne
      rw [singleQuoted, if_pos hle, List.cons_append, Position.afterAll_cons,
        Position.after_of_isBreak hb, readSingleQuoted_break _ _ hb,
        ih (hg.addBreak hn) (by simp) (by simp) (fun _ => hend hle), hg.fold_addBreak hn hno]
      simp
    | false =>
      have hb : isBreak c = false := (isBreak_eq_isLineEnd hc).trans hle
      have hpos := column_margin hcol
      have hnext := fun (q : Position) text => @ih q.next {} false .nil
        (fun _ => Nat.succ_pos _) (by simp) (by simp) text
      rw [singleQuoted, if_neg (by simp [hle]), ← margin, List.append_assoc, List.append_assoc,
        readSingleQuoted_margin _ _ hg.broken, Position.afterAll_append, Position.afterAll_append]
      generalize p.afterAll (margin atLineStart) = q at hpos
      by_cases hquote : c = '\''
      · subst hquote
        have hafter : q.afterAll ['\'', '\''] = q.next.next := rfl
        rw [if_pos rfl, hafter, List.cons_append, List.singleton_append,
          readSingleQuoted_quote _ _ hpos, hnext]
        simp [Gap.fold]
      · have hafter : q.afterAll [c] = q.next := Position.after_of_not_isBreak hb
        rw [if_neg hquote, hafter, List.singleton_append]
        cases hblank : isBlank c with
        | true =>
          have hsp : isSpace c = true := (isBlank_eq hc).symm.trans hblank
          obtain rfl : atLineStart = false := by
            by_contra hl
            simpa [hsp] using hstart (by simpa using hl) c rfl
          rw [readSingleQuoted_blank _ _ hblank,
            ih (hg.addBlank c) (fun _ => Nat.succ_pos _) (fun _ _ => hspace hsp) (by simp),
            hg.fold_addBlank]
          simp
        | false =>
          rw [readSingleQuoted_char _ _ hblank hb hquote hpos, hnext]
          simp [Gap.fold]

lemma readSingleQuoted_eq {cs : List Char} (hcs : IsQuotable cs) {p : Position}
    (hp : 0 < p.column) {rest : List Char} (hrest : rest.head? ≠ some '\'') :
    readSingleQuoted p {} [] (singleQuoted false cs ++ rest) =
      some ⟨cs, p.afterAll (singleQuoted false cs), rest, false⟩ :=
  readSingleQuoted_chars hcs .nil (fun _ => hp) (by simp) (by simp) [] hrest

lemma mem_singleQuoted {cs : List Char} {atLineStart : Bool} {d : Char}
    (h : d ∈ singleQuoted atLineStart cs) : d ∈ cs ∨ d = ' ' ∨ d = '\'' := by
  have hmargin : ∀ ls, d ∈ (if ls = true then indent else []) → d = ' ' := by
    intro ls hd
    split at hd
    · exact List.eq_of_mem_replicate (n := 4) hd
    · cases hd
  induction cs generalizing atLineStart with
  | nil =>
    rcases List.mem_append.mp h with h | h
    · exact .inr (.inl (hmargin _ h))
    · exact .inr (.inr (List.mem_singleton.mp h))
  | cons c cs ih =>
    rw [singleQuoted] at h
    split at h
    · rcases List.mem_cons.mp h with rfl | h
      · exact .inl List.mem_cons_self
      · exact (ih h).imp_left (List.mem_cons_of_mem c)
    · simp only [List.mem_append] at h
      rcases h with (h | h) | h
      · exact .inr (.inl (hmargin _ h))
      · split at h <;> simp_all
      · exact (ih h).imp_left (List.mem_cons_of_mem c)

end TemplateGrep.Yaml
