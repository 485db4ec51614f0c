import Mathlib
import TemplateGrep.Proofs.Yaml.Quoted

namespace TemplateGrep.Yaml

open ScalarWriter (isPrintable isLineEnd isSpace isSeparator separatorAhead hasKeyColon hasPair
  isSpecial startsLikeToken plainFits literalFits literalHints literalLines indent)

def StartsToken (tail : List Char) : Prop :=
  ∀ c ∈ tail.head?, isBlank c = false ∧ isBreak c = false ∧ c ≠ '#' ∧ c ≠ byteOrderMark

lemma afterAll_spaces (p : Position) (k : Nat) :
    p.afterAll (List.replicate k ' ') = ⟨p.index + k, p.line, p.column + k⟩ := by
  have hb : ∀ c ∈ List.replicate k ' ', isBreak c = false := by
    intro c hc
    rw [List.eq_of_mem_replicate hc]
    rfl
  rw [Position.afterAll_eq hb, List.length_replicate]

lemma column_afterAll_spaces (p : Position) (k : Nat) :
    (p.afterAll (List.replicate k ' ')).column = p.column + k := by
  rw [afterAll_spaces]

/-! ### Plain scalars -/

lemma blankAhead_of_not_separatorAhead {cs : List Char} (h : separatorAhead cs = false)
    (tail : List Char) : blankAhead (cs ++ tail) = false := by
  cases cs with
  | nil => cases h
  | cons c cs =>
    have hc : isSeparator c = false := h
    simp only [isSeparator, isLineEnd, Bool.or_eq_false_iff] at hc
    simp [blankAhead, isBlank, isBreak, hc]

lemma readPlain_space (indent : Nat) (p : Position) (g : Gap) (text rest : List Char) :
    readPlain false indent p g text (' ' :: rest) =
      readPlain false indent p.next (g.addBlank ' ') text rest := by
  have hblank : isBlank ' ' = true := rfl
  have htab : (' ' == '\t') = false := rfl
  rw [readPlain.eq_def]
  simp only [hblank, htab, Bool.and_false, Bool.false_eq_true, if_false, if_true]

lemma readPlain_char {c : Char} (hblank : isBlank c = false) (hbreak : isBreak c = false)
    {indent : Nat} {p : Position} {g : Gap}
    (hgap : g.isEmpty = false → c ≠ '#' ∧ indent ≤ p.column ∧ 0 < p.column) {rest : List Char}
    (hcolon : c = ':' → blankAhead rest = false) (text : List Char) :
    readPlain false indent p g text (c :: rest) =
      readPlain false indent p.next {} (c :: g.fold ++ text) rest := by
  have hstop : (!g.isEmpty && ((!false && decide (p.column < indent)) || c == '#' ||
      (p.column == 0 && isDocumentMark (c :: rest)))) = false := by
    cases hg : g.isEmpty with
    | true => rfl
    | false =>
      obtain ⟨hhash, hle, hpos⟩ := hgap hg
      simp [hhash, hle, hpos.ne']
  have hstray : isStrayColon false (c :: rest) = false := by
    rw [isStrayColon.eq_def]
    split <;> rfl
  have hend : endsPlain false (c :: rest) = false := by
    rw [endsPlain.eq_def]
    split
    case h_1 rest he =>
      obtain ⟨rfl, rfl⟩ := List.cons.inj he
      exact hcolon rfl
    case h_2 => rfl
    case h_3 he => cases he
  rw [readPlain.eq_def]
  simp only [hblank, hbreak, hstop, hstray, hend, Bool.false_eq_true, if_false]

lemma readPlain_chars {cs : List Char} {indent : Nat} {p : Position} {blanks : List Char}
    (hprint : ∀ c ∈ cs, isPrintable c = true ∧ isLineEnd c = false)
    (hcolon : hasKeyColon cs = false) (hhash : hasPair isSeparator (· == '#') cs = false)
    (hlast : cs.getLast? ≠ some ' ') (hcol : indent ≤ p.column + 1)
    (hblanks : blanks ≠ [] →
      cs ≠ [] ∧ cs.head? ≠ some '#' ∧ indent ≤ p.column ∧ 0 < p.column)
    (text tail : List Char) :
    readPlain false indent p { blanks } text (cs ++ tail) =
      readPlain false indent (p.afterAll cs) {} (cs.reverse ++ (blanks ++ text)) tail := by
  induction cs generalizing p blanks text with
  | nil =>
    have hnil : blanks = [] := by
      by_contra hne
      exact (hblanks hne).1 rfl
    rw [hnil]
    rfl
  | cons c cs ih =>
    obtain ⟨hc, hle⟩ := hprint c List.mem_cons_self
    have hb : isBreak c = false := (isBreak_eq_isLineEnd hc).trans hle
    obtain ⟨hnext, hhash'⟩ := hasPair_cons_eq_false hhash
    rw [hasKeyColon, Bool.or_eq_false_iff, Bool.and_eq_false_imp] at hcolon
    have hlast' : cs.getLast? ≠ some ' ' := by
      intro h
      exact hlast (by simp [List.getLast?_cons, h])
    have ih := fun {b} => @ih p.next b (fun d hd => hprint d (List.mem_cons_of_mem c hd))
      hcolon.2 hhash' hlast' (hcol.trans (Nat.le_succ _))
    rw [List.cons_append, Position.afterAll_cons, Position.after_of_not_isBreak hb]
    by_cases hsp : c = ' '
    · subst hsp
      have hadd : Gap.addBlank { blanks } ' ' = { blanks := ' ' :: blanks } := rfl
      rw [readPlain_space, hadd, ih fun _ => ⟨?_, ?_, hcol, Nat.succ_pos _⟩]
      · simp
      · rintro rfl
        exact hlast rfl
      · intro hd
        simpa using hnext rfl '#' hd
    · have hblank : isBlank c = false := (isBlank_eq hc).trans (beq_false_of_ne hsp)
      have hgap : Gap.isEmpty { blanks } = false → c ≠ '#' ∧ indent ≤ p.column ∧ 0 < p.column := by
        intro hg
        obtain ⟨-, hd, hcolumn⟩ := hblanks (by rintro rfl; cases hg)
        exact ⟨by simpa using hd, hcolumn⟩
      have hahead : c = ':' → blankAhead (cs ++ tail) = false := fun he =>
        blankAhead_of_not_separatorAhead (hcolon.1 (by simpa using he)) tail
      rw [readPlain_char hblank hb hgap hahead, ih (by simp)]
      simp [Gap.fold]

lemma readPlain_colon (indent : Nat) (p : Position) (text : List Char) {rest : List Char}
    (h : blankAhead rest = true) :
    readPlain false indent p {} text (':' :: rest) = some ⟨text.reverse, p, ':' :: rest, false⟩ := by
  have hstray : isStrayColon false (':' :: rest) = false := by
    cases rest <;> rfl
  have hcolon : isBlank ':' = false ∧ isBreak ':' = false := by decide
  rw [readPlain.eq_def]
  simp [hcolon, hstray, endsPlain, h, Gap.isEmpty]

lemma readPlain_spaces {g : Gap} (hg : g.broken = true) (k indent : Nat) (p : Position)
    (text tail : List Char) :
    readPlain false indent p g text (List.replicate k ' ' ++ tail) =
      readPlain false indent (p.afterAll (List.replicate k ' ')) g text tail := by
  induction k generalizing p with
  | zero => rfl
  | succ k ih =>
    have hadd : g.addBlank ' ' = g := by simp [Gap.addBlank, hg]
    rw [List.replicate_succ, List.cons_append, readPlain_space, hadd, ih]
    rfl

lemma readPlain_newline {n k : Nat} {tail : List Char} (hk : k ≤ n) (htail : StartsToken tail)
    (p : Position) (text : List Char) :
    readPlain false (n + 1) p {} text ('\n' :: (List.replicate k ' ' ++ tail)) =
      some ⟨text.reverse, p.afterAll ('\n' :: List.replicate k ' '), tail, true⟩ := by
  have hbreak : isBlank '\n' = false ∧ isBreak '\n' = true := by decide
  have hafter : p.after '\n' = p.nextLine := rfl
  rw [readPlain.eq_def]
  simp only [hbreak, Bool.false_eq_true, if_false, if_true]
  rw [readPlain_spaces rfl, Position.afterAll_cons, hafter]
  cases tail with
  | nil => rfl
  | cons c tail =>
    obtain ⟨hblank, hb, -, -⟩ := htail c rfl
    have hcol : (p.nextLine.afterAll (List.replicate k ' ')).column < n + 1 := by
      rw [column_afterAll_spaces, Position.column_nextLine]
      omega
    rw [readPlain.eq_def]
    simp [hblank, hb, hcol, Gap.isEmpty, Gap.addBreak]

structure IsPlain (cs : List Char) : Prop where
  ne_nil : cs ≠ []
  chars : ∀ c ∈ cs, isPrintable c = true ∧ isLineEnd c = false
  first : cs.head? ≠ some ' '
  last : cs.getLast? ≠ some ' '
  start : startsLikeToken cs = false
  colon : hasKeyColon cs = false
  hash : hasPair isSeparator (· == '#') cs = false

namespace IsPlain

variable {cs : List Char}

lemma of_plainFits (hne : cs ≠ []) (h : plainFits cs = true) : IsPlain cs := by
  simp only [plainFits, isSpecial, Bool.and_eq_true, Bool.not_eq_true', bne_iff_ne,
    List.any_eq_false] at h
  obtain ⟨⟨⟨⟨⟨⟨hends, hfirst⟩, hlast⟩, hprint⟩, hstart⟩, hcolon⟩, hhash⟩ := h
  exact ⟨hne, fun c hc => ⟨by simpa using hprint c hc, by simpa using hends c hc⟩,
    hfirst, hlast, hstart, hcolon, hhash⟩

lemma isBreak_eq_false (h : IsPlain cs) : ∀ c ∈ cs, isBreak c = false := by
  intro c hc
  obtain ⟨hprint, hle⟩ := h.chars c hc
  exact (isBreak_eq_isLineEnd hprint).trans hle

lemma exists_cons (h : IsPlain cs) : ∃ c rest, cs = c :: rest ∧ isPrintable c = true ∧
    isBlank c = false ∧ isBreak c = false := by
  obtain ⟨c, rest, rfl⟩ := List.exists_cons_of_ne_nil h.ne_nil
  have hprint := (h.chars c List.mem_cons_self).1
  refine ⟨c, rest, rfl, hprint, ?_, h.isBreak_eq_false c List.mem_cons_self⟩
  rw [isBlank_eq hprint]
  simpa using h.first

end IsPlain

lemma readPlain_key {cs : List Char} (h : IsPlain cs) {indent : Nat} {p : Position}
    (hcol : indent ≤ p.column + 1) {rest : List Char} (hrest : blankAhead rest = true) :
    readPlain false indent p {} [] (cs ++ ':' :: rest) =
      some ⟨cs, p.afterAll cs, ':' :: rest, false⟩ := by
  rw [readPlain_chars h.chars h.colon h.hash h.last hcol (by simp), readPlain_colon _ _ _ hrest]
  simp

lemma readPlain_value {cs : List Char} (h : IsPlain cs) {n k : Nat} {p : Position}
    (hcol : n ≤ p.column) {tail : List Char} (hk : k ≤ n) (htail : StartsToken tail) :
    readPlain false (n + 1) p {} [] (cs ++ '\n' :: (List.replicate k ' ' ++ tail)) =
      some ⟨cs, (p.afterAll cs).afterAll ('\n' :: List.replicate k ' '), tail, true⟩ := by
  rw [readPlain_chars h.chars h.colon h.hash h.last (Nat.succ_le_succ hcol) (by simp),
    readPlain_newline hk htail]
  simp

/-! ### Literal scalars -/

structure BlockText.Holds (b : BlockText) (atLineStart : Bool) (t : List Char) : Prop where
  sum : b.breaks ++ b.lineBreak ++ b.text = t.reverse
  ends : ∀ c ∈ b.breaks ++ b.lineBreak, isLineEnd c = true
  last : ∀ c ∈ b.text.head?, isLineEnd c = false
  inside : atLineStart = false → b.breaks ++ b.lineBreak = []
  behind : atLineStart = true → b.text ≠ [] → b.lineBreak ≠ []

namespace BlockText.Holds

variable {b : BlockText} {t : List Char} {c : Char}

lemma nil : ({} : BlockText).Holds true [] := ⟨rfl, by simp, by simp, by simp, by simp⟩

lemma text_eq (h : b.Holds false t) : b.breaks = [] ∧ b.lineBreak = [] ∧ b.text = t.reverse := by
  obtain ⟨hbreaks, hline⟩ := List.append_eq_nil_iff.mp (h.inside rfl)
  exact ⟨hbreaks, hline, by simpa [hbreaks, hline] using h.sum⟩

lemma addBreak (h : b.Holds true t) (hc : isLineEnd c = true) :
    { b with breaks := c :: b.breaks }.Holds true (t ++ [c]) where
  sum := by simp [← h.sum]
  ends := by simpa [hc] using h.ends
  last := h.last
  inside := by simp
  behind := h.behind

lemma endLine (h : b.Holds false t) (hc : isLineEnd c = true) :
    { b with lineBreak := [c] }.Holds true (t ++ [c]) := by
  obtain ⟨hbreaks, -, htext⟩ := h.text_eq
  exact ⟨by simp [hbreaks, htext], by simp [hbreaks, hc], h.last, by simp, by simp⟩

lemma startLine (h : b.Holds true t) (hc : isLineEnd c = false) :
    (b.startLine true c).Holds false (t ++ [c]) := by
  have hsum : b.breaks ++ (b.lineBreak ++ b.text) = t.reverse := by simpa using h.sum
  exact ⟨by simp [BlockText.startLine, hsum], by simp [BlockText.startLine],
    by simpa [BlockText.startLine] using hc, by simp [BlockText.startLine], by simp⟩

lemma addChar (h : b.Holds false t) (hc : isLineEnd c = false) :
    { b with text := c :: b.text }.Holds false (t ++ [c]) := by
  obtain ⟨hbreaks, hline, htext⟩ := h.text_eq
  exact ⟨by simp [hbreaks, hline, htext], by simp [hbreaks, hline], by simpa using hc,
    by simp [hbreaks, hline], by simp⟩

end BlockText.Holds

def literalChar (atLineStart : Bool) (c : Char) : List Char :=
  if isLineEnd c then [c] else margin atLineStart ++ [c]

lemma literalLines_cons (atLineStart : Bool) (c : Char) (cs : List Char) :
    literalLines atLineStart (c :: cs) =
      literalChar atLineStart c ++ literalLines (isLineEnd c) cs := by
  cases h : isLineEnd c <;> simp [literalLines, literalChar, h, margin]

lemma readBlockLines_spaces {n k : Nat} {p : Position} (h : p.column + k ≤ n) (chomp : Chomping)
    (b : BlockText) (cs : List Char) :
    readBlockLines true chomp n false p b (List.replicate k ' ' ++ cs) =
      readBlockLines true chomp n false (p.afterAll (List.replicate k ' ')) b cs := by
  induction k generalizing p with
  | zero => rfl
  | succ k ih =>
    have hlt : p.column < n := by omega
    have hafter : p.after ' ' = p.next := rfl
    rw [List.replicate_succ, List.cons_append, Position.afterAll_cons, hafter,
      ← ih (by rw [Position.column_next]; omega), readBlockLines.eq_def]
    simp [hlt]

lemma readBlockLines_char {c : Char} (hc : isPrintable c = true) (chomp : Chomping)
    {atLineStart : Bool} {p : Position} {b : BlockText} {t : List Char}
    (hb : b.Holds atLineStart t) (hp : atLineStart = true → p.column = 0) :
    ∃ b' : BlockText, b'.Holds (isLineEnd c) (t ++ [c]) ∧
      (isLineEnd c = true → (p.afterAll (literalChar atLineStart c)).column = 0) ∧
      ∀ rest, readBlockLines true chomp 4 (!atLineStart) p b (literalChar atLineStart c ++ rest) =
        readBlockLines true chomp 4 (!isLineEnd c) (p.afterAll (literalChar atLineStart c)) b'
          rest := by
  have hbreak := isBreak_eq_isLineEnd hc
  cases hle : isLineEnd c with
  | true =>
    rw [hle] at hbreak
    have hafter : p.afterAll [c] = p.nextLine := Position.after_of_isBreak hbreak
    have hchar : literalChar atLineStart c = [c] := by rw [literalChar, if_pos hle]
    have hspace : c ≠ ' ' ∧ c ≠ '\t' := by
      constructor <;> rintro rfl <;> cases hle
    rw [hchar, hafter]
    cases atLineStart with
    | true =>
      refine ⟨_, hb.addBreak hle, fun _ => Position.column_nextLine, fun rest => ?_⟩
      rw [List.singleton_append, readBlockLines.eq_def]
      simp [hbreak, hspace]
    | false =>
      refine ⟨_, hb.endLine hle, fun _ => Position.column_nextLine, fun rest => ?_⟩
      rw [List.singleton_append, readBlockLines.eq_def]
      simp [hbreak]
  | false =>
    rw [hle] at hbreak
    have hafter : ∀ q : Position, q.afterAll [c] = q.next := fun q =>
      Position.after_of_not_isBreak hbreak
    have hchar : literalChar atLineStart c = margin atLineStart ++ [c] := by
      rw [literalChar, if_neg (by simp [hle])]
    rw [hchar, Position.afterAll_append, hafter]
    cases atLineStart with
    | true =>
      refine ⟨_, hb.startLine hle, by simp, fun rest => ?_⟩
      have hmargin : margin true = List.replicate 4 ' ' := rfl
      have hcol : (p.afterAll (List.replicate 4 ' ')).column = 4 := by
        rw [column_afterAll_spaces, hp rfl]
      rw [hmargin, List.append_assoc]
      refine (readBlockLines_spaces (by rw [hp rfl]) chomp b _).trans ?_
      generalize p.afterAll (List.replicate 4 ' ') = q at hcol
      rw [List.singleton_append, readBlockLines.eq_def]
      simp [hcol, hbreak]
    | false =>
      refine ⟨_, hb.addChar hle, by simp, fun rest => ?_⟩
      have hmargin : margin false = [] := rfl
      rw [hmargin, List.nil_append, List.singleton_append, readBlockLines.eq_def]
      simp [hbreak, Position.afterAll_nil]

def missingEnd (atLineStart : Bool) : List Char → List Char
  | [] => if atLineStart then [] else ['\n']
  | c :: cs => missingEnd (isLineEnd c) cs

lemma missingEnd_concat (atLineStart : Bool) (cs : List Char) (c : Char) :
    missingEnd atLineStart (cs ++ [c]) = if isLineEnd c then [] else ['\n'] := by
  induction cs generalizing atLineStart with
  | nil => rfl
  | cons d cs ih => exact ih _

lemma exists_readBlockLines_end (chomp : Chomping) (b : BlockText) {p : Position}
    (hp : p.column = 0) {k : Nat} (hk : k < 4) {tail : List Char} (htail : StartsToken tail) :
    ∃ q : Position, q.column = k ∧
      readBlockLines true chomp 4 false p b (List.replicate k ' ' ++ tail) =
        some ⟨b.finish chomp, q, tail, false⟩ := by
  have hcol : (p.afterAll (List.replicate k ' ')).column = k := by
    rw [column_afterAll_spaces, hp, Nat.zero_add]
  refine ⟨_, hcol, ?_⟩
  rw [readBlockLines_spaces (by omega)]
  cases tail with
  | nil => rfl
  | cons c tail =>
    obtain ⟨hblank, hbreak, -, -⟩ := htail c rfl
    simp only [isBlank, Bool.or_eq_false_iff] at hblank
    rw [readBlockLines.eq_def]
    simp [hblank, hbreak, hcol, hk]

lemma exists_readBlockLines {cs : List Char} (hprint : ∀ c ∈ cs, isPrintable c = true)
    (chomp : Chomping) {atLineStart : Bool} {p : Position} {b : BlockText} {t : List Char}
    (hb : b.Holds atLineStart t) (hp : atLineStart = true → p.column = 0) {k : Nat} (hk : k < 4)
    {tail : List Char} (htail : StartsToken tail) :
    ∃ (b' : BlockText) (q : Position), b'.Holds true (t ++ cs ++ missingEnd atLineStart cs) ∧
      q.column = k ∧
      readBlockLines true chomp 4 (!atLineStart) p b
          (literalLines atLineStart cs ++ (List.replicate k ' ' ++ tail)) =
        some ⟨b'.finish chomp, q, tail, false⟩ := by
  induction cs generalizing atLineStart p b t with
  | nil =>
    cases atLineStart with
    | true =>
      obtain ⟨q, hq, hread⟩ := exists_readBlockLines_end chomp b (hp rfl) hk htail
      exact ⟨b, q, by simpa [missingEnd] using hb, hq, hread⟩
    | false =>
      obtain ⟨b', hholds, hcol, hread⟩ := readBlockLines_char (c := '\n') rfl chomp hb hp
      obtain ⟨q, hq, hread'⟩ := exists_readBlockLines_end chomp b' (hcol rfl) hk htail
      refine ⟨b', q, ?_, hq, (hread _).trans hread'⟩
      rw [List.append_nil]
      exact hholds
  | cons c cs ih =>
    obtain ⟨b₁, hholds₁, hcol, hread₁⟩ :=
      readBlockLines_char (hprint c List.mem_cons_self) chomp hb hp
    obtain ⟨b', q, hholds, hq, hread⟩ :=
      ih (fun d hd => hprint d (List.mem_cons_of_mem c hd)) hholds₁ hcol
    refine ⟨b', q, by simpa [missingEnd] using hholds, hq, ?_⟩
    rw [literalLines_cons, List.append_assoc, hread₁, hread]

def chomping (cs : List Char) : Chomping :=
  match cs.reverse with
  | [] => .strip
  | c :: rest =>
      if !isLineEnd c then .strip else if rest.head?.all isLineEnd then .keep else .clip

lemma BlockText.Holds.text_eq_dropWhile {b : BlockText} {atLineStart : Bool} {t : List Char}
    (h : b.Holds atLineStart t) : b.text = t.reverse.dropWhile isLineEnd := by
  rw [← h.sum, List.dropWhile_append_of_pos h.ends]
  cases htext : b.text with
  | nil => rfl
  | cons c text =>
    have hc := h.last c (by rw [htext]; rfl)
    rw [List.dropWhile_cons_of_neg (by simp [hc])]

lemma finish_chomping {cs : List Char} (hne : cs ≠ []) {b : BlockText}
    (h : b.Holds true (cs ++ missingEnd true cs)) : b.finish (chomping cs) = cs := by
  obtain ⟨init, c, rfl⟩ := (List.eq_nil_or_concat' cs).resolve_left hne
  rw [missingEnd_concat] at h
  have htext := h.text_eq_dropWhile
  have hsum := h.sum
  cases hc : isLineEnd c with
  | false =>
    have hn : isLineEnd '\n' = true := rfl
    have hchomp : chomping (init ++ [c]) = .strip := by simp [chomping, hc]
    rw [hchomp, BlockText.finish, htext]
    simp [hc, hn]
  | true =>
    rw [hc, if_pos rfl, List.append_nil, List.reverse_concat] at hsum htext
    cases hall : init.getLast?.all isLineEnd with
    | true =>
      have hchomp : chomping (init ++ [c]) = .keep := by simp [chomping, hc, hall]
      rw [hchomp, BlockText.finish, hsum]
      simp
    | false =>
      have hchomp : chomping (init ++ [c]) = .clip := by simp [chomping, hc, hall]
      have hrest : b.text = init.reverse ∧ b.text ≠ [] := by
        cases hinit : init.reverse with
        | nil => simp [List.reverse_eq_nil_iff.mp hinit] at hall
        | cons d rest =>
          rw [← List.head?_reverse, hinit] at hall
          rw [hinit] at htext
          have hd : isLineEnd d = false := hall
          simp [htext, hc, hd]
      have hends : b.breaks ++ b.lineBreak = [c] := by
        rw [hrest.1] at hsum
        exact List.append_cancel_right (hsum.trans (List.singleton_append).symm)
      have hline : b.lineBreak = [c] := by
        rcases List.append_eq_singleton_iff.mp hends with ⟨-, hline⟩ | ⟨-, hline⟩
        · exact hline
        · exact absurd hline (h.behind rfl hrest.2)
      rw [hchomp, BlockText.finish, hline, hrest.1]
      simp

def startsBlank (cs : List Char) : Bool := cs.head?.any fun c => isSpace c || isLineEnd c

lemma literalHints_eq (cs : List Char) :
    literalHints cs = (if startsBlank cs then ['2'] else []) ++
      match chomping cs with
      | .strip => ['-']
      | .keep => ['+']
      | .clip => [] := by
  rw [literalHints, chomping, startsBlank]
  cases cs.reverse with
  | nil => rfl
  | cons c rest =>
    cases hc : isLineEnd c <;> cases hrest : rest.head?.all isLineEnd <;> simp [hc, hrest]

lemma readHints_literalHints (cs tail : List Char) :
    readHints (literalHints cs ++ '\n' :: tail) =
      some (⟨chomping cs, if startsBlank cs then some 2 else none⟩, (literalHints cs).length,
        '\n' :: tail) := by
  rw [literalHints_eq]
  cases startsBlank cs <;> cases chomping cs <;> rfl

lemma readLeadingBreaks_indent {p : Position} (hp : p.column = 0) {c : Char}
    (hc : isPrintable c = true) (hspace : c ≠ ' ') (hle : isLineEnd c = false)
    (rest : List Char) :
    readLeadingBreaks p 0 [] (indent ++ c :: rest) =
      some (4, [], p.afterAll indent, c :: rest) := by
  have hbreak : isBreak c = false := (isBreak_eq_isLineEnd hc).trans hle
  have htab : c ≠ '\t' := isPrintable_ne hc (by decide)
  have hafter : p.afterAll indent = ⟨p.index + 4, p.line, 4⟩ :=
    (afterAll_spaces p 4).trans (by rw [hp])
  rw [hafter]
  simp [indent, readLeadingBreaks, hspace, htab, hbreak, Position.next, hp]

lemma exists_readBlock {cs : List Char} (hne : cs ≠ [])
    (hprint : ∀ c ∈ cs, isPrintable c = true) (p : Position) {k : Nat} (hk : k ≤ 2)
    {tail : List Char} (htail : StartsToken tail) :
    ∃ q : Position, q.column = k ∧
      readBlock true (some 2) p
          (literalHints cs ++ '\n' :: (literalLines true cs ++ (List.replicate k ' ' ++ tail))) =
        some ⟨cs, q, tail, false⟩ := by
  obtain ⟨b, q, hholds, hq, hread⟩ := exists_readBlockLines hprint (chomping cs) .nil
    (p := (p.afterAll (literalHints cs)).nextLine) (fun _ => Position.column_nextLine)
    (by omega : k < 4) htail
  refine ⟨q, hq, ?_⟩
  rw [finish_chomping hne hholds] at hread
  have hlines : ∀ rest, readBlock true (some 2) p (literalHints cs ++ '\n' :: rest) =
      readBlock.readLines true (some 2) ⟨chomping cs, if startsBlank cs then some 2 else none⟩
        (p.afterAll (literalHints cs)).nextLine rest := by
    intro rest
    rw [readBlock, readHints_literalHints]
    simp only [Option.bind_eq_bind, Option.bind_some, List.take_left]
    rfl
  rw [hlines]
  cases hstart : startsBlank cs with
  | true => exact hread
  | false =>
    obtain ⟨c, cs, rfl⟩ := List.exists_cons_of_ne_nil hne
    obtain ⟨hspace, hle⟩ : c ≠ ' ' ∧ isLineEnd c = false := by
      simpa [startsBlank, isSpace] using hstart
    have hfirst : literalLines true (c :: cs) = indent ++ c :: literalLines false cs := by
      simp [literalLines, hle]
    rw [hfirst, List.append_assoc, List.cons_append] at hread ⊢
    have hbreaks := readLeadingBreaks_indent (p := (p.afterAll (literalHints (c :: cs))).nextLine)
      Position.column_nextLine (hprint c List.mem_cons_self) hspace hle
      (literalLines false cs ++ (List.replicate k ' ' ++ tail))
    simp only [readBlock.readLines, hbreaks, Bool.false_eq_true, if_false, Option.bind_eq_bind,
      Option.bind_some]
    exact (readBlockLines_spaces (k := 4) (Nat.le_refl 4) _ {} _).symm.trans hread

end TemplateGrep.Yaml
