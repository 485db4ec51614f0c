import Mathlib
import TemplateGrep.Proofs.Yaml.Styles

/-! The lexer on what is written: one lemma for a key, one for a value with the end of its line. In
front of each token the state is brought into one form, in which no candidate for a key is left. -/

namespace TemplateGrep.Yaml

open ScalarWriter (isPrintable startsLikeToken separatorAhead style)

namespace LexerState

/-! ### Runs -/

def settle (s : LexerState) (cs : List Char) : Option (LexerState × List Char) :=
  (s.skipSpace false cs).1.forgetStale.map fun s' =>
    (s'.unindent (some s'.position.column), (s.skipSpace false cs).2)

lemma run_succ (fuel : Nat) (s : LexerState) (cs : List Char) :
    run (fuel + 1) s cs = (s.settle cs).bind fun next =>
      match next.2 with
      | [] => next.1.finish
      | cs => (next.1.step cs).bind fun read => run fuel read.1 read.2 := by
  rw [run, settle]
  obtain ⟨s', cs'⟩ := s.skipSpace false cs
  dsimp only
  cases s'.forgetStale with
  | none => rfl
  | some s' => cases cs' <;> rfl

def Leads (s : LexerState) (cs : List Char) (s' : LexerState) (cs' : List Char) : Prop :=
  ∀ fuel, cs.length < fuel → ∃ fuel', cs'.length < fuel' ∧ run fuel s cs = run fuel' s' cs'

namespace Leads

variable {s s' s'' : LexerState} {cs cs' cs'' : List Char}

lemma trans (h : Leads s cs s' cs') (h' : Leads s' cs' s'' cs'') : Leads s cs s'' cs'' := by
  intro fuel hfuel
  obtain ⟨fuel', hfuel', hrun⟩ := h fuel hfuel
  obtain ⟨fuel'', hfuel'', hrun'⟩ := h' fuel' hfuel'
  exact ⟨fuel'', hfuel'', hrun.trans hrun'⟩

lemma of_settle (h : s.settle cs = s'.settle cs') (hle : cs'.length ≤ cs.length) :
    Leads s cs s' cs' := by
  intro fuel hfuel
  obtain ⟨n, rfl⟩ := Nat.exists_eq_add_one_of_ne_zero (Nat.ne_zero_of_lt hfuel)
  refine ⟨n + 1, hle.trans_lt hfuel, ?_⟩
  rw [run_succ, run_succ, h]

lemma of_step {t : LexerState} {ts : List Char} (h : s.settle cs = some (t, ts)) (hne : ts ≠ [])
    (hstep : t.step ts = some (s', cs')) (hlt : cs'.length < cs.length) : Leads s cs s' cs' := by
  intro fuel hfuel
  obtain ⟨n, rfl⟩ := Nat.exists_eq_add_one_of_ne_zero (Nat.ne_zero_of_lt hfuel)
  refine ⟨n, by omega, ?_⟩
  obtain ⟨c, ts, rfl⟩ := List.exists_cons_of_ne_nil hne
  rw [run_succ, h]
  simp only [Option.bind_some, hstep]

end Leads

/-! ### In front of a token -/

variable {p : Position} {tokens : List Token} {indents : List Nat} {b : Bool}
  {candidate : Option KeyCandidate} {cs : List Char}

lemma skipSpace_token (s : LexerState) (h : StartsToken cs) : s.skipSpace false cs = (s, cs) := by
  cases cs with
  | nil => rfl
  | cons c cs =>
    obtain ⟨hblank, hbreak, hhash, hmark⟩ := h c rfl
    simp only [isBlank, Bool.or_eq_false_iff] at hblank
    simp [skipSpace, hblank, hbreak, hhash, hmark]

lemma settle_space (s : LexerState) (cs : List Char) :
    s.settle (' ' :: cs) = { s with position := s.position.next }.settle cs := by
  have hskip : s.skipSpace false (' ' :: cs) =
      { s with position := s.position.next }.skipSpace false cs := by
    have hspace : isBreak ' ' = false ∧ (' ' == byteOrderMark) = false := by decide
    rw [skipSpace]
    simp [hspace]
  rw [settle, settle, hskip]

lemma settle_spaces (k : Nat) (s : LexerState) (cs : List Char) :
    s.settle (List.replicate k ' ' ++ cs) =
      { s with position := s.position.afterAll (List.replicate k ' ') }.settle cs := by
  induction k generalizing s with
  | zero => rfl
  | succ k ih =>
    rw [List.replicate_succ, List.cons_append, settle_space, ih]
    rfl

lemma settle_newline (k : Nat) (cs : List Char) :
    settle ⟨p, tokens, indents, b, candidate, []⟩ ('\n' :: (List.replicate k ' ' ++ cs)) =
      settle ⟨p.afterAll ('\n' :: List.replicate k ' '), tokens, indents, true, candidate, []⟩
        cs := by
  have hbreak : isBreak '\n' = true := rfl
  have hafter : p.after '\n' = p.nextLine := rfl
  have hskip : skipSpace ⟨p, tokens, indents, b, candidate, []⟩ false
      ('\n' :: (List.replicate k ' ' ++ cs)) =
      skipSpace ⟨p.nextLine, tokens, indents, true, candidate, []⟩ false
        (List.replicate k ' ' ++ cs) := by
    rw [skipSpace]
    simp [hbreak, inFlow]
  rw [settle, hskip, ← settle, settle_spaces, Position.afterAll_cons, hafter]

lemma forgetStale_fresh (h : ∀ k ∈ candidate, isStale p k = false) :
    forgetStale ⟨p, tokens, indents, b, candidate, []⟩ =
      some ⟨p, tokens, indents, b, candidate, []⟩ := by
  cases candidate with
  | none => rfl
  | some k =>
    have hk := h k rfl
    simp [forgetStale, hk]

lemma forgetStale_passed (h : ∀ k ∈ candidate, k.required = false ∧ k.position.line < p.line) :
    forgetStale ⟨p, tokens, indents, b, candidate, []⟩ =
      some ⟨p, tokens, indents, b, none, []⟩ := by
  cases candidate with
  | none => rfl
  | some k =>
    obtain ⟨hreq, hline⟩ := h k rfl
    simp [forgetStale, isStale, hreq, hline]

lemma settle_token (hcs : StartsToken cs) (h : ∀ k ∈ candidate, isStale p k = false) :
    settle ⟨p, tokens, indents, b, candidate, []⟩ cs =
      some (⟨p, (closeBlocks (some p.column) indents tokens).2,
        (closeBlocks (some p.column) indents tokens).1, b, candidate, []⟩, cs) := by
  rw [settle, skipSpace_token _ hcs, forgetStale_fresh h]
  rfl

lemma settle_passed (hcs : StartsToken cs)
    (h : ∀ k ∈ candidate, k.required = false ∧ k.position.line < p.line) :
    settle ⟨p, tokens, indents, b, candidate, []⟩ cs =
      settle ⟨p, tokens, indents, b, none, []⟩ cs := by
  rw [settle, settle, skipSpace_token _ hcs, skipSpace_token _ hcs, forgetStale_passed h,
    @forgetStale_passed p tokens indents b none (by simp)]

lemma closeBlocks_of_le {column : Nat} (h : ∀ n ∈ indents.head?, n ≤ column)
    (tokens : List Token) : closeBlocks (some column) indents tokens = (indents, tokens) := by
  cases indents with
  | nil => rfl
  | cons n outer => simp [closeBlocks, h n rfl]

lemma head?_closeBlocks (column : Nat) (indents : List Nat) (tokens : List Token) :
    ∀ n ∈ (closeBlocks (some column) indents tokens).1.head?, n ≤ column := by
  induction indents generalizing tokens with
  | nil => simp [closeBlocks]
  | cons n outer ih =>
    rw [closeBlocks]
    split
    case isTrue h =>
      intro m hm
      obtain rfl : n = m := by simpa using hm
      simpa using h
    case isFalse => exact ih _

/-! ### Scalars -/

lemma saveCandidate_key (p : Position) (tokens : List Token) (indents : List Nat) :
    saveCandidate ⟨p, tokens, indents, true, none, []⟩ =
      some ⟨p, tokens, indents, true,
        some ⟨tokens.length, p, indents.head? == some p.column⟩, []⟩ := rfl

lemma exists_saveCandidate_value {n : Nat} {outer : List Nat} (h : n < p.column) (b : Bool) :
    ∃ candidate : Option KeyCandidate,
      saveCandidate ⟨p, tokens, n :: outer, b, none, []⟩ =
        some ⟨p, tokens, n :: outer, b, candidate, []⟩ ∧
      ∀ k ∈ candidate, k.required = false ∧ k.position = p := by
  cases b with
  | false => exact ⟨none, rfl, by simp⟩
  | true =>
    refine ⟨_, saveCandidate_key p tokens (n :: outer), ?_⟩
    intro k hk
    obtain rfl := Option.some.inj (Option.mem_def.mp hk)
    exact ⟨by simpa using h.ne, rfl⟩

def Scans (w : List Char) (text : String) (style : ScalarStyle) (rest : List Char) : Prop :=
  ∀ (p : Position) (tokens : List Token) (indents : List Nat) (b : Bool)
    (candidate : Option KeyCandidate),
    saveCandidate ⟨p, tokens, indents, b, none, []⟩ =
        some ⟨p, tokens, indents, b, candidate, []⟩ →
      (∀ n ∈ indents.head?, n ≤ p.column) →
      step ⟨p, tokens, indents, b, none, []⟩ (w ++ rest) =
        some (⟨p.afterAll w, .scalar text style :: tokens, indents, false, candidate, []⟩, rest)

lemma scans_doubleQuoted (text : String) (rest : List Char) :
    Scans ('"' :: text.toList.flatMap ScalarWriter.doubleQuotedChar ++ ['"']) text .doubleQuoted
      rest := by
  intro p tokens indents b candidate hsave _
  have hread := readDoubleQuoted_eq text.toList (p := p.next) (Nat.succ_pos _) rest
  have hafter : p.after '"' = p.next := rfl
  have hmark : ∀ cs, isDocumentMark ('"' :: cs) = false := fun _ => rfl
  simp only [List.cons_append, List.append_assoc, List.nil_append]
  simp [step, hmark, quoted, hsave, hread, scalar, emit, Position.afterAll_cons, hafter]

lemma scans_singleQuoted {text : String} (h : IsQuotable text.toList) {rest : List Char}
    (hrest : rest.head? ≠ some '\'') :
    Scans ('\'' :: ScalarWriter.singleQuoted false text.toList) text .singleQuoted rest := by
  intro p tokens indents b candidate hsave _
  have hread := readSingleQuoted_eq h (p := p.next) (Nat.succ_pos _) hrest
  have hafter : p.after '\'' = p.next := rfl
  have hmark : ∀ cs, isDocumentMark ('\'' :: cs) = false := fun _ => rfl
  rw [List.cons_append]
  simp [step, hmark, quoted, hsave, hread, scalar, emit, Position.afterAll_cons, hafter]

lemma startsPlain_of_isPlain {c : Char} {cs : List Char} (h : IsPlain (c :: cs)) (rest : List Char) :
    c ∉ ScalarWriter.indicators ∧
      (c = '-' ∨ c = '?' ∨ c = ':' → blankAhead (cs ++ rest) = false) ∧
      startsPlain false (c :: (cs ++ rest)) = true := by
  obtain ⟨_, _, he, -, hblank, hbreak⟩ := h.exists_cons
  obtain ⟨rfl, -⟩ := List.cons.inj he
  have hstart := h.start
  have hfirst : (ScalarWriter.indicators.contains c ||
      ((c == '?' || c == ':' || c == '-') && separatorAhead cs)) = false := by
    unfold startsLikeToken at hstart
    split at hstart
    · cases hstart
    · cases hstart
    · next he =>
      obtain ⟨rfl, rfl⟩ := List.cons.inj he
      exact hstart
    · next he => cases he
  rw [Bool.or_eq_false_iff] at hfirst
  have hind : c ∉ ScalarWriter.indicators := by simpa using hfirst.1
  have hahead : c = '-' ∨ c = '?' ∨ c = ':' → blankAhead (cs ++ rest) = false := by
    intro hc
    refine blankAhead_of_not_separatorAhead ?_ rest
    rcases hc with rfl | rfl | rfl <;> simpa using hfirst.2
  refine ⟨hind, hahead, ?_⟩
  by_cases hmark : c = '-' ∨ c = '?' ∨ c = ':'
  · have hbehind := hahead hmark
    generalize cs ++ rest = behind at hbehind
    have hnext : behind.head?.any isBlank = false := by
      cases behind with
      | nil => rfl
      | cons d ds =>
        rw [blankAhead, Bool.or_eq_false_iff] at hbehind
        exact hbehind.1
    rcases hmark with rfl | rfl | rfl <;> simp [startsPlain, hbehind, hnext]
  · have hother : c ∉ indicators := by
      simp only [indicators, ScalarWriter.indicators, List.mem_cons, not_or] at hind hmark ⊢
      simp [hind, hmark]
    simp [startsPlain, hblank, hbreak, hother]

lemma step_plain {s : LexerState} (hflow : s.inFlow = false) {w : List Char} (h : IsPlain w)
    (rest : List Char) (hcol : s.position.column = 0 → isDocumentMark (w ++ rest) = false) :
    s.step (w ++ rest) = s.plain (w ++ rest) := by
  obtain ⟨c, cs, rfl⟩ := List.exists_cons_of_ne_nil h.ne_nil
  obtain ⟨hind, hahead, hplain⟩ := startsPlain_of_isPlain h rest
  have hdoc : ¬ (s.position.column = 0 ∧ isDocumentMark (c :: (cs ++ rest)) = true) := by
    rintro ⟨h0, hmark⟩
    exact Bool.false_ne_true ((hcol h0).symm.trans hmark)
  have hmarks : ∀ d ∈ ['-', '?', ':'], ¬ (c = d ∧ blankAhead (cs ++ rest) = true) := by
    rintro d hd ⟨rfl, hblank⟩
    exact Bool.false_ne_true ((hahead (by simpa using hd)).symm.trans hblank)
  have hdash := hmarks '-' (by decide)
  have hquestion := hmarks '?' (by decide)
  have hcolon := hmarks ':' (by decide)
  simp only [ScalarWriter.indicators, List.mem_cons, not_or] at hind
  rw [List.cons_append]
  simp [step, hflow, hind, hdoc, hdash, hquestion, hcolon, hplain]

lemma exists_of_isDocumentMark (h : isDocumentMark cs = true) :
    ∃ c rest, (c = '-' ∨ c = '.') ∧ cs = c :: c :: c :: rest := by
  rw [isDocumentMark, Bool.or_eq_true] at h
  rcases h with h | h
  · unfold isDocumentStart at h
    split at h
    · exact ⟨_, _, .inl rfl, rfl⟩
    · cases h
  · unfold isDocumentEnd at h
    split at h
    · exact ⟨_, _, .inr rfl, rfl⟩
    · cases h

lemma isDocumentMark_plain {w : List Char} (h : IsPlain w) (rest : List Char) :
    isDocumentMark (w ++ ':' :: rest) = false := by
  have hstart := h.start
  by_contra hmark
  obtain ⟨c, behind, hc, heq⟩ := exists_of_isDocumentMark (Bool.eq_true_of_not_eq_false hmark)
  have hcolon : c ≠ ':' := by rcases hc with rfl | rfl <;> decide
  rcases w with _ | ⟨a, _ | ⟨b, _ | ⟨d, w⟩⟩⟩
  · exact hcolon (List.cons.inj heq).1.symm
  · exact hcolon (List.cons.inj (List.cons.inj heq).2).1.symm
  · exact hcolon (List.cons.inj (List.cons.inj (List.cons.inj heq).2).2).1.symm
  · simp only [List.cons_append, List.cons.injEq] at heq
    obtain ⟨rfl, rfl, rfl, -⟩ := heq
    rcases hc with rfl | rfl <;> cases hstart

lemma scans_plain {text : String} (h : IsPlain text.toList) {rest : List Char}
    (hrest : blankAhead rest = true) :
    Scans text.toList text .plain (':' :: rest) := by
  intro p tokens indents b candidate hsave hindents
  rw [step_plain rfl h _ fun _ => isDocumentMark_plain h _]
  cases indents with
  | nil =>
    have hread := readPlain_key h (Nat.zero_le (p.column + 1)) hrest
    simp [plain, hsave, inFlow, hread, scalar, emit]
  | cons n outer =>
    have hread := readPlain_key h (Nat.succ_le_succ (hindents n rfl)) hrest
    simp [plain, hsave, inFlow, hread, scalar, emit]

lemma scans_key (text : String) {rest : List Char} (hrest : blankAhead rest = true)
    (hstyle : style text ≠ .literal) :
    Scans (ScalarWriter.inline text) text (style text) (':' :: rest) := by
  rw [ScalarWriter.inline]
  split
  case h_1 h =>
    rw [h]
    exact scans_plain (ScalarWriter.isPlain_of_style h) hrest
  case h_2 h =>
    rw [h]
    exact scans_singleQuoted (ScalarWriter.isQuotable_of_style h) (by simp)
  case h_3 hplain hsingle =>
    rw [ScalarWriter.style_eq_doubleQuoted hplain hsingle hstyle]
    exact scans_doubleQuoted text _

/-! ### Keys -/

def enter (column : Nat) (indents : List Nat) (tokens : List Token) : List Nat × List Token :=
  let (indents, tokens) := closeBlocks (some column) indents tokens
  if indents.head?.all (· < column) then (column :: indents, .blockMappingStart :: tokens)
  else (indents, tokens)

lemma isDeeper_eq (column : Nat) :
    isDeeper ⟨p, tokens, indents, b, candidate, []⟩ column = indents.head?.all (· < column) := by
  cases indents <;> rfl

lemma valueMark_candidate (p q : Position) (tokens : List Token) (indents : List Nat) (t : Token)
    (required : Bool) :
    valueMark ⟨q, t :: (closeBlocks (some p.column) indents tokens).2,
        (closeBlocks (some p.column) indents tokens).1, false,
        some ⟨(closeBlocks (some p.column) indents tokens).2.length, p, required⟩, []⟩ =
      some ⟨q.next, .value :: t :: .key :: (enter p.column indents tokens).2,
        (enter p.column indents tokens).1, false, none, []⟩ := by
  rw [enter]
  obtain ⟨is, ts⟩ := closeBlocks (some p.column) indents tokens
  have hlater : ts.length + 1 - ts.length = 1 := by omega
  simp only [valueMark, isDeeper_eq]
  cases is.head?.all (· < p.column) <;> simp [insertAt, mark, emit, hlater]

lemma exists_leads_key {w : List Char} {text : String} {style : ScalarStyle} {rest : List Char}
    (hw : Scans w text style (':' :: rest)) (hne : w ≠ [])
    (hstart : StartsToken (w ++ ':' :: rest)) (hline : ∀ d ∈ w, isBreak d = false)
    (hlen : w.length ≤ keyLength) (hrest : blankAhead rest = true) (p : Position)
    (tokens : List Token) (indents : List Nat) :
    ∃ q : Position, p.column ≤ q.column ∧
      Leads ⟨p, tokens, indents, true, none, []⟩ (w ++ ':' :: rest)
        ⟨q, .value :: .scalar text style :: .key :: (enter p.column indents tokens).2,
          (enter p.column indents tokens).1, false, none, []⟩ rest := by
  refine ⟨(p.afterAll w).next, ?_, ?_⟩
  · rw [Position.afterAll_eq hline, Position.column_next]
    exact (Nat.le_add_right _ _).trans (Nat.le_succ _)
  have hheads := head?_closeBlocks p.column indents tokens
  have hmark := valueMark_candidate p (p.afterAll w) tokens indents (.scalar text style)
  have hsettle := @settle_token p tokens indents true none _ hstart (by simp)
  generalize (closeBlocks (some p.column) indents tokens).2 = ts at *
  generalize (closeBlocks (some p.column) indents tokens).1 = is at *
  have hstep := hw p ts is true _ (saveCandidate_key p ts is) hheads
  have hlead : Leads ⟨p, tokens, indents, true, none, []⟩ (w ++ ':' :: rest)
      ⟨p.afterAll w, .scalar text style :: ts, is, false,
        some ⟨ts.length, p, is.head? == some p.column⟩, []⟩ (':' :: rest) := by
    refine .of_step hsettle (by simp) hstep ?_
    have := List.length_pos_iff.mpr hne
    simp only [List.length_append]
    omega
  refine hlead.trans ?_
  have hcolon : StartsToken (':' :: rest) := ScalarWriter.startsToken_mark (by decide) rest
  have hfresh : isStale (p.afterAll w) ⟨ts.length, p, is.head? == some p.column⟩ = false := by
    rw [Position.afterAll_eq hline]
    simp [isStale, hlen]
  have hclose : closeBlocks (some (p.afterAll w).column) is (.scalar text style :: ts) =
      (is, .scalar text style :: ts) := by
    refine closeBlocks_of_le (fun n hn => (hheads n hn).trans ?_) _
    rw [Position.afterAll_eq hline]
    exact Nat.le_add_right _ _
  have hsettle' := @settle_token (p.afterAll w) (.scalar text style :: ts) is false
    (some ⟨ts.length, p, is.head? == some p.column⟩) _ hcolon (by simpa using hfresh)
  rw [hclose] at hsettle'
  refine .of_step hsettle' (by simp) ?_ (Nat.lt_succ_self _)
  have hdoc : isDocumentMark (':' :: rest) = false := rfl
  simp [step, hdoc, hrest, hmark]

/-! ### Values -/

lemma head?_le {n column : Nat} {outer : List Nat} (h : n ≤ column) :
    ∀ m ∈ (n :: outer).head?, m ≤ column := by simpa using h

lemma settle_value {n : Nat} {outer : List Nat} (hn : n ≤ p.column) (tokens : List Token) (b : Bool)
    (hcs : StartsToken cs) :
    settle ⟨p, tokens, n :: outer, b, none, []⟩ (' ' :: cs) =
      some (⟨p.next, tokens, n :: outer, b, none, []⟩, cs) := by
  have hclose : closeBlocks (some p.next.column) (n :: outer) tokens = (n :: outer, tokens) :=
    closeBlocks_of_le (head?_le (hn.trans (Nat.le_succ _))) tokens
  rw [settle_space, @settle_token p.next tokens (n :: outer) b none cs hcs (by simp), hclose]

lemma column_line_end (q : Position) (k : Nat) :
    (q.afterAll ('\n' :: List.replicate k ' ')).column = k := by
  rw [Position.afterAll_cons, column_afterAll_spaces]
  exact Nat.zero_add k

lemma passed_of_line_end {q q' : Position}
    (h : ∀ c ∈ candidate, c.required = false ∧ c.position = q) (hle : q.line ≤ q'.line)
    (k : Nat) : ∀ c ∈ candidate, c.required = false ∧
      c.position.line < (q'.afterAll ('\n' :: List.replicate k ' ')).line := by
  intro c hc
  obtain ⟨hreq, hpos⟩ := h c hc
  refine ⟨hreq, ?_⟩
  have hafter : q'.after '\n' = q'.nextLine := rfl
  rw [hpos, Position.afterAll_cons, hafter]
  exact Nat.lt_of_lt_of_le (Nat.lt_succ_of_le hle) (Position.line_le_afterAll (p := q'.nextLine) _)

section Values

variable {n k : Nat} {tail : List Char}

lemma exists_leads_plain {w : List Char} (hw : IsPlain w) (hn : n ≤ p.column) (hk : k ≤ n)
    (htail : StartsToken tail) (tokens : List Token) (outer : List Nat) (b : Bool) :
    ∃ q : Position, q.column = k ∧
      Leads ⟨p, tokens, n :: outer, b, none, []⟩
        (' ' :: (w ++ '\n' :: (List.replicate k ' ' ++ tail)))
        ⟨q, .scalar (String.ofList w) .plain :: tokens, n :: outer, true, none, []⟩ tail := by
  refine ⟨_, column_line_end (p.next.afterAll w) k, ?_⟩
  obtain ⟨candidate, hsave, hcand⟩ := @exists_saveCandidate_value p.next tokens n outer
    (Nat.lt_succ_of_le hn) b
  have hstart := ScalarWriter.startsToken_plain hw ('\n' :: (List.replicate k ' ' ++ tail))
  have hread := readPlain_value (p := p.next) hw (hn.trans (Nat.le_succ _)) hk htail
  have hstep := @step_plain ⟨p.next, tokens, n :: outer, b, none, []⟩ rfl w hw
    ('\n' :: (List.replicate k ' ' ++ tail)) (by simp [Position.column_next])
  have hplain : plain ⟨p.next, tokens, n :: outer, b, none, []⟩
      (w ++ '\n' :: (List.replicate k ' ' ++ tail)) =
      some (⟨(p.next.afterAll w).afterAll ('\n' :: List.replicate k ' '),
        .scalar (String.ofList w) .plain :: tokens, n :: outer, true, candidate, []⟩, tail) := by
    simp [plain, hsave, inFlow, hread, scalar, emit]
  refine Leads.trans (.of_step (settle_value hn tokens b hstart) (by simp) (hstep.trans hplain) ?_)
    (.of_settle (settle_passed htail ?_) (Nat.le_refl _))
  · simp only [List.length_cons, List.length_append]
    omega
  · exact passed_of_line_end hcand (Position.line_le_afterAll w) k

lemma exists_leads_quoted {w : List Char} {text : String} {style : ScalarStyle}
    (hw : Scans w text style ('\n' :: (List.replicate k ' ' ++ tail)))
    (hstart : StartsToken (w ++ '\n' :: (List.replicate k ' ' ++ tail)))
    (hn : n ≤ p.column) (htail : StartsToken tail) (tokens : List Token) (outer : List Nat)
    (b : Bool) :
    ∃ q : Position, q.column = k ∧
      Leads ⟨p, tokens, n :: outer, b, none, []⟩
        (' ' :: (w ++ '\n' :: (List.replicate k ' ' ++ tail)))
        ⟨q, .scalar text style :: tokens, n :: outer, true, none, []⟩ tail := by
  refine ⟨_, column_line_end (p.next.afterAll w) k, ?_⟩
  obtain ⟨candidate, hsave, hcand⟩ := @exists_saveCandidate_value p.next tokens n outer
    (Nat.lt_succ_of_le hn) b
  have hstep := hw p.next tokens (n :: outer) b candidate hsave
    (head?_le (hn.trans (Nat.le_succ _)))
  refine Leads.trans (.of_step (settle_value hn tokens b hstart) (by simp) hstep ?_)
    (.of_settle ((settle_newline k tail).trans (settle_passed htail ?_)) ?_)
  · simp only [List.length_cons, List.length_append]
    omega
  · exact passed_of_line_end hcand (Position.line_le_afterAll w) k
  · simp only [List.length_cons, List.length_append]
    omega

lemma exists_leads_literal {cs : List Char} (hne : cs ≠ [])
    (hprint : ∀ c ∈ cs, isPrintable c = true) (hn : 2 ≤ p.column) (hk : k ≤ 2)
    (htail : StartsToken tail) (tokens : List Token) (outer : List Nat) (b : Bool) :
    ∃ q : Position, q.column = k ∧
      Leads ⟨p, tokens, 2 :: outer, b, none, []⟩
        (' ' :: '|' :: (ScalarWriter.literalHints cs ++
          '\n' :: (ScalarWriter.literalLines true cs ++ (List.replicate k ' ' ++ tail))))
        ⟨q, .scalar (String.ofList cs) .literal :: tokens, 2 :: outer, true, none, []⟩ tail := by
  obtain ⟨q, hq, hread⟩ := exists_readBlock hne hprint p.next.next hk htail
  refine ⟨q, hq, .of_step (settle_value hn tokens b ?_) (by simp) ?_ ?_⟩
  · exact ScalarWriter.startsToken_mark (by decide) _
  · have hdoc : ∀ cs, isDocumentMark ('|' :: cs) = false := fun _ => rfl
    simp [step, hdoc, inFlow, block, dropCandidate, hread, scalar, emit]
  · simp only [List.length_cons, List.length_append]
    omega

lemma exists_leads_line (text : String) (hn : 2 ≤ p.column) (hk : k ≤ 2)
    (htail : StartsToken tail) (tokens : List Token) (outer : List Nat) (b : Bool) :
    ∃ q : Position, q.column = k ∧
      Leads ⟨p, tokens, 2 :: outer, b, none, []⟩
        (' ' :: (ScalarWriter.line text ++ (List.replicate k ' ' ++ tail)))
        ⟨q, .scalar text (style text) :: tokens, 2 :: outer, true, none, []⟩ tail := by
  rw [ScalarWriter.line, ScalarWriter.inline]
  split
  case isTrue h =>
    obtain ⟨hn', hprint⟩ := ScalarWriter.literalFits_of_style h
    have hlead := exists_leads_literal (List.ne_nil_of_mem hn') hprint hn hk htail
      tokens outer b
    rw [h]
    simpa using hlead
  case isFalse hliteral =>
    simp only [List.append_assoc, List.singleton_append]
    split
    case h_1 h =>
      have hlead := exists_leads_plain (ScalarWriter.isPlain_of_style h) hn hk htail tokens outer b
      rw [h]
      simpa using hlead
    case h_2 h =>
      have hquot := ScalarWriter.isQuotable_of_style h
      rw [h]
      exact exists_leads_quoted (scans_singleQuoted hquot (by simp))
        (ScalarWriter.startsToken_mark (by decide) _) hn htail tokens outer b
    case h_3 hplain hsingle =>
      rw [ScalarWriter.style_eq_doubleQuoted hplain hsingle hliteral]
      exact exists_leads_quoted (scans_doubleQuoted text _)
        (ScalarWriter.startsToken_mark (by decide) _) hn htail tokens outer b

end Values

end LexerState

end TemplateGrep.Yaml
