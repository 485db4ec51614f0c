import Mathlib
import TemplateGrep.Proofs.Yaml.Mapping
import TemplateGrep.Text.Blank

/-! A stream of blanks. Some blanks separate nothing in a stream and are read as scalars, but none of
them is a mark, so the document of such a stream is one scalar. -/

namespace TemplateGrep.Yaml

open Text (isBlankChar)

def Blanks (cs : List Char) : Prop := ∀ c ∈ cs, isBlankChar c = true

lemma Blanks.of_suffix {cs rest : List Char} (h : Blanks cs) (hrest : rest <:+ cs) : Blanks rest :=
  fun c hc => h c (hrest.subset hc)

lemma blanks_normalizeBreaks {cs : List Char} (h : Blanks cs) : Blanks (normalizeBreaks cs) := by
  have hn : isBlankChar '\n' = true := rfl
  have hcons : ∀ {c rest}, isBlankChar c = true → Blanks rest → Blanks (c :: rest) :=
    fun hc hrest => List.forall_mem_cons.mpr ⟨hc, hrest⟩
  induction cs using normalizeBreaks.induct with
  | case1 => exact h
  | case2 rest ih => exact hcons hn (ih (h.of_suffix ⟨['\r', '\n'], rfl⟩))
  | case3 rest hnext ih =>
    rw [normalizeBreaks]
    · exact hcons hn (ih (h.of_suffix (List.suffix_cons _ _)))
    · exact hnext
  | case4 rest ih => exact hcons hn (ih (h.of_suffix (List.suffix_cons _ _)))
  | case5 c rest h1 h2 h3 ih =>
    rw [normalizeBreaks]
    · exact hcons (h c List.mem_cons_self) (ih (h.of_suffix (List.suffix_cons _ _)))
    all_goals assumption

lemma ne_of_isBlankChar {c d : Char} (h : isBlankChar c = true) (hd : isBlankChar d = false) :
    c ≠ d := by
  rintro rfl
  exact Bool.false_ne_true (hd.symm.trans h)

def Token.isScalar : Token → Bool
  | .scalar _ _ => true
  | _ => false

lemma readPlain_rest {flow : Bool} {indent : Nat} {p : Position} {g : Gap} {text cs : List Char}
    {e : ScalarEnd} (h : readPlain flow indent p g text cs = some e) : e.rest <:+ cs := by
  fun_induction readPlain flow indent p g text cs with
  | case1 =>
    obtain rfl := Option.some.inj h
    exact List.suffix_rfl
  | case2 | case6 => cases h
  | case3 _ _ _ c rest _ _ ih | case4 _ _ _ c rest _ _ ih | case8 _ _ _ c rest _ _ _ _ _ ih =>
    exact (ih h).trans (List.suffix_cons c rest)
  | case5 | case7 =>
    obtain rfl := Option.some.inj h
    exact List.suffix_rfl

namespace LexerState

lemma exists_skipSpace (s : LexerState) (inComment : Bool) (cs : List Char) :
    ∃ p b rest, s.skipSpace inComment cs = ({ s with position := p, keyAllowed := b }, rest) ∧
      rest <:+ cs := by
  induction cs generalizing s inComment with
  | nil => exact ⟨s.position, s.keyAllowed, [], rfl, List.suffix_rfl⟩
  | cons c cs ih =>
    rw [skipSpace]
    split_ifs
    case neg => exact ⟨s.position, s.keyAllowed, c :: cs, rfl, List.suffix_rfl⟩
    all_goals
      obtain ⟨p, b, rest, heq, hrest⟩ := ih _ _
      exact ⟨p, b, rest, heq, hrest.trans (List.suffix_cons c cs)⟩

structure OnlyScalars (s : LexerState) : Prop where
  indents : s.indents = []
  outer : s.outerCandidates = []
  tokens : ∀ t ∈ s.tokens, t.isScalar = true

namespace OnlyScalars

variable {s s' : LexerState} {cs rest : List Char}

lemma unindent_eq (h : s.OnlyScalars) (column : Option Nat) : s.unindent column = s := by
  have hflow : s.inFlow = false := by rw [inFlow, h.outer]; rfl
  obtain ⟨p, tokens, indents, b, k, outer⟩ := s
  obtain rfl : indents = [] := h.indents
  rw [unindent, hflow]
  rfl

lemma forgetStale (h : s.OnlyScalars) (heq : s.forgetStale = some s') : s'.OnlyScalars := by
  rw [LexerState.forgetStale] at heq
  dsimp only at heq
  split at heq
  case isTrue => cases heq
  case isFalse =>
    obtain rfl := Option.some.inj heq
    exact ⟨h.indents, by simp [h.outer], h.tokens⟩

lemma settle (h : s.OnlyScalars) (heq : s.settle cs = some (s', rest)) :
    s'.OnlyScalars ∧ rest <:+ cs := by
  obtain ⟨p, b, behind, hskip, hbehind⟩ := s.exists_skipSpace false cs
  have hmoved : OnlyScalars { s with position := p, keyAllowed := b } :=
    ⟨h.indents, h.outer, h.tokens⟩
  rw [LexerState.settle, hskip, Option.map_eq_some_iff] at heq
  obtain ⟨t, ht, heq⟩ := heq
  have hkept := hmoved.forgetStale ht
  rw [hkept.unindent_eq, Prod.mk.injEq] at heq
  obtain ⟨rfl, rfl⟩ := heq
  exact ⟨hkept, hbehind⟩

lemma dropCandidate (h : s.OnlyScalars) (heq : s.dropCandidate = some s') : s'.OnlyScalars := by
  rw [LexerState.dropCandidate] at heq
  split at heq
  case isTrue => cases heq
  case isFalse =>
    obtain rfl := Option.some.inj heq
    exact ⟨h.indents, h.outer, h.tokens⟩

lemma saveCandidate (h : s.OnlyScalars) (heq : s.saveCandidate = some s') : s'.OnlyScalars := by
  rw [LexerState.saveCandidate] at heq
  split at heq
  case isTrue =>
    obtain ⟨t, ht, heq⟩ := Option.bind_eq_some_iff.mp heq
    obtain rfl := Option.some.inj heq
    have hdropped := h.dropCandidate ht
    exact ⟨hdropped.indents, hdropped.outer, hdropped.tokens⟩
  case isFalse =>
    obtain rfl := Option.some.inj heq
    exact h

lemma plain (h : s.OnlyScalars) (heq : s.plain cs = some (s', rest)) :
    s'.OnlyScalars ∧ rest <:+ cs := by
  obtain ⟨t, ht, heq⟩ := Option.bind_eq_some_iff.mp heq
  obtain ⟨e, he, heq⟩ := Option.bind_eq_some_iff.mp heq
  have hsaved := h.saveCandidate ht
  obtain ⟨rfl, rfl⟩ := Prod.mk.inj (Option.some.inj heq)
  refine ⟨⟨hsaved.indents, hsaved.outer, fun t ht => ?_⟩, readPlain_rest he⟩
  rcases List.mem_cons.mp ht with rfl | ht
  · rfl
  · exact hsaved.tokens t ht

lemma step (h : s.OnlyScalars) {c : Char} (hc : isBlankChar c = true)
    (heq : s.step (c :: cs) = some (s', rest)) : s'.OnlyScalars ∧ rest <:+ c :: cs := by
  have hmarks : indicators.all (fun d => !isBlankChar d) = true := rfl
  have hne : ∀ d ∈ indicators, (c == d) = false := fun d hd =>
    beq_false_of_ne (ne_of_isBlankChar hc (by simpa using List.all_eq_true.mp hmarks d hd))
  have hmark : isDocumentMark (c :: cs) = false := by
    by_contra hmark
    obtain ⟨d, behind, hd, he⟩ := exists_of_isDocumentMark (Bool.eq_true_of_not_eq_false hmark)
    obtain rfl : c = d := (List.cons.inj he).1
    rcases hd with rfl | rfl <;> cases hc
  simp only [indicators, List.forall_mem_cons] at hne
  simp only [LexerState.step, hne, hmark, Bool.and_false, Bool.false_and, Bool.false_eq_true,
    if_false] at heq
  split at heq
  case isTrue => exact h.plain heq
  case isFalse => cases heq

lemma run {fuel : Nat} (h : s.OnlyScalars) (hcs : Blanks cs) {ts : List Token}
    (heq : LexerState.run fuel s cs = some ts) : ∀ t ∈ ts, t.isScalar = true := by
  induction fuel generalizing s cs with
  | zero => cases heq
  | succ fuel ih =>
    rw [run_succ] at heq
    obtain ⟨⟨s', rest⟩, hsettle, heq⟩ := Option.bind_eq_some_iff.mp heq
    obtain ⟨h', hrest⟩ := h.settle hsettle
    cases rest with
    | nil =>
      dsimp only [finish] at heq
      rw [h'.unindent_eq] at heq
      obtain ⟨t, ht, heq⟩ := Option.bind_eq_some_iff.mp heq
      obtain rfl := Option.some.inj heq
      intro u hu
      exact (h'.dropCandidate ht).tokens u (List.mem_reverse.mp hu)
    | cons c rest =>
      have hblanks := hcs.of_suffix hrest
      obtain ⟨⟨s'', behind⟩, hstep, heq⟩ := Option.bind_eq_some_iff.mp heq
      obtain ⟨h'', hbehind⟩ := h'.step (hblanks c List.mem_cons_self) hstep
      exact ih h'' (hblanks.of_suffix hbehind) heq

end OnlyScalars

end LexerState

lemma isScalar_of_tokens? {cs : List Char} (h : Blanks cs) {ts : List Token}
    (heq : tokens? cs = some ts) : ∀ t ∈ ts, t.isScalar = true := by
  rw [tokens?] at heq
  split at heq
  case isTrue =>
    have hstart : LexerState.OnlyScalars {} := ⟨rfl, rfl, by simp⟩
    exact hstart.run (blanks_normalizeBreaks h) heq
  case isFalse => cases heq

lemma readDocument_scalar (text : String) (style : ScalarStyle) (ts : List Token) :
    readDocument (.scalar text style :: ts) = some (.scalar {} text style, ts) := by
  simp [readDocument, readDirectives, readRoot, enoughFuel, readNode_scalar]

lemma exists_scalar_of_isBlank {text : String} (h : Text.isBlank text = true) {root : Node Nat}
    (heq : document? text = some root) : ∃ p t style, root = .scalar p t style := by
  obtain ⟨ts, hts, heq⟩ := Option.bind_eq_some_iff.mp heq
  have hscalars := isScalar_of_tokens? (List.all_eq_true.mp h) hts
  cases ts with
  | nil =>
    obtain rfl := Option.some.inj heq
    exact ⟨_, _, _, rfl⟩
  | cons t ts =>
    obtain ⟨content, style, rfl⟩ : ∃ content style, t = .scalar content style := by
      have ht := hscalars t List.mem_cons_self
      cases t
      case scalar content style => exact ⟨content, style, rfl⟩
      all_goals cases ht
    simp only [List.isEmpty_cons, Bool.false_eq_true, if_false, readDocument_scalar,
      Option.bind_eq_bind, Option.bind_some] at heq
    split at heq
    case isTrue =>
      obtain rfl := Option.some.inj heq
      exact ⟨_, _, _, rfl⟩
    case isFalse => cases heq

end TemplateGrep.Yaml
