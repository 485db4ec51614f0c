import Mathlib
import TemplateGrep.Regex.Parser

/-!
A word boundary behind a text that is read. What a reader takes from the text, it takes from the
text with the anchor behind it, and it leaves the anchor; only a comment that is still open at the
end swallows the anchor.
-/

namespace TemplateGrep.Regex

open Unicode

def anchor : List Char := ['\\', 'b']

/-- What is left of a text and what is left of it with the anchor behind; a comment that is open at
the end swallows the anchor. -/
def Behind (rest rest' : List Char) : Prop := rest' = rest ++ anchor ∨ rest = [] ∧ rest' = []

section Readers

variable {α : Type}

def Exact (read : List Char → Option (α × List Char)) : Prop :=
  ∀ cs x rest, read cs = some (x, rest) → read (cs ++ anchor) = some (x, rest ++ anchor)

def Extends (read : List Char → Option (α × List Char)) : Prop :=
  ∀ cs x rest, read cs = some (x, rest) →
    ∃ rest', read (cs ++ anchor) = some (x, rest') ∧ Behind rest rest'

def Steady (read : List Char → Option (α × List Char)) : Prop :=
  ∀ cs x d rest, read cs = some (x, d :: rest) →
    read (cs ++ anchor) = some (x, d :: rest ++ anchor)

lemma Behind.eq_of_ne_nil {rest rest' : List Char} (h : Behind rest rest') (hne : rest ≠ []) :
    rest' = rest ++ anchor :=
  h.resolve_right fun hnil => hne hnil.1

lemma Behind.eq_append {d : Char} {rest rest' : List Char} (h : Behind (d :: rest) rest') :
    rest' = d :: rest ++ anchor :=
  h.eq_of_ne_nil (List.cons_ne_nil d rest)

lemma Behind.ne_cons {c : Char} {cs cs' : List Char} (h : Behind cs cs') (hc : c ≠ '\\')
    (hcs : ∀ rest, cs = c :: rest → False) : ∀ rest, cs' = c :: rest → False := by
  rintro rest rfl
  rcases h with h | ⟨-, h⟩
  · cases cs with
    | nil => exact hc (List.cons_eq_cons.mp h).1
    | cons d cs =>
      obtain ⟨rfl, -⟩ := List.cons_eq_cons.mp h
      exact hcs cs rfl
  · cases h

lemma Exact.extends {read : List Char → Option (α × List Char)} (h : Exact read) : Extends read :=
  fun cs x rest hr => ⟨rest ++ anchor, h cs x rest hr, .inl rfl⟩

lemma Extends.map {β : Type} {read : List Char → Option (α × List Char)} (h : Extends read)
    (f : α → β) : Extends fun cs => (read cs).map fun p => (f p.1, p.2) := by
  intro cs y rest hr
  obtain ⟨⟨x, r⟩, hx, he⟩ := Option.map_eq_some_iff.mp hr
  obtain ⟨rfl, rfl⟩ := Prod.mk.inj he
  obtain ⟨rest', hr', hb⟩ := h cs x r hx
  exact ⟨rest', by simp [hr'], hb⟩

lemma Extends.steady {read : List Char → Option (α × List Char)} (h : Extends read) :
    Steady read := by
  intro cs x d rest hr
  obtain ⟨rest', hr', hb⟩ := h cs x (d :: rest) hr
  rw [hr', hb.eq_append]

end Readers

/-! ### Blanks -/

def gather (p : Char → Bool) (verbose comment : Bool) : List Char → List Char × List Char
  | [] => ([], [])
  | c :: rest =>
      if verbose && comment then gather p verbose (c != '\n') rest
      else if verbose && CharClass.isSpace c then gather p verbose false rest
      else if verbose && c == '#' then gather p verbose true rest
      else if p c then (c :: (gather p verbose false rest).1, (gather p verbose false rest).2)
      else ([], c :: rest)

lemma dropBlanks_eq (comment : Bool) (cs : List Char) :
    gather (fun _ => false) true comment cs = ([], dropBlanks comment cs) := by
  induction cs generalizing comment with
  | nil => rfl
  | cons c cs ih =>
    simp only [dropBlanks, gather, ih, Bool.true_and, beq_iff_eq]
    split
    · rfl
    split
    · rfl
    split
    · rfl
    · rfl

lemma readBoundaryName_eq (verbose comment : Bool) (cs : List Char) :
    readBoundaryName verbose comment cs = gather isBoundaryLetter verbose comment cs := by
  induction cs generalizing comment with
  | nil => rfl
  | cons c cs ih => simp only [readBoundaryName, gather, ih]

lemma readDigits_eq (verbose comment : Bool) (cs : List Char) :
    readDigits verbose comment cs = gather Char.isDigit verbose comment cs := by
  induction cs generalizing comment with
  | nil => rfl
  | cons c cs ih => simp only [readDigits, gather, ih]

lemma readHyphens_eq (verbose comment : Bool) (cs : List Char) :
    readHyphens verbose comment cs =
      ((gather (· == '-') verbose comment cs).1.map fun c => .single ⟨c, false⟩,
        (gather (· == '-') verbose comment cs).2) := by
  induction cs generalizing comment with
  | nil => rfl
  | cons c cs ih =>
    simp only [readHyphens, gather, ih, beq_iff_eq]
    split
    · rfl
    split
    · rfl
    split
    · rfl
    split
    · subst c
      rfl
    · rfl

lemma gather_append {p : Char → Bool} {verbose comment : Bool} {cs taken rest : List Char} {d : Char}
    (h : gather p verbose comment cs = (taken, d :: rest)) :
    gather p verbose comment (cs ++ anchor) = (taken, d :: rest ++ anchor) := by
  induction cs generalizing comment taken with
  | nil => simp [gather] at h
  | cons c cs ih =>
    rw [gather] at h
    rw [List.cons_append, gather]
    split at h
    · rw [if_pos ‹_›]
      exact ih h
    split at h
    · rw [if_neg ‹_›, if_pos ‹_›]
      exact ih h
    split at h
    · rw [if_neg ‹_›, if_neg ‹_›, if_pos ‹_›]
      exact ih h
    split at h
    · rw [if_neg ‹_›, if_neg ‹_›, if_neg ‹_›, if_pos ‹_›]
      obtain ⟨rfl, hrest⟩ := Prod.mk.inj h
      rw [ih (Prod.ext rfl hrest)]
    · rw [if_neg ‹_›, if_neg ‹_›, if_neg ‹_›, if_neg ‹_›]
      obtain ⟨rfl, hrest⟩ := Prod.mk.inj h
      rw [← hrest]
      rfl

lemma readSqueezed_eq (verbose comment : Bool) (cs : List Char) :
    readSqueezed verbose comment cs =
      match gather (· != '}') verbose comment cs with
      | (text, _ :: rest) => some (text, rest)
      | (_, []) => none := by
  induction cs generalizing comment with
  | nil => rfl
  | cons c cs ih =>
    simp only [readSqueezed, gather, ih, bne_iff_ne, ne_eq, ite_not]
    split
    · rfl
    split
    · rfl
    split
    · rfl
    split
    · rfl
    · rcases gather (· != '}') verbose false cs with ⟨text, _ | ⟨d, rest⟩⟩ <;> rfl

lemma dropBlanks_append {comment : Bool} {cs rest : List Char} {d : Char}
    (h : dropBlanks comment cs = d :: rest) :
    dropBlanks comment (cs ++ anchor) = d :: rest ++ anchor := by
  have hg := gather_append ((dropBlanks_eq comment cs).trans (Prod.ext rfl h))
  rw [dropBlanks_eq] at hg
  exact (Prod.mk.inj hg).2

lemma behind_dropBlanks {comment : Bool} {cs : List Char} (h : dropBlanks comment cs = []) :
    Behind [] (dropBlanks comment (cs ++ anchor)) := by
  induction cs generalizing comment with
  | nil =>
    cases comment with
    | true => exact .inr ⟨rfl, by decide +kernel⟩
    | false => exact .inl (by decide +kernel)
  | cons c cs ih =>
    rw [dropBlanks] at h
    rw [List.cons_append, dropBlanks]
    split_ifs at h ⊢ <;> exact ih h

lemma skip_append {verbose : Bool} {cs : List Char} (h : skip verbose cs ≠ []) :
    skip verbose (cs ++ anchor) = skip verbose cs ++ anchor := by
  cases verbose with
  | false => rfl
  | true =>
    obtain ⟨d, rest, hd⟩ := List.exists_cons_of_ne_nil h
    have hb : dropBlanks false cs = d :: rest := hd
    exact (dropBlanks_append hb).trans (by rw [hd])

lemma behind_skip (verbose : Bool) (cs : List Char) :
    Behind (skip verbose cs) (skip verbose (cs ++ anchor)) := by
  by_cases h : skip verbose cs = []
  · cases verbose with
    | false => exact .inl rfl
    | true =>
      rw [h]
      exact behind_dropBlanks h
  · exact .inl (skip_append h)

lemma skip_nil (verbose : Bool) : skip verbose [] = [] := by
  cases verbose <;> rfl

lemma Behind.skip {cs cs' : List Char} (h : Behind cs cs') (verbose : Bool) :
    Behind (skip verbose cs) (skip verbose cs') := by
  rcases h with rfl | ⟨rfl, rfl⟩
  · exact behind_skip verbose cs
  · exact .inr ⟨skip_nil verbose, skip_nil verbose⟩

lemma dropLazy_eq_self {cs : List Char} (h : ∀ rest, cs = '?' :: rest → False) :
    dropLazy cs = cs := by
  unfold dropLazy
  split
  · exact (h _ rfl).elim
  · rfl

lemma Behind.dropLazy {cs cs' : List Char} (h : Behind cs cs') :
    Behind (dropLazy cs) (dropLazy cs') := by
  by_cases hcs : ∃ rest, cs = '?' :: rest
  · obtain ⟨rest, rfl⟩ := hcs
    obtain rfl := h.eq_append
    exact .inl rfl
  · have hne : ∀ rest, cs = '?' :: rest → False := fun rest hr => hcs ⟨rest, hr⟩
    rwa [dropLazy_eq_self hne, dropLazy_eq_self (h.ne_cons (by decide) hne)]

/-! ### Primitives -/

lemma exact_readSqueezed (verbose comment : Bool) : Exact (readSqueezed verbose comment) := by
  intro cs x rest h
  rw [readSqueezed_eq] at h ⊢
  rcases hg : gather (· != '}') verbose comment cs with ⟨text, _ | ⟨d, rest⟩⟩
  · rw [hg] at h
    cases h
  · rw [hg] at h
    obtain ⟨rfl, rfl⟩ := Prod.mk.inj (Option.some.inj h)
    rw [gather_append hg]
    rfl

lemma exact_readProperty (verbose negated : Bool) : Exact (readProperty verbose negated) := by
  intro cs x rest h
  have hs : skip verbose cs ≠ [] := by
    intro hn
    simp [readProperty, hn] at h
  rw [readProperty] at h
  rw [readProperty, skip_append hs]
  generalize skip verbose cs = ds at h hs
  split at h
  · cases h
  · obtain ⟨⟨text, r⟩, hp, he⟩ := Option.bind_eq_some_iff.mp h
    obtain ⟨rfl, rfl⟩ := Prod.mk.inj (Option.some.inj he)
    simp [exact_readSqueezed verbose false _ _ _ hp]
  · rename_i c ds hbrace
    split at h
    · cases h
    · obtain ⟨rfl, rfl⟩ := Prod.mk.inj (Option.some.inj h)
      simp [*]

lemma behind_readHexDigits {verbose : Bool} {k n m : Nat} {cs cs' rest : List Char}
    (hcs : Behind cs cs') (h : readHexDigits verbose k n cs = some (m, rest)) :
    ∃ rest', readHexDigits verbose k n cs' = some (m, rest') ∧ Behind rest rest' := by
  induction k generalizing n cs cs' with
  | zero =>
    obtain ⟨rfl, rfl⟩ := Prod.mk.inj (Option.some.inj h)
    exact ⟨cs', rfl, hcs⟩
  | succ k ih =>
    cases cs with
    | nil => cases h
    | cons c cs =>
      obtain rfl := hcs.eq_append
      obtain ⟨d, hd, h⟩ := Option.bind_eq_some_iff.mp h
      obtain ⟨rest', hr, hb⟩ := ih (behind_skip verbose cs) h
      exact ⟨rest', Option.bind_eq_some_iff.mpr ⟨d, hd, hr⟩, hb⟩

lemma extends_readHex (verbose : Bool) (width : Nat) : Extends (readHex verbose width) := by
  intro cs x rest h
  have hs : Behind (skip verbose cs) (skip verbose (cs ++ anchor)) := behind_skip verbose cs
  unfold readHex at h ⊢
  generalize skip verbose cs = ds at h hs
  generalize skip verbose (cs ++ anchor) = ds' at hs ⊢
  split at h
  · obtain rfl := hs.eq_append
    obtain ⟨⟨digits, r⟩, hd, h⟩ := Option.bind_eq_some_iff.mp h
    obtain ⟨n, hn, h⟩ := Option.bind_eq_some_iff.mp h
    obtain ⟨c, hc, h⟩ := Option.bind_eq_some_iff.mp h
    obtain ⟨rfl, rfl⟩ := Prod.mk.inj (Option.some.inj h)
    exact ⟨r ++ anchor, by simp [exact_readSqueezed _ _ _ _ _ hd, hn, hc], .inl rfl⟩
  · rename_i hbrace
    obtain ⟨⟨n, r⟩, hd, h⟩ := Option.bind_eq_some_iff.mp h
    obtain ⟨c, hc, h⟩ := Option.bind_eq_some_iff.mp h
    obtain ⟨rfl, rfl⟩ := Prod.mk.inj (Option.some.inj h)
    obtain ⟨r', hr, hb⟩ := behind_readHexDigits hs hd
    refine ⟨r', ?_, hb⟩
    split
    · exact (hs.ne_cons (by decide) hbrace _ rfl).elim
    · simp [hr, hc]

lemma extends_readBoundary (verbose : Bool) : Extends (readBoundary verbose) := by
  intro cs x rest h
  unfold readBoundary at h
  split at h
  · rename_i cs
    have hs : skip verbose cs ≠ [] := by
      intro hn
      simp [hn] at h
    have hs' := skip_append hs
    split at h
    · contradiction
    · rename_i c behind hc
      rw [hc] at hs'
      split at h
      · rename_i hletter
        split at h
        · rename_i name r hname
          rw [readBoundaryName_eq] at hname
          obtain ⟨a, ha, he⟩ := Option.map_eq_some_iff.mp h
          obtain ⟨rfl, rfl⟩ := Prod.mk.inj he
          refine ⟨r ++ anchor, ?_, .inl rfl⟩
          simp [readBoundary, hs', hletter, readBoundaryName_eq, gather_append hname, ha]
        · cases h
      · obtain ⟨rfl, rfl⟩ := Prod.mk.inj (Option.some.inj h)
        exact ⟨'{' :: cs ++ anchor, by simp [readBoundary, *], .inl rfl⟩
  · rename_i hbrace
    obtain ⟨rfl, rfl⟩ := Prod.mk.inj (Option.some.inj h)
    refine ⟨cs ++ anchor, ?_, .inl rfl⟩
    have hb : Behind cs (cs ++ anchor) := .inl rfl
    unfold readBoundary
    split
    · exact (hb.ne_cons (by decide) hbrace _ ‹_›).elim
    · rfl

lemma extends_readEscape (verbose : Bool) : Extends (readEscape verbose) := by
  intro cs x rest h
  unfold readEscape at h
  split at h
  · cases h
  · exact extends_readHex verbose 2 _ _ _ h
  · exact extends_readHex verbose 4 _ _ _ h
  · exact extends_readHex verbose 8 _ _ _ h
  · exact (exact_readProperty verbose false).extends _ _ _ h
  · exact (exact_readProperty verbose true).extends _ _ _ h
  case h_21 => exact extends_readBoundary verbose _ _ _ h
  case h_25 =>
    split at h
    · obtain ⟨rfl, rfl⟩ := Prod.mk.inj (Option.some.inj h)
      exact ⟨_, by simp [readEscape, *], .inl rfl⟩
    · cases h
  all_goals
    obtain ⟨rfl, rfl⟩ := Prod.mk.inj (Option.some.inj h)
    exact ⟨_, rfl, .inl rfl⟩

lemma extends_readPrimitive (verbose : Bool) : Extends (readPrimitive verbose) := by
  intro cs x rest h
  unfold readPrimitive at h
  split at h
  · cases h
  · exact extends_readEscape verbose _ _ _ h
  · obtain ⟨rfl, rfl⟩ := Prod.mk.inj (Option.some.inj h)
    exact ⟨_, rfl, .inl rfl⟩
  · obtain ⟨rfl, rfl⟩ := Prod.mk.inj (Option.some.inj h)
    exact ⟨_, rfl, .inl rfl⟩
  · obtain ⟨rfl, rfl⟩ := Prod.mk.inj (Option.some.inj h)
    exact ⟨_, rfl, .inl rfl⟩
  · obtain ⟨rfl, rfl⟩ := Prod.mk.inj (Option.some.inj h)
    refine ⟨_, ?_, .inl rfl⟩
    simp [readPrimitive, *]

/-! ### Groups -/

lemma exact_readFlags {f : FlagChange} {negated dangling : Bool} {cs rest : List Char}
    {g : FlagChange} {e : FlagsEnd} (h : readFlags f negated dangling cs = some (g, e, rest)) :
    readFlags f negated dangling (cs ++ anchor) = some (g, e, rest ++ anchor) := by
  fun_induction readFlags f negated dangling cs with
  | case1 => cases h
  | case2 => cases h
  | case3 => simp_all [readFlags]
  | case4 => cases h
  | case5 => simp_all [readFlags]
  | case6 => cases h
  | case7 => simp_all [readFlags]
  | case8 _ _ _ c _ hcolon hparen hhyphen ih =>
    obtain ⟨f, hf, h⟩ := Option.bind_eq_some_iff.mp h
    rw [List.cons_append, readFlags]
    · exact Option.bind_eq_some_iff.mpr ⟨f, hf, ih f h⟩
    · exact hcolon
    · exact hparen
    · exact hhyphen

lemma append_of_dropWhile {p : Char → Bool} {cs rest : List Char} {d : Char}
    (h : cs.dropWhile p = d :: rest) :
    (cs ++ anchor).takeWhile p = cs.takeWhile p ∧
      (cs ++ anchor).dropWhile p = d :: rest ++ anchor := by
  induction cs with
  | nil => cases h
  | cons c cs ih =>
    cases hc : p c with
    | true =>
      simp only [List.dropWhile_cons, hc, if_true] at h
      obtain ⟨ht, hd⟩ := ih h
      simp [hc, ht, hd]
    | false =>
      simp only [List.dropWhile_cons, hc, Bool.false_eq_true, if_false] at h
      simp [hc, ← h]

lemma exact_readCaptureName : Exact readCaptureName := by
  intro cs x rest h
  unfold readCaptureName at h
  dsimp only at h
  split at h
  · rename_i c more rest' hname hrest
    obtain ⟨ht, hd⟩ := append_of_dropWhile hrest
    split at h
    · obtain ⟨rfl, rfl⟩ := Prod.mk.inj (Option.some.inj h)
      simp [readCaptureName, *]
    · cases h
  · cases h

def flagsBehind (cs : List Char) : Option (Opening × List Char) :=
  match readFlags {} false false cs with
  | some (f, .close, rest) => if f.isEmpty then none else some (.flags f, rest)
  | some (f, .body, rest) => some (.group (.plain f), rest)
  | none => none

lemma exact_flagsBehind : Exact flagsBehind := by
  intro cs x rest h
  unfold flagsBehind at h
  split at h
  · rename_i f r hf
    split at h
    · cases h
    · obtain ⟨rfl, rfl⟩ := Prod.mk.inj (Option.some.inj h)
      simp [flagsBehind, exact_readFlags hf, *]
  · rename_i f r hf
    obtain ⟨rfl, rfl⟩ := Prod.mk.inj (Option.some.inj h)
    simp [flagsBehind, exact_readFlags hf]
  · cases h

lemma extends_readOpeningParen (verbose : Bool) : Extends (readOpeningParen verbose) := by
  have hname := exact_readCaptureName.extends.map fun name => Opening.group (.capture (some name))
  intro cs x rest h
  have hs : Behind (skip verbose cs) (skip verbose (cs ++ anchor)) := behind_skip verbose cs
  unfold readOpeningParen at h ⊢
  generalize skip verbose cs = ds at h hs
  generalize skip verbose (cs ++ anchor) = ds' at hs ⊢
  split at h
  · cases h
  · cases h
  · cases h
  · cases h
  · obtain rfl := hs.eq_append
    exact hname _ _ _ h
  · rename_i r heq hex
    obtain rfl := hs.eq_append
    have hr : Behind r (r ++ anchor) := .inl rfl
    have heq' := hr.ne_cons (by decide) heq
    have hex' := hr.ne_cons (by decide) hex
    obtain ⟨rest', hrest, hb⟩ := hname _ _ _ h
    exact ⟨rest', by simpa [heq', hex'] using hrest, hb⟩
  · rename_i r heq hex _ _ _ hlt
    obtain rfl := hs.eq_append
    -- the first letter of the flags tells them from a name, so the anchor cannot change the case
    cases r with
    | nil => cases h
    | cons c r =>
      have hP : c ≠ 'P' := by
        rintro rfl
        cases h
      have hc : c ≠ '=' ∧ c ≠ '!' ∧ c ≠ '<' := by
        refine ⟨?_, ?_, ?_⟩
        · rintro rfl
          exact heq r rfl
        · rintro rfl
          exact hex r rfl
        · rintro rfl
          exact hlt r rfl
      have hflags : flagsBehind (c :: r) = some (x, rest) := h
      have hflags' := exact_flagsBehind _ _ _ hflags
      rw [List.cons_append, flagsBehind] at hflags'
      exact ⟨rest ++ anchor, by simpa [hP, hc] using! hflags', .inl rfl⟩
  · rename_i hquestion
    have hquestion' := hs.ne_cons (by decide) hquestion
    obtain ⟨rfl, rfl⟩ := Prod.mk.inj (Option.some.inj h)
    refine ⟨ds', ?_, hs⟩
    split
    all_goals first | exact (hquestion' _ rfl).elim | rfl

/-! ### Repetitions -/

lemma skip_dropWhile_append {verbose : Bool} {cs rest : List Char} {d : Char}
    (h : skip verbose ((skip verbose cs).dropWhile CharClass.isSpace) = d :: rest) :
    skip verbose ((skip verbose (cs ++ anchor)).dropWhile CharClass.isSpace) =
      d :: rest ++ anchor := by
  cases hd : (skip verbose cs).dropWhile CharClass.isSpace with
  | nil => simp [hd, skip_nil] at h
  | cons c behind =>
    have hs : skip verbose cs ≠ [] := by
      intro hn
      simp [hn] at hd
    rw [hd] at h
    rw [skip_append hs, (append_of_dropWhile hd).2, skip_append (by simp [h]), h]

lemma steady_readCount (verbose : Bool) : Steady (readCount verbose) := by
  intro cs n d rest h
  unfold readCount at h
  split at h
  · cases h
  · rename_i c r hc
    have hc' := (append_of_dropWhile hc).2
    split at h
    · cases h
    · dsimp only at h
      rw [readDigits_eq] at h
      rcases hg : gather Char.isDigit verbose false r with ⟨more, _ | ⟨e, behind⟩⟩
      · simp [hg, skip_nil] at h
      · rw [hg] at h
        dsimp only at h
        split at h
        · obtain ⟨rfl, hrest⟩ := Prod.mk.inj (Option.some.inj h)
          have hrest' := skip_dropWhile_append hrest
          simp_all [readCount, readDigits_eq, gather_append hg]
        · cases h

lemma extends_readRepetition (verbose : Bool) : Extends (readRepetition verbose) := by
  have hlazy : ∀ r, Behind (dropLazy (skip verbose r)) (dropLazy (skip verbose (r ++ anchor))) :=
    fun r => (behind_skip verbose r).dropLazy
  intro cs x rest h
  unfold readRepetition at h
  obtain ⟨⟨low, r⟩, hlow, h⟩ := Option.bind_eq_some_iff.mp h
  have hcs : skip verbose cs ≠ [] := by
    intro hn
    rw [hn] at hlow
    cases hlow
  dsimp only at h
  split at h
  · rename_i r
    have hlow' := steady_readCount verbose _ _ _ _ hlow
    rw [← skip_append hcs] at hlow'
    obtain ⟨rfl, rfl⟩ := Prod.mk.inj (Option.some.inj h)
    exact ⟨_, by simp [readRepetition, hlow'], hlazy r⟩
  · rename_i r
    have hlow' := steady_readCount verbose _ _ _ _ hlow
    rw [← skip_append hcs] at hlow'
    have hr : skip verbose r ≠ [] := by
      intro hn
      rw [hn] at h
      cases h
    have hr' := skip_append hr
    split at h
    · rename_i r' hclose
      rw [hclose] at hr'
      obtain ⟨rfl, rfl⟩ := Prod.mk.inj (Option.some.inj h)
      exact ⟨_, by simp [readRepetition, hlow', hr'], hlazy r'⟩
    · rename_i hopen
      obtain ⟨⟨high, r'⟩, hhigh, h⟩ := Option.bind_eq_some_iff.mp h
      dsimp only at h
      split at h
      · rename_i r'
        have hhigh' := steady_readCount verbose _ _ _ _ hhigh
        split at h
        · obtain ⟨rfl, rfl⟩ := Prod.mk.inj (Option.some.inj h)
          refine ⟨_, ?_, hlazy r'⟩
          have hopen' : ∀ rest, skip verbose r ++ anchor = '}' :: rest → False :=
            Behind.ne_cons (.inl rfl) (by decide) hopen
          simp_all [readRepetition]
        · cases h
      · cases h
  · cases h

end TemplateGrep.Regex
