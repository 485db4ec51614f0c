import Mathlib
import TemplateGrep.Proofs.Regex.Extension

/-!
A word boundary behind a text that begins in a class. A class that is closed keeps the anchor out,
whatever the lookahead of its members sees.
-/

namespace TemplateGrep.Regex

open Unicode

def asciiClassBehind (negated : Bool) (cs : List Char) : Option (ClassItem × List Char) :=
  match cs.dropWhile (· != ':') with
  | ':' :: ']' :: rest =>
      (AsciiClass.ofName? (cs.takeWhile (· != ':'))).map fun cls => (.ascii cls negated, rest)
  | _ => none

lemma asciiClassBehind_append (negated : Bool) (cs : List Char) :
    asciiClassBehind negated (cs ++ anchor) =
      (asciiClassBehind negated cs).map fun p => (p.1, p.2 ++ anchor) := by
  unfold asciiClassBehind
  cases hd : cs.dropWhile (· != ':') with
  | nil =>
    have hall : (cs ++ anchor).dropWhile (· != ':') = [] := by
      rw [List.dropWhile_eq_nil_iff] at hd ⊢
      have hanchor : ∀ c ∈ anchor, (c != ':') = true := by simp [anchor]
      exact List.forall_mem_append.mpr ⟨hd, hanchor⟩
    rw [hall]
    rfl
  | cons c rest =>
    obtain ⟨ht, hd'⟩ := append_of_dropWhile hd
    rw [hd', ht]
    by_cases hc : c = ':'
    · subst hc
      match rest with
      | [] => rfl
      | e :: rest =>
        by_cases he : e = ']'
        · subst he
          simp [Function.comp_def]
        · simp [he]
    · simp [hc]

lemma readAsciiClass?_of_ne {cs : List Char} (h : ∀ rest, cs = '^' :: rest → False) :
    readAsciiClass? (':' :: cs) = asciiClassBehind false cs := by
  simp only [readAsciiClass?]
  rfl

lemma readAsciiClass?_append (cs : List Char) :
    readAsciiClass? (cs ++ anchor) = (readAsciiClass? cs).map fun p => (p.1, p.2 ++ anchor) := by
  cases cs with
  | nil => rfl
  | cons c cs =>
    by_cases hc : c = ':'
    · subst hc
      by_cases hcaret : ∃ rest, cs = '^' :: rest
      · obtain ⟨rest, rfl⟩ := hcaret
        exact asciiClassBehind_append true rest
      · have hne : ∀ rest, cs = '^' :: rest → False := fun rest h => hcaret ⟨rest, h⟩
        have hne' : ∀ rest, cs ++ anchor = '^' :: rest → False :=
          Behind.ne_cons (.inl rfl) (by decide) hne
        rw [List.cons_append, readAsciiClass?_of_ne hne, readAsciiClass?_of_ne hne']
        exact asciiClassBehind_append false cs
    · simp [readAsciiClass?, hc]

def openingBehind (verbose negated : Bool) (cs : List Char) :
    Option (Bool × List ClassItem × List Char) :=
  match readHyphens verbose false cs with
  | (_, []) => none
  | ([], ']' :: rest) =>
      match skip verbose rest with
      | [] => none
      | rest => some (negated, [.single ⟨']', false⟩], rest)
  | (hyphens, rest) => some (negated, hyphens.reverse, rest)

lemma openingBehind_append {verbose negated negated' : Bool} {cs rest : List Char}
    {items : List ClassItem} (h : openingBehind verbose negated cs = some (negated', items, rest)) :
    openingBehind verbose negated (cs ++ anchor) = some (negated', items, rest ++ anchor) := by
  rw [openingBehind, readHyphens_eq] at h ⊢
  rcases hg : gather (· == '-') verbose false cs with ⟨taken, _ | ⟨d, behind⟩⟩
  · simp [hg] at h
  · rw [gather_append hg]
    rw [hg] at h
    cases taken with
    | cons c taken =>
      simp only [List.map_cons, Option.some.injEq, Prod.mk.injEq] at h
      simp [h.1, h.2.1, ← h.2.2]
    | nil =>
      by_cases hd : d = ']'
      · subst hd
        cases hb : skip verbose behind with
        | nil => simp [hb] at h
        | cons e ds =>
          have hb' := skip_append (by simp [hb] : skip verbose behind ≠ [])
          simp only [List.map_nil, hb, Option.some.injEq, Prod.mk.injEq] at h
          simp [hb', hb, h.1, h.2.1, ← h.2.2]
      · have h : negated = negated' ∧ items = [] ∧ d :: behind = rest := by
          simpa [hd] using h
        simp [hd, h.1, h.2.1, ← h.2.2]

lemma readOpening_of_ne {verbose : Bool} {cs : List Char}
    (h : ∀ rest, skip verbose cs = '^' :: rest → False) :
    readOpening verbose cs = openingBehind verbose false (skip verbose cs) := by
  simp only [readOpening]
  rfl

lemma readOpening_append {verbose negated : Bool} {cs rest : List Char} {items : List ClassItem}
    (h : readOpening verbose cs = some (negated, items, rest)) :
    readOpening verbose (cs ++ anchor) = some (negated, items, rest ++ anchor) := by
  have hs : skip verbose cs ≠ [] := by
    intro hn
    simp [readOpening, hn, readHyphens] at h
  have hs' := skip_append hs
  by_cases hcaret : ∃ r, skip verbose cs = '^' :: r
  · obtain ⟨r, hr⟩ := hcaret
    rw [hr] at hs'
    have h : openingBehind verbose true r = some (negated, items, rest) := by
      simpa only [readOpening, hr] using! h
    have h' := openingBehind_append h
    simpa only [readOpening, hs'] using! h'
  · have hne : ∀ r, skip verbose cs = '^' :: r → False := fun r h => hcaret ⟨r, h⟩
    have hne' : ∀ r, skip verbose (cs ++ anchor) = '^' :: r → False :=
      (behind_skip verbose cs).ne_cons (by decide) hne
    rw [readOpening_of_ne hne] at h
    rw [readOpening_of_ne hne', hs']
    exact openingBehind_append h

lemma extends_readClassPrimitive (verbose : Bool) :
    Extends (readMember.readClassPrimitive verbose) := by
  intro cs x rest h
  unfold readMember.readClassPrimitive at h
  split at h
  · cases h
  · exact extends_readEscape verbose _ _ _ h
  · obtain ⟨rfl, rfl⟩ := Prod.mk.inj (Option.some.inj h)
    exact ⟨_, by simp [readMember.readClassPrimitive, *], .inl rfl⟩

lemma dropBlanks_of_spaces {comment : Bool} {cs : List Char}
    (h : ∀ c ∈ cs, CharClass.isSpace c = true) : dropBlanks comment cs = [] := by
  induction cs generalizing comment with
  | nil => rfl
  | cons c cs ih =>
    obtain ⟨hc, hcs⟩ := List.forall_mem_cons.mp h
    simp [dropBlanks, hc, ih hcs]

lemma dropBlanks_dropWhile (cs : List Char) :
    dropBlanks false (cs.dropWhile CharClass.isSpace) = dropBlanks false cs := by
  induction cs with
  | nil => rfl
  | cons c cs ih =>
    cases hc : CharClass.isSpace c with
    | true => simpa [dropBlanks, hc] using ih
    | false => simp [hc]

lemma isSpace_head_or {cs : List Char} {d : Char} (h : cs.head? = some d) :
    CharClass.isSpace d = true ∨ (cs.dropWhile CharClass.isSpace).head? = some d := by
  cases cs with
  | nil => cases h
  | cons c cs =>
    obtain rfl := Option.some.inj h
    cases hc : CharClass.isSpace c with
    | true => exact .inl rfl
    | false => simp [hc]

lemma peekBehind_append (verbose : Bool) (cs : List Char) :
    peekBehind verbose (cs ++ anchor) = peekBehind verbose cs ∨
      skip verbose cs = [] ∧ peekBehind verbose cs ≠ some ']' ∧ peekBehind verbose cs ≠ some '-' := by
  have hclose : CharClass.isSpace ']' = false := by decide +kernel
  have hhyphen : CharClass.isSpace '-' = false := by decide +kernel
  cases verbose with
  | false =>
    cases cs with
    | nil => exact .inr (by decide)
    | cons c cs => exact .inl rfl
  | true =>
    simp only [peekBehind, skip, if_true, Bool.not_true, Bool.false_eq_true, if_false]
    rw [← dropBlanks_dropWhile cs]
    -- where nothing but blanks is left the lookahead returns one of them, and no class can end there
    have hhead : ∀ d, CharClass.isSpace d = false →
        (cs.dropWhile CharClass.isSpace).head? ≠ some d → cs.head? ≠ some d := by
      intro d hd hne h
      simpa [hd, hne] using isSpace_head_or h
    cases hd : cs.dropWhile CharClass.isSpace with
    | nil =>
      rw [hd] at hhead
      exact .inr ⟨rfl, hhead _ hclose (by simp), hhead _ hhyphen (by simp)⟩
    | cons c r =>
      rw [(append_of_dropWhile hd).2]
      by_cases hc : c = '#'
      · subst hc
        cases hr : r.dropWhile CharClass.isSpace with
        | nil =>
          rw [hd] at hhead
          have hcomment : dropBlanks false ('#' :: r) = [] := by
            have hspaces := List.dropWhile_eq_nil_iff.mp hr
            simp [dropBlanks, dropBlanks_of_spaces hspaces]
          simp only [hr]
          exact .inr ⟨hcomment, hhead _ hclose (by simp), hhead _ hhyphen (by simp)⟩
        | cons e r' => exact .inl (by simp [(append_of_dropWhile hr).2, hr])
      · exact .inl (by simp)

lemma steady_readMember (verbose : Bool) : Steady (readMember verbose) := by
  have hprimitive := extends_readClassPrimitive verbose
  intro cs x d rest h
  unfold readMember at h
  obtain ⟨⟨first, r⟩, hfirst, h⟩ := Option.bind_eq_some_iff.mp h
  obtain ⟨r', hfirst', hr'⟩ := hprimitive _ _ _ hfirst
  dsimp only at h
  have hskip : skip verbose r ≠ [] := by
    intro hn
    simp [hn] at h
  have hr : r ≠ [] := by
    rintro rfl
    exact hskip (skip_nil verbose)
  obtain rfl := hr'.eq_of_ne_nil hr
  have hskip' := skip_append hskip
  split at h
  · cases h
  · rename_i behind hhyphen
    rw [hhyphen] at hskip'
    split at h
    · rename_i hpeek
      obtain ⟨i, hi, he⟩ := Option.bind_eq_some_iff.mp h
      obtain ⟨rfl, hrest⟩ := Prod.mk.inj (Option.some.inj he)
      have hpeek' : peekBehind verbose (behind ++ anchor) = peekBehind verbose behind := by
        rcases peekBehind_append verbose behind with hp | ⟨-, hclose, hhyphen⟩
        · exact hp
        · exact (hpeek.elim hclose hhyphen).elim
      rw [← hpeek'] at hpeek
      simp [readMember, hfirst', hskip', hpeek, hi, ← hrest]
    · rename_i hpeek
      obtain ⟨⟨last, s⟩, hlast, h⟩ := Option.bind_eq_some_iff.mp h
      obtain ⟨low, hlow, h⟩ := Option.bind_eq_some_iff.mp h
      obtain ⟨high, hhigh, h⟩ := Option.bind_eq_some_iff.mp h
      have hbehind : skip verbose behind ≠ [] := by
        intro hn
        rw [hn] at hlast
        cases hlast
      have hpeek' : peekBehind verbose (behind ++ anchor) = peekBehind verbose behind := by
        rcases peekBehind_append verbose behind with hp | ⟨hn, -⟩
        · exact hp
        · exact (hbehind hn).elim
      rw [← hpeek'] at hpeek
      split at h
      · obtain ⟨rfl, rfl⟩ := Prod.mk.inj (Option.some.inj h)
        have hlast' := hprimitive.steady _ _ _ _ hlast
        rw [← skip_append hbehind] at hlast'
        have hle : low.char ≤ high.char := ‹_›
        simp [readMember, hfirst', hskip', hpeek, hlast', hlow, hhigh, hle]
      · cases h
  · rename_i hend hhyphen
    obtain ⟨i, hi, he⟩ := Option.bind_eq_some_iff.mp h
    obtain ⟨rfl, hrest⟩ := Prod.mk.inj (Option.some.inj he)
    have hd : d ≠ '-' := by
      rintro rfl
      exact hhyphen rest hrest
    rw [hrest] at hskip'
    simp [readMember, hfirst', hskip', hi, hd]

lemma ne_pair_append {e : Char} (he : e ≠ '\\') {cs : List Char} (hcs : cs ≠ [])
    (h : ∀ rest, cs = e :: e :: rest → False) : ∀ rest, cs ++ anchor = e :: e :: rest → False := by
  obtain ⟨c, ds, rfl⟩ := List.exists_cons_of_ne_nil hcs
  have hb : Behind ds (ds ++ anchor) := .inl rfl
  intro rest heq
  obtain ⟨rfl, heq⟩ := List.cons_eq_cons.mp heq
  exact hb.ne_cons he (fun rest hr => h rest (by rw [hr])) rest heq

lemma readClassItems_append {verbose : Bool} {fuel : Nat} {s : ClassState} {cs rest : List Char}
    {cls : Bool × ClassItem} (h : readClassItems verbose fuel s cs = some (cls, rest)) (k : Nat) :
    readClassItems verbose (fuel + k) s (cs ++ anchor) = some (cls, rest ++ anchor) := by
  induction fuel generalizing s cs with
  | zero => cases h
  | succ fuel ih =>
    have hs : skip verbose cs ≠ [] := by
      intro hn
      simp [readClassItems, hn] at h
    unfold readClassItems at h
    rw [Nat.succ_add, readClassItems, skip_append hs]
    generalize skip verbose cs = ds at h hs
    split at h
    · cases h
    · rename_i r
      split at h
      · rename_i i r' hi
        simp only [List.cons_append, readAsciiClass?_append, hi, Option.map_some]
        exact ih h
      · rename_i hi
        obtain ⟨⟨negated, items, r'⟩, ho, h⟩ := Option.bind_eq_some_iff.mp h
        simp only [List.cons_append, readAsciiClass?_append, hi, Option.map_none]
        exact Option.bind_eq_some_iff.mpr ⟨_, readOpening_append ho, ih h⟩
    · simp only [List.cons_append]
      split at h
      · obtain ⟨rfl, rfl⟩ := Prod.mk.inj (Option.some.inj h)
        rfl
      · exact ih h
      · cases h
    · exact ih h
    · exact ih h
    · exact ih h
    · rename_i hbracket hclose hand hminus htilde
      obtain ⟨⟨i, r⟩, hi, hrest⟩ := Option.bind_eq_some_iff.mp h
      cases r with
      | nil => cases fuel <;> simp [readClassItems, skip_nil] at hrest
      | cons d r =>
        have hi' := steady_readMember verbose _ _ _ _ hi
        have hand' := ne_pair_append (by decide) hs hand
        have hminus' := ne_pair_append (by decide) hs hminus
        have htilde' := ne_pair_append (by decide) hs htilde
        obtain ⟨c, ds, rfl⟩ := List.exists_cons_of_ne_nil hs
        rw [List.cons_append] at hi' hand' hminus' htilde' ⊢
        split
        · cases ‹c :: (ds ++ anchor) = []›
        · obtain ⟨rfl, -⟩ := List.cons_eq_cons.mp ‹c :: (ds ++ anchor) = _›
          exact (hbracket _ rfl).elim
        · obtain ⟨rfl, -⟩ := List.cons_eq_cons.mp ‹c :: (ds ++ anchor) = _›
          exact (hclose _ rfl).elim
        · exact (hand' _ ‹_›).elim
        · exact (hminus' _ ‹_›).elim
        · exact (htilde' _ ‹_›).elim
        · exact Option.bind_eq_some_iff.mpr ⟨_, hi', ih hrest⟩

lemma exact_readClass (verbose : Bool) : Exact (readClass verbose) := by
  intro cs x rest h
  obtain ⟨⟨negated, items, r⟩, ho, h⟩ := Option.bind_eq_some_iff.mp h
  have hitems := readClassItems_append h anchor.length
  refine Option.bind_eq_some_iff.mpr ⟨_, readOpening_append ho, ?_⟩
  simpa [Nat.add_right_comm] using hitems

end TemplateGrep.Regex
