import Mathlib
import TemplateGrep.Proofs.Regex.ClassExtension

/-!
Regexes between word boundaries. The opening anchor is read into the first branch of the text behind
it, the closing anchor into the last branch of the text in front of it, unless a comment swallows it.
-/

namespace TemplateGrep.Regex

def boundary : Ast := .assertion .wordBoundary

def Ast.branches : Ast → List Ast
  | .alternation branches => branches
  | a => [a]

/-- A comment that is open at the end of the text swallows an anchor behind it. -/
def EndsInComment (text : List Char) : Prop := parse (text ++ anchor) = parse text

/-! ### The closing anchor -/

namespace ParserState

lemma exists_map_behind {rest rest' r : List Char} (hb : Behind rest rest')
    {next : Option ParserState} {t : ParserState} (h : next.map (·, rest) = some (t, r)) :
    ∃ r', next.map (·, rest') = some (t, r') ∧ Behind r r' := by
  obtain ⟨t, ht, he⟩ := Option.map_eq_some_iff.mp h
  obtain ⟨rfl, rfl⟩ := Prod.mk.inj he
  exact ⟨rest', by rw [ht]; rfl, hb⟩

lemma extends_step (s : ParserState) : Extends s.step := by
  have hlazy : ∀ r : List Char, Behind (dropLazy r) (dropLazy (r ++ anchor)) :=
    fun r => Behind.dropLazy (.inl rfl)
  intro cs t rest h
  unfold step at h
  split at h
  · cases h
  · exact (extends_readOpeningParen s.verbose).map s.openParen _ _ _ h
  · exact exists_map_behind (.inl rfl) h
  · obtain ⟨rfl, rfl⟩ := Prod.mk.inj (Option.some.inj h)
    exact ⟨_, rfl, .inl rfl⟩
  · exact (exact_readClass s.verbose).extends.map (fun p => s.add (.bracket p.1 p.2)) _ _ _ h
  · exact exists_map_behind (hlazy _) h
  · exact exists_map_behind (hlazy _) h
  · exact exists_map_behind (hlazy _) h
  · obtain ⟨⟨⟨min, max⟩, r⟩, hr, h⟩ := Option.bind_eq_some_iff.mp h
    obtain ⟨t, ht, h⟩ := Option.bind_eq_some_iff.mp h
    obtain ⟨rfl, rfl⟩ := Prod.mk.inj (Option.some.inj h)
    obtain ⟨r', hr', hb⟩ := extends_readRepetition s.verbose _ _ _ hr
    exact ⟨r', by simp [step, hr', ht], hb⟩
  · rename_i hopen hclose hbar hbracket hquestion hstar hplus hbrace
    obtain ⟨rest', hr, hb⟩ :=
      (extends_readPrimitive s.verbose).map (fun p => s.add p.toAst) _ _ _ h
    refine ⟨rest', ?_, hb⟩
    have hkeep : ∀ {c : Char}, c ≠ '\\' → (∀ rest, cs = c :: rest → False) →
        ∀ rest, cs ++ anchor = c :: rest → False := Behind.ne_cons (.inl rfl)
    rw [step]
    · exact hr
    · simp [anchor]
    · exact hkeep (by decide) hopen
    · exact hkeep (by decide) hclose
    · exact hkeep (by decide) hbar
    · exact hkeep (by decide) hbracket
    · exact hkeep (by decide) hquestion
    · exact hkeep (by decide) hstar
    · exact hkeep (by decide) hplus
    · exact hkeep (by decide) hbrace

lemma run_append {fuel : Nat} {s t : ParserState} {cs cs' : List Char} (hcs : Behind cs cs')
    (h : run fuel s cs = some t) :
    (∀ k, run (fuel + 1 + k) s cs' = some t) ∨
      ∀ k, run (fuel + 1 + k) s cs' = some (t.add boundary) := by
  induction fuel generalizing s cs cs' with
  | zero => cases h
  | succ fuel ih =>
    have hs : Behind (skip s.verbose cs) (skip s.verbose cs') := hcs.skip s.verbose
    have hfuel : ∀ k, fuel + 1 + 1 + k = fuel + 1 + k + 1 := fun k => by omega
    simp only [hfuel, run]
    rw [run] at h
    generalize skip s.verbose cs = ds at h hs
    generalize skip s.verbose cs' = ds' at hs ⊢
    cases ds with
    | nil =>
      -- only blanks were left: the anchor is the last element, unless a comment hides it
      obtain rfl := Option.some.inj h
      rcases hs with rfl | ⟨-, rfl⟩
      · refine .inr fun k => ?_
        have hend : ∀ t : ParserState, run (fuel + 1 + k) t [] = some t := by
          intro t
          rw [Nat.add_right_comm, run, skip_nil]
        exact hend _
      · exact .inl fun k => rfl
    | cons d ds =>
      obtain rfl := hs.eq_append
      obtain ⟨⟨t', rest⟩, hstep, h⟩ := Option.bind_eq_some_iff.mp h
      obtain ⟨rest', hstep', hb⟩ := extends_step s _ _ _ hstep
      rw [List.cons_append] at hstep' ⊢
      simp only [hstep']
      exact ih hb h

end ParserState

/-! ### The opening anchor -/

/-- The second level has one more item in front of its first branch. While that branch is read, its
items are no alternatives: those stand in groups. -/
inductive Level.Led (a : Ast) : Level → Level → Prop
  | first {items : List Ast} (h : ∀ x ∈ items, x.branches = [x]) :
      Led a ⟨[], items⟩ ⟨[], items ++ [a]⟩
  | later (finished first items : List Ast) :
      Led a ⟨finished ++ [.ofItems first], items⟩ ⟨finished ++ [.ofItems (a :: first)], items⟩

namespace Level.Led

variable {a x : Ast} {l m : Level}

lemma add (h : Led a l m) (hx : x.branches = [x]) : Led a (l.add x) (m.add x) := by
  cases h with
  | first h => exact .first (List.forall_mem_cons.mpr ⟨hx, h⟩)
  | later finished first items => exact .later finished first (x :: items)

lemma nextBranch (h : Led a l m) : Led a l.nextBranch m.nextBranch := by
  cases h with
  | @first items h =>
    have hfinished := later (a := a) [] items.reverse []
    simpa [Level.nextBranch] using hfinished
  | later finished first items => exact .later (.ofItems items.reverse :: finished) first []

lemma replace {before : List Ast} {y : Ast} (h : Led a l m) (hl : l.items = x :: before)
    (hy : y.branches = [y]) : ∃ before', m.items = x :: before' ∧
      Led a { l with items := y :: before } { m with items := y :: before' } := by
  cases h with
  | first h =>
    subst hl
    exact ⟨before ++ [a], rfl, .first (List.forall_mem_cons.mpr ⟨hy, (List.forall_mem_cons.mp h).2⟩)⟩
  | later finished first items =>
    subst hl
    exact ⟨before, rfl, .later finished first (y :: before)⟩

end Level.Led

namespace ParserState

inductive Led (a : Ast) : ParserState → ParserState → Prop
  | outside {l m : Level} (h : l.Led a m) (verbose : Bool) : Led a ⟨[], l, verbose⟩ ⟨[], m, verbose⟩
  | inside {o p : Level} (h : o.Led a p) (groups : List OpenGroup) (kind : GroupKind)
      (outer : Bool) (l : Level) (verbose : Bool) :
      Led a ⟨groups ++ [⟨kind, o, outer⟩], l, verbose⟩ ⟨groups ++ [⟨kind, p, outer⟩], l, verbose⟩

namespace Led

variable {a x : Ast} {s t u : ParserState}

lemma verbose_eq (h : Led a s t) : t.verbose = s.verbose := by
  cases h <;> rfl

lemma level (h : Led a s t) (hs : s.groups = []) : s.level.Led a t.level := by
  cases h with
  | outside h verbose => exact h
  | inside h groups kind outer l verbose => simp at hs

lemma add (h : Led a s t) (hx : x.branches = [x]) : Led a (s.add x) (t.add x) := by
  cases h with
  | outside h verbose => exact .outside (h.add hx) verbose
  | inside h groups kind outer l verbose => exact .inside h groups kind outer (l.add x) verbose

lemma nextBranch (h : Led a s t) :
    Led a { s with level := s.level.nextBranch } { t with level := t.level.nextBranch } := by
  cases h with
  | outside h verbose => exact .outside h.nextBranch verbose
  | inside h groups kind outer l verbose => exact .inside h groups kind outer l.nextBranch verbose

lemma repeatLast (h : Led a s t) {min : Nat} {max : Option Nat} (hs : s.repeatLast min max = some u) :
    ∃ v, t.repeatLast min max = some v ∧ Led a u v := by
  unfold ParserState.repeatLast at hs
  split at hs
  · cases hs
  · cases hs
  · cases hs
  · rename_i x before hempty hflags hl
    obtain rfl := Option.some.inj hs
    cases h with
    | outside h verbose =>
      obtain ⟨before', hm, hled⟩ := h.replace hl (y := .repetition x min max) rfl
      exact ⟨_, by simp [ParserState.repeatLast, hm], .outside hled verbose⟩
    | inside h groups kind outer l verbose =>
      have hl : l.items = x :: before := hl
      exact ⟨_, by simp [ParserState.repeatLast, hl], .inside h groups kind outer _ verbose⟩

lemma openParen (h : Led a s t) (o : Opening) : Led a (s.openParen o) (t.openParen o) := by
  cases o with
  | flags change =>
    cases h with
    | outside h verbose => exact .outside (h.add rfl) _
    | inside h groups kind outer l verbose => exact .inside h groups kind outer _ _
  | group kind =>
    cases h with
    | outside h verbose => exact .inside h [] kind verbose {} _
    | inside h groups kind' outer l verbose =>
      exact .inside h (⟨kind, l, verbose⟩ :: groups) kind' outer {} _

lemma closeParen (h : Led a s t) (hs : s.closeParen = some u) :
    ∃ v, t.closeParen = some v ∧ Led a u v := by
  cases h with
  | outside h verbose => cases hs
  | inside h groups kind outer l verbose =>
    cases groups with
    | nil =>
      obtain rfl := Option.some.inj hs
      exact ⟨_, rfl, .outside (h.add rfl) outer⟩
    | cons g groups =>
      obtain rfl := Option.some.inj hs
      exact ⟨_, rfl, .inside h groups kind outer _ g.verbose⟩

lemma exists_map {next next' : Option ParserState}
    (h : ∀ u, next = some u → ∃ v, next' = some v ∧ Led a u v) {r rest : List Char}
    (hs : next.map (·, r) = some (u, rest)) :
    ∃ v, next'.map (·, r) = some (v, rest) ∧ Led a u v := by
  obtain ⟨u, hu, he⟩ := Option.map_eq_some_iff.mp hs
  obtain ⟨rfl, rfl⟩ := Prod.mk.inj he
  obtain ⟨v, hv, hled⟩ := h u hu
  exact ⟨v, by rw [hv]; rfl, hled⟩

lemma step (h : Led a s t) {cs rest : List Char} (hs : s.step cs = some (u, rest)) :
    ∃ v, t.step cs = some (v, rest) ∧ Led a u v := by
  have hv : t.verbose = s.verbose := h.verbose_eq
  unfold ParserState.step at hs ⊢
  rw [hv]
  split at hs
  · cases hs
  · obtain ⟨⟨o, r⟩, ho, he⟩ := Option.map_eq_some_iff.mp hs
    obtain ⟨rfl, rfl⟩ := Prod.mk.inj he
    exact ⟨_, by simp [ho], h.openParen o⟩
  · exact exists_map (fun _ => h.closeParen) hs
  · obtain ⟨rfl, rfl⟩ := Prod.mk.inj (Option.some.inj hs)
    exact ⟨_, rfl, hv ▸ h.nextBranch⟩
  · obtain ⟨⟨cls, r⟩, hc, he⟩ := Option.map_eq_some_iff.mp hs
    obtain ⟨rfl, rfl⟩ := Prod.mk.inj he
    exact ⟨_, by simp [hc], h.add rfl⟩
  · exact exists_map (fun _ => h.repeatLast) hs
  · exact exists_map (fun _ => h.repeatLast) hs
  · exact exists_map (fun _ => h.repeatLast) hs
  · obtain ⟨⟨⟨min, max⟩, r⟩, hr, hs⟩ := Option.bind_eq_some_iff.mp hs
    obtain ⟨v, hv, he⟩ := Option.bind_eq_some_iff.mp hs
    obtain ⟨rfl, rfl⟩ := Prod.mk.inj (Option.some.inj he)
    obtain ⟨v, hv, hled⟩ := h.repeatLast hv
    exact ⟨v, by simp [hr, hv], hled⟩
  · obtain ⟨⟨p, r⟩, hp, he⟩ := Option.map_eq_some_iff.mp hs
    obtain ⟨rfl, rfl⟩ := Prod.mk.inj he
    have hbranches : p.toAst.branches = [p.toAst] := by cases p <;> rfl
    exact ⟨_, by simp [hp], h.add hbranches⟩

lemma run (h : Led a s t) {fuel : Nat} {cs : List Char} (hs : ParserState.run fuel s cs = some u) :
    ∃ v, ParserState.run fuel t cs = some v ∧ Led a u v := by
  induction fuel generalizing s t cs with
  | zero => cases hs
  | succ fuel ih =>
    rw [ParserState.run] at hs ⊢
    rw [h.verbose_eq]
    cases hcs : skip s.verbose cs with
    | nil =>
      rw [hcs] at hs
      obtain rfl := Option.some.inj hs
      exact ⟨t, rfl, h⟩
    | cons c cs =>
      rw [hcs] at hs
      obtain ⟨⟨s', rest⟩, hstep, hs⟩ := Option.bind_eq_some_iff.mp hs
      obtain ⟨t', hstep', h'⟩ := h.step hstep
      obtain ⟨v, hv, hled⟩ := ih h' hs
      exact ⟨v, Option.bind_eq_some_iff.mpr ⟨_, hstep', hv⟩, hled⟩

end Led

end ParserState

/-! ### Both anchors -/

def Opened (bs cs : List Ast) : Prop :=
  ∃ first others, bs = .ofItems first :: others ∧ cs = .ofItems (boundary :: first) :: others

def Closed (bs cs : List Ast) : Prop :=
  ∃ others last, bs = others ++ [.ofItems last] ∧ cs = others ++ [.ofItems (last ++ [boundary])]

namespace Level

def alternatives (l : Level) : List Ast := l.nextBranch.branches.reverse

lemma alternatives_eq (l : Level) :
    l.alternatives = l.branches.reverse ++ [.ofItems l.items.reverse] := by
  simp [alternatives, nextBranch]

lemma closed_add (l : Level) : Closed l.alternatives (l.add boundary).alternatives :=
  ⟨l.branches.reverse, l.items.reverse, l.alternatives_eq, by simp [alternatives_eq, add]⟩

lemma Led.opened {l m : Level} (h : Led boundary l m) : Opened l.alternatives m.alternatives := by
  rw [alternatives_eq, alternatives_eq]
  cases h with
  | @first items h => exact ⟨items.reverse, [], by simp, by simp⟩
  | later finished first items =>
    exact ⟨first, finished.reverse ++ [.ofItems items.reverse], by simp, by simp⟩

lemma Led.itemised {a : Ast} {l m : Level} (h : Led a l m) (hl : l.branches = []) :
    ∀ x ∈ l.items, x.branches = [x] := by
  cases h with
  | first h => exact h
  | later finished first items => simp at hl

lemma branches_ofItems {items : List Ast} (h : ∀ x ∈ items, x.branches = [x]) :
    (Ast.ofItems items).branches = [.ofItems items] := by
  match items with
  | [] => rfl
  | [x] => exact h x (List.mem_singleton.mpr rfl)
  | _ :: _ :: _ => rfl

lemma branches_toAst {l : Level} (h : l.branches = [] → ∀ x ∈ l.items, x.branches = [x]) :
    l.toAst.branches = l.alternatives := by
  have htoAst : l.toAst = .ofBranches l.alternatives := rfl
  rw [htoAst, alternatives_eq]
  cases hb : l.branches.reverse with
  | nil =>
    have hitems := h (by simpa using hb)
    exact branches_ofItems fun x hx => hitems x (List.mem_reverse.mp hx)
  | cons b bs =>
    rw [List.cons_append]
    cases hbs : bs ++ [Ast.ofItems l.items.reverse] with
    | nil => simp at hbs
    | cons c cs => rfl

end Level

lemma ofItems_append_ne (items : List Ast) : Ast.ofItems (items ++ [boundary]) ≠ .ofItems items := by
  match items with
  | [] => exact Ast.noConfusion
  | [x] =>
    intro h
    have hheight := congrArg Ast.height h
    simp only [List.singleton_append, Ast.ofItems, Ast.height, Ast.heights] at hheight
    omega
  | x :: y :: items =>
    intro h
    have hitems := Ast.concat.inj h
    simp at hitems

lemma ofBranches_append_ne {others : List Ast} {a b : Ast} (h : a ≠ b) :
    Ast.ofBranches (others ++ [a]) ≠ .ofBranches (others ++ [b]) := by
  match others with
  | [] => exact h
  | [x] =>
    intro heq
    simp [Ast.ofBranches, h] at heq
  | x :: y :: others =>
    intro heq
    simp [Ast.ofBranches, h] at heq

lemma toAst_add_ne (l : Level) : (l.add boundary).toAst ≠ l.toAst := by
  have hadd : (l.add boundary).toAst = .ofBranches (l.add boundary).alternatives := rfl
  have hl : l.toAst = .ofBranches l.alternatives := rfl
  rw [hadd, hl, Level.alternatives_eq, Level.alternatives_eq]
  simpa [Level.add] using ofBranches_append_ne (ofItems_append_ne l.items.reverse)

lemma exists_of_parse {text : List Char} {ast : Ast} (h : parse text = some ast) :
    ∃ s, ParserState.run (text.length + 1) {} text = some s ∧ s.groups = [] ∧ s.level.toAst = ast := by
  obtain ⟨s, hs, h⟩ := Option.bind_eq_some_iff.mp h
  refine ⟨s, hs, ?_⟩
  split at h
  · cases h
  · rename_i hg
    dsimp only at h
    split at h
    · exact ⟨by simpa using hg, Option.some.inj h⟩
    · cases h

lemma run_brace (fuel : Nat) (rest : List Char) :
    ParserState.run (fuel + 1) {} ('{' :: rest) = none := by
  have hstep : ParserState.step {} ('{' :: rest) = none := by
    simp [ParserState.step, ParserState.repeatLast]
  simp [ParserState.run, skip, hstep]

lemma run_anchor {cs : List Char} (hcs : ∀ rest, cs = '{' :: rest → False) (fuel : Nat) :
    ParserState.run (fuel + 1) {} (anchor ++ cs) =
      ParserState.run fuel (ParserState.add {} boundary) cs := by
  have hstep : ParserState.step {} (anchor ++ cs) = some (ParserState.add {} boundary, cs) := by
    have hread : readBoundary false cs = some (.assertion .wordBoundary, cs) := by
      unfold readBoundary
      split
      · exact (hcs _ rfl).elim
      · rfl
    simp [anchor, ParserState.step, readPrimitive, readEscape, hread, boundary, Primitive.toAst]
  have hskip : skip false (anchor ++ cs) = anchor ++ cs := rfl
  rw [ParserState.run, hskip]
  exact congrArg (Option.bind · fun p => ParserState.run fuel p.1 p.2) hstep

lemma exists_run_append {text : List Char} {s : ParserState}
    (hs : ParserState.run (text.length + 1) {} text = some s)
    (hr : parse text = some s.level.toAst) :
    ∃ u, (∀ k, ParserState.run (text.length + 1 + 1 + k) {} (text ++ anchor) = some u) ∧
      (EndsInComment text ∧ u = s ∨ ¬EndsInComment text ∧ u = s.add boundary) := by
  have hlength : (text ++ anchor).length + 1 = text.length + 1 + 1 + 1 := by simp [anchor]
  rcases ParserState.run_append (.inl rfl) hs with hcomment | hbehind
  · refine ⟨s, hcomment, .inl ⟨?_, rfl⟩⟩
    rw [EndsInComment, parse, parse, hlength, hcomment 1, hs]
  · refine ⟨s.add boundary, hbehind, .inr ⟨?_, rfl⟩⟩
    intro hends
    rw [EndsInComment, hr] at hends
    obtain ⟨u, hu, -, htoAst⟩ := exists_of_parse hends
    rw [hlength, hbehind 1] at hu
    obtain rfl := Option.some.inj hu
    exact toAst_add_ne s.level htoAst

example : EndsInComment "(?x)a#".toList := rfl

lemma parse_bounded {text : List Char} {ast ast' : Ast} (hr : parse text = some ast)
    (hb : parse (anchor ++ (text ++ anchor)) = some ast') :
    ∃ bs cs, (EndsInComment text ∧ bs = ast.branches ∨
        ¬EndsInComment text ∧ Closed ast.branches bs) ∧
      Opened bs cs ∧ ast' = .ofBranches cs := by
  obtain ⟨s, hs, hgroups, rfl⟩ := exists_of_parse hr
  obtain ⟨t, ht, -, rfl⟩ := exists_of_parse hb
  obtain ⟨u, hu, hends⟩ := exists_run_append hs hr
  -- a brace behind the opening anchor would name a boundary, but no text that is read begins with one
  have hbrace : ∀ rest, text ++ anchor = '{' :: rest → False := by
    apply Behind.ne_cons (.inl rfl) (by decide)
    rintro rest rfl
    rw [run_brace] at hs
    cases hs
  have hlength : (anchor ++ (text ++ anchor)).length + 1 = text.length + 1 + 1 + 2 + 1 := by
    simp [anchor]
  rw [hlength, run_anchor hbrace] at ht
  have hled : ParserState.Led boundary {} (ParserState.add {} boundary) :=
    .outside (.first (by simp)) false
  obtain ⟨v, hv, hv'⟩ := hled.run (hu 2)
  obtain rfl := Option.some.inj (hv.symm.trans ht)
  rcases hends with ⟨hends, rfl⟩ | ⟨hends, rfl⟩
  · have hlevel := hv'.level hgroups
    refine ⟨_, _, .inl ⟨hends, ?_⟩, hlevel.opened, rfl⟩
    exact (Level.branches_toAst hlevel.itemised).symm
  · have hlevel := hv'.level hgroups
    refine ⟨_, _, .inr ⟨hends, ?_⟩, hlevel.opened, rfl⟩
    have hitems : s.level.branches = [] → ∀ x ∈ s.level.items, x.branches = [x] :=
      fun hl x hx => hlevel.itemised hl x (List.mem_cons_of_mem boundary hx)
    rw [Level.branches_toAst hitems]
    exact s.level.closed_add

end TemplateGrep.Regex
