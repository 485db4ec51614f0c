import Mathlib
import TemplateGrep.Proofs.Regex.Anchoring
import TemplateGrep.Proofs.Regex.LiteralText

namespace TemplateGrep.Regex

lemma meanings?_cons_eq_some {f g : Flags} {a : Ast} {as : List Ast} {rs : List Regex} :
    Ast.meanings? f (a :: as) = some (rs, g) ↔
      ∃ r h ss, a.meaning? f = some (r, h) ∧ Ast.meanings? h as = some (ss, g) ∧ rs = r :: ss := by
  rw [Ast.meanings?]
  constructor
  · intro hrs
    obtain ⟨⟨r, h⟩, ha, hrs⟩ := Option.bind_eq_some_iff.mp hrs
    obtain ⟨⟨ss, g'⟩, has, hrs⟩ := Option.bind_eq_some_iff.mp hrs
    obtain ⟨rfl, rfl⟩ := Prod.mk.inj (Option.some.inj hrs)
    exact ⟨r, h, ss, ha, has, rfl⟩
  · rintro ⟨r, h, ss, ha, has, rfl⟩
    simp [ha, has]

lemma meanings?_append_eq_some {f g : Flags} {as bs : List Ast} {ts : List Regex} :
    Ast.meanings? f (as ++ bs) = some (ts, g) ↔
      ∃ rs h ss, Ast.meanings? f as = some (rs, h) ∧ Ast.meanings? h bs = some (ss, g) ∧
        ts = rs ++ ss := by
  induction as generalizing f ts with
  | nil => simp [Ast.meanings?]
  | cons a as ih =>
    simp only [List.cons_append, meanings?_cons_eq_some, ih]
    constructor
    · rintro ⟨r, f', _, ha, ⟨rs, h, ss, has, hbs, rfl⟩, rfl⟩
      exact ⟨r :: rs, h, ss, ⟨r, f', rs, ha, has, rfl⟩, hbs, rfl⟩
    · rintro ⟨_, h, ss, ⟨r, f', rs, ha, has, rfl⟩, hbs, rfl⟩
      exact ⟨r, f', rs ++ ss, ha, ⟨rs, h, ss, has, hbs, rfl⟩, rfl⟩

lemma meaning?_branches (f : Flags) (ast : Ast) :
    ast.meaning? f = (Ast.meanings? f ast.branches).map fun p => (alternates p.1, p.2) := by
  have hsingle : ∀ a : Ast, a.meaning? f =
      (Ast.meanings? f [a]).map fun p => (alternates p.1, p.2) := by
    intro a
    cases h : a.meaning? f <;> simp [Ast.meanings?, h, alternates]
  cases ast with
  | alternation branches =>
    rw [Ast.meaning?, Ast.branches, Option.map_eq_bind]
    rfl
  | _ => exact hsingle _

lemma meaning?_ofBranches (f : Flags) (branches : List Ast) :
    (Ast.ofBranches branches).meaning? f =
      (Ast.meanings? f branches).map fun p => (alternates p.1, p.2) := by
  match branches with
  | [] => rfl
  | [a] => cases h : a.meaning? f <;> simp [Ast.ofBranches, Ast.meanings?, h, alternates]
  | a :: b :: branches => exact meaning?_branches f (.alternation (a :: b :: branches))

section Matching

variable {line : ByteArray}

lemma matches_concats_append {rs ss : List Regex} {i j : Nat} :
    Matches line (concats (rs ++ ss)) i j ↔
      ∃ k, Matches line (concats rs) i k ∧ Matches line (concats ss) k j := by
  induction rs generalizing i with
  | nil => simp [concats, Matches]
  | cons r rs ih =>
    simp only [List.cons_append, matches_concats_cons, ih]
    constructor
    · rintro ⟨m, hr, k, hrs, hss⟩
      exact ⟨k, ⟨m, hr, hrs⟩, hss⟩
    · rintro ⟨k, ⟨m, hr, hrs⟩, hss⟩
      exact ⟨m, hr, k, hrs, hss⟩

def BranchMatches (line : ByteArray) (rs : List Regex) (k i j : Nat) : Prop :=
  ∃ r, rs[k]? = some r ∧ Matches line r i j

lemma BranchMatches.lt_length {rs : List Regex} {k i j : Nat} (h : BranchMatches line rs k i j) :
    k < rs.length := by
  obtain ⟨r, hr, -⟩ := h
  exact (List.getElem?_eq_some_iff.mp hr).1

lemma matches_alternates {rs : List Regex} (h : rs ≠ []) {i j : Nat} :
    Matches line (alternates rs) i j ↔ ∃ r ∈ rs, Matches line r i j := by
  induction rs with
  | nil => exact absurd rfl h
  | cons r rs ih =>
    cases rs with
    | nil => simp [alternates]
    | cons s rs =>
      have halternates : alternates (r :: s :: rs) = .alternate r (alternates (s :: rs)) := rfl
      rw [halternates, Matches, ih (List.cons_ne_nil s rs)]
      simp only [List.mem_cons, exists_eq_or_imp]

lemma exists_branchMatches {rs : List Regex} {i j : Nat} :
    (∃ k, BranchMatches line rs k i j) ↔ ∃ r ∈ rs, Matches line r i j := by
  simp only [BranchMatches, List.mem_iff_getElem?]
  constructor
  · rintro ⟨k, r, hr, hm⟩
    exact ⟨r, ⟨k, hr⟩, hm⟩
  · rintro ⟨r, ⟨k, hr⟩, hm⟩
    exact ⟨k, r, hr, hm⟩

end Matching

lemma meaning?_boundary (f : Flags) :
    boundary.meaning? f = some (.look (.word f.unicode .boundary), f) := rfl

lemma Opened.meanings? {bs cs : List Ast} (hc : Opened bs cs) {f g : Flags} {rs : List Regex}
    (h : Ast.meanings? f bs = some (rs, g)) :
    ∃ ss, Ast.meanings? f cs = some (ss, g) ∧ rs ≠ [] ∧ ss.length = rs.length ∧
      ∀ line k i j, BranchMatches line ss k i j ↔ BranchMatches line rs k i j ∧
        (k = 0 → WordLook.boundary.holds line f.unicode i) := by
  obtain ⟨first, others, rfl, rfl⟩ := hc
  obtain ⟨r, f', rest, hr, hrest, rfl⟩ := meanings?_cons_eq_some.mp h
  rw [meaning?_ofItems] at hr
  obtain ⟨⟨qs, f''⟩, hqs, he⟩ := Option.map_eq_some_iff.mp hr
  obtain ⟨rfl, rfl⟩ := Prod.mk.inj he
  have hfirst : (Ast.ofItems (boundary :: first)).meaning? f =
      some (concats (.look (.word f.unicode .boundary) :: qs), f'') := by
    rw [meaning?_ofItems, meanings?_cons_eq_some.mpr ⟨_, f, qs, meaning?_boundary f, hqs, rfl⟩]
    rfl
  refine ⟨_, meanings?_cons_eq_some.mpr ⟨_, f'', rest, hfirst, hrest, rfl⟩, List.cons_ne_nil _ _,
    rfl, ?_⟩
  intro line k i j
  cases k with
  | zero =>
    have hmatch : Matches line (concats (.look (.word f.unicode .boundary) :: qs)) i j ↔
        WordLook.boundary.holds line f.unicode i ∧ Matches line (concats qs) i j := by
      simp [matches_concats_cons, Matches, Look.holds, and_assoc]
    simp [BranchMatches, hmatch, and_comm]
  | succ k => simp [BranchMatches]

lemma Closed.meanings? {bs cs : List Ast} (hc : Closed bs cs) {f g : Flags} {rs : List Regex}
    (h : Ast.meanings? f bs = some (rs, g)) :
    ∃ ss, Ast.meanings? f cs = some (ss, g) ∧ ss.length = rs.length ∧
      ∀ line k i j, BranchMatches line ss k i j ↔ BranchMatches line rs k i j ∧
        (k + 1 = rs.length → WordLook.boundary.holds line g.unicode j) := by
  obtain ⟨others, last, rfl, rfl⟩ := hc
  obtain ⟨front, f', back, hfront, hback, rfl⟩ := meanings?_append_eq_some.mp h
  obtain ⟨r, f'', empty, hr, hempty, rfl⟩ := meanings?_cons_eq_some.mp hback
  obtain ⟨rfl, rfl⟩ := Prod.mk.inj (Option.some.inj hempty)
  rw [meaning?_ofItems] at hr
  obtain ⟨⟨qs, g⟩, hqs, he⟩ := Option.map_eq_some_iff.mp hr
  obtain ⟨rfl, rfl⟩ := Prod.mk.inj he
  have hitems : Ast.meanings? f' (last ++ [boundary]) =
      some (qs ++ [.look (.word g.unicode .boundary)], g) :=
    meanings?_append_eq_some.mpr ⟨qs, g, _, hqs,
      meanings?_cons_eq_some.mpr ⟨_, g, [], meaning?_boundary g, rfl, rfl⟩, rfl⟩
  have hlast : (Ast.ofItems (last ++ [boundary])).meaning? f' =
      some (concats (qs ++ [.look (.word g.unicode .boundary)]), g) := by
    rw [meaning?_ofItems, hitems]
    rfl
  refine ⟨_, meanings?_append_eq_some.mpr ⟨front, f', _, hfront,
    meanings?_cons_eq_some.mpr ⟨_, g, [], hlast, rfl, rfl⟩, rfl⟩, by simp, ?_⟩
  intro line k i j
  have hmatch : Matches line (concats (qs ++ [.look (.word g.unicode .boundary)])) i j ↔
      Matches line (concats qs) i j ∧ WordLook.boundary.holds line g.unicode j := by
    simp only [matches_concats_append, concats, Matches, Look.holds]
    constructor
    · rintro ⟨m, hm, hb, rfl⟩
      exact ⟨hm, hb⟩
    · rintro ⟨hm, hb⟩
      exact ⟨j, hm, hb, rfl⟩
  rcases Nat.lt_trichotomy k front.length with hk | rfl | hk
  · have hne : k ≠ front.length := by omega
    simp [BranchMatches, List.getElem?_append_left hk, hne]
  · simp [BranchMatches, hmatch]
  · have hnone : ∀ r : Regex, (front ++ [r])[k]? = none := fun r => by
      rw [List.getElem?_eq_none_iff, List.length_append, List.length_singleton]
      omega
    simp [BranchMatches, hnone]

lemma exists_of_compile {text : String} {r : Regex} (h : compile text = .ok r) :
    ∃ ast f, parse text.toList = some ast ∧ ast.meaning? {} = some (r, f) := by
  unfold compile at h
  split at h
  · cases h
  · rename_i ast hast
    split at h
    · cases h
    · rename_i r' f hr
      split at h
      · obtain rfl := Except.ok.inj h
        exact ⟨ast, f, hast, hr⟩
      · cases h

/-- Between word boundaries the first alternative has to start at one and the last alternative has to
end at one, in the sense of the flags that are in force there. -/
lemma matches_bounded {text : String} {r bounded : Regex} (hr : compile text = .ok r)
    (hb : compile ("\\b" ++ text ++ "\\b") = .ok bounded) :
    ∃ ast rs f, parse text.toList = some ast ∧ Ast.meanings? {} ast.branches = some (rs, f) ∧
      (∀ line i j, Matches line r i j ↔ ∃ k, BranchMatches line rs k i j) ∧
      ∀ line i j, Matches line bounded i j ↔ ∃ k, BranchMatches line rs k i j ∧
        (k = 0 → WordLook.boundary.holds line true i) ∧
        (k + 1 = rs.length → ¬EndsInComment text.toList →
          WordLook.boundary.holds line f.unicode j) := by
  obtain ⟨ast, f, hast, hmeaning⟩ := exists_of_compile hr
  obtain ⟨ast', f', hast', hmeaning'⟩ := exists_of_compile hb
  have htext : ("\\b" ++ text ++ "\\b").toList = anchor ++ (text.toList ++ anchor) := by
    simp [anchor]
  rw [htext] at hast'
  obtain ⟨bs, cs, hclosed, hopened, rfl⟩ := parse_bounded hast hast'
  rw [meaning?_branches] at hmeaning
  obtain ⟨⟨rs, g⟩, hrs, he⟩ := Option.map_eq_some_iff.mp hmeaning
  obtain ⟨rfl, rfl⟩ := Prod.mk.inj he
  obtain ⟨ts, hts, htlength, htmatch⟩ : ∃ ts, Ast.meanings? {} bs = some (ts, g) ∧
      ts.length = rs.length ∧ ∀ line k i j, BranchMatches line ts k i j ↔
        BranchMatches line rs k i j ∧ (k + 1 = rs.length → ¬EndsInComment text.toList →
          WordLook.boundary.holds line g.unicode j) := by
    rcases hclosed with ⟨hends, rfl⟩ | ⟨hends, hclosed⟩
    · exact ⟨rs, hrs, rfl, by simp [hends]⟩
    · obtain ⟨ts, hts, hlength, hmatch⟩ := hclosed.meanings? hrs
      exact ⟨ts, hts, hlength, by simpa [hends] using hmatch⟩
  obtain ⟨ss, hss, htne, hslength, hsmatch⟩ := hopened.meanings? hts
  have hrne : rs ≠ [] := by
    rintro rfl
    exact htne (List.eq_nil_of_length_eq_zero htlength)
  have hsne : ss ≠ [] := by
    rintro rfl
    exact htne (List.eq_nil_of_length_eq_zero hslength.symm)
  rw [meaning?_ofBranches, hss] at hmeaning'
  obtain ⟨rfl, -⟩ := Prod.mk.inj (Option.some.inj hmeaning')
  refine ⟨ast, rs, g, hast, hrs, fun line i j => ?_, fun line i j => ?_⟩
  · rw [matches_alternates hrne, exists_branchMatches]
  · rw [matches_alternates hsne, ← exists_branchMatches]
    refine exists_congr fun k => ?_
    rw [hsmatch, htmatch, and_assoc, and_comm (a := k + 1 = rs.length → _)]

end TemplateGrep.Regex
