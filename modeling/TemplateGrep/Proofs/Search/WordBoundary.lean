import Mathlib
import TemplateGrep.Proofs.Regex.Alternatives
import TemplateGrep.Proofs.Search.LiteralPattern

namespace TemplateGrep.Matcher

open Regex (Ast BranchMatches EndsInComment)
open Template (Table)

def MatchesAt (m : Matcher) (line : Bytes) (i j : Nat) : Prop :=
  ∃ p ∈ m.patterns, p.regex.Matches ⟨line.toArray⟩ i j

def IsBoundary (line : Bytes) (unicode : Bool) (i : Nat) : Prop :=
  WordLook.boundary.holds ⟨line.toArray⟩ unicode i = true

instance (line : Bytes) (unicode : Bool) (i : Nat) : Decidable (IsBoundary line unicode i) :=
  inferInstanceAs (Decidable (_ = true))

lemma matchesAt_singleton {text : String} {r : Regex} {line : Bytes} {i j : Nat} :
    MatchesAt ⟨[⟨text, r⟩]⟩ line i j ↔ r.Matches ⟨line.toArray⟩ i j := by
  simp [MatchesAt]

lemma exists_of_compile {t : Table} {options : Template.PatternOptions} {raw : String} {m : Matcher}
    (h : compile t options [raw] = .ok m) :
    ∃ text r, t.prepare options raw = .ok text ∧ Regex.compile text = .ok r ∧
      m = ⟨[⟨text, r⟩]⟩ := by
  obtain ⟨patterns⟩ := m
  obtain ⟨p, ps, hp, hps, rfl⟩ := List.forall₂_cons_left_iff.mp (compile_eq_ok_iff.mp h)
  obtain rfl := List.forall₂_nil_left_iff.mp hps
  exact ⟨p.source, p.regex, hp.1, hp.2, rfl⟩

/-- The opening boundary is asked of the first alternative only and the closing boundary of the last
one only, in the sense of the flags in force there and unless a comment swallows it. With a single
alternative and neither of these, the pattern matches between word boundaries. -/
theorem isMatch_wordBoundary_iff {t : Table} {raw : String} {plain bounded : Matcher}
    (hp : compile t { noTemplate := true } [raw] = .ok plain)
    (hb : compile t { wordBoundary := true, noTemplate := true } [raw] = .ok bounded) :
    ∃ ast rs f, Regex.parse raw.toList = some ast ∧ Ast.meanings? {} ast.branches = some (rs, f) ∧
      (∀ line i j, plain.MatchesAt line i j ↔ ∃ k, BranchMatches ⟨line.toArray⟩ rs k i j) ∧
      (∀ line, bounded.isMatch line = true ↔
        ∃ k i j, i ≤ line.length ∧ BranchMatches ⟨line.toArray⟩ rs k i j ∧
          (k = 0 → IsBoundary line true i) ∧
          (k + 1 = rs.length → ¬EndsInComment raw.toList → IsBoundary line f.unicode j)) ∧
      (rs.length = 1 → f.unicode = true → ¬EndsInComment raw.toList →
        ∀ line, bounded.isMatch line = true ↔
          ∃ i j, i ≤ line.length ∧ plain.MatchesAt line i j ∧
            IsBoundary line true i ∧ IsBoundary line true j) := by
  have hprepare : t.prepare { noTemplate := true } raw = .ok raw := rfl
  have hprepare' : t.prepare { wordBoundary := true, noTemplate := true } raw =
      .ok ("\\b" ++ raw ++ "\\b") := rfl
  obtain ⟨_, r, htext, hr, rfl⟩ := exists_of_compile hp
  obtain ⟨_, b, htext', hr', rfl⟩ := exists_of_compile hb
  obtain rfl := Except.ok.inj (hprepare.symm.trans htext)
  obtain rfl := Except.ok.inj (hprepare'.symm.trans htext')
  obtain ⟨ast, rs, f, hast, hrs, hplain, hbounded⟩ := Regex.matches_bounded hr hr'
  have hmatch : ∀ line, isMatch ⟨[⟨"\\b" ++ raw ++ "\\b", b⟩]⟩ line = true ↔
      ∃ k i j, i ≤ line.length ∧ BranchMatches ⟨line.toArray⟩ rs k i j ∧
        (k = 0 → IsBoundary line true i) ∧
        (k + 1 = rs.length → ¬EndsInComment raw.toList → IsBoundary line f.unicode j) := by
    intro line
    have hsize : (ByteArray.mk line.toArray).size = line.length := rfl
    rw [isMatch_singleton, Regex.isMatch_iff, hsize]
    simp only [hbounded]
    constructor
    · rintro ⟨i, j, hi, k, hk⟩
      exact ⟨k, i, j, hi, hk⟩
    · rintro ⟨k, i, j, hi, hk⟩
      exact ⟨i, j, hi, k, hk⟩
  refine ⟨ast, rs, f, hast, hrs, fun line i j => ?_, hmatch, fun hone hunicode hends line => ?_⟩
  · rw [matchesAt_singleton, hplain]
  · rw [hmatch]
    have hzero : ∀ {k i j}, BranchMatches ⟨line.toArray⟩ rs k i j → k = 0 := by
      intro k i j hk
      have hlt := hk.lt_length
      omega
    simp only [matchesAt_singleton, hplain, hone, hunicode]
    constructor
    · rintro ⟨k, i, j, hi, hk, hopen, hclose⟩
      obtain rfl := hzero hk
      exact ⟨i, j, hi, ⟨0, hk⟩, hopen rfl, hclose rfl hends⟩
    · rintro ⟨i, j, hi, ⟨k, hk⟩, hopen, hclose⟩
      exact ⟨k, i, j, hi, hk, fun _ => hopen, fun _ _ => hclose⟩

theorem isMatch_wordBoundary_iff_word :
    ∃ plain bounded, compile .builtin { noTemplate := true } ["a+"] = .ok plain ∧
      compile .builtin { wordBoundary := true, noTemplate := true } ["a+"] = .ok bounded ∧
      ∀ line, bounded.isMatch line = true ↔
        ∃ i j, i ≤ line.length ∧ plain.MatchesAt line i j ∧
          IsBoundary line true i ∧ IsBoundary line true j := by
  have hp : compile .builtin { noTemplate := true } ["a+"] =
      .ok ⟨[⟨"a+", .repetition (.literal [97]) 1 none⟩]⟩ := rfl
  obtain ⟨bounded, hb⟩ : ∃ m,
      compile .builtin { wordBoundary := true, noTemplate := true } ["a+"] = .ok m := ⟨_, rfl⟩
  obtain ⟨ast, rs, f, hast, hrs, -, -, h⟩ := isMatch_wordBoundary_iff hp hb
  have hparse : Regex.parse "a+".toList = some (.repetition (.literal ⟨'a', false⟩) 1 none) := rfl
  obtain rfl := Option.some.inj (hparse.symm.trans hast)
  obtain ⟨rfl, rfl⟩ := Prod.mk.inj (Option.some.inj hrs)
  have hends : ¬EndsInComment "a+".toList := by
    intro hends
    have hbehind : Regex.parse ("a+".toList ++ Regex.anchor) =
        some (.concat [.repetition (.literal ⟨'a', false⟩) 1 none, Regex.boundary]) := rfl
    cases hbehind.symm.trans (hends.trans hparse)
  exact ⟨_, bounded, hp, hb, h rfl rfl hends⟩

theorem wordBoundary_loses_alternative :
    ∃ plain bounded, compile .builtin { noTemplate := true } ["a|b"] = .ok plain ∧
      compile .builtin { wordBoundary := true, noTemplate := true } ["a|b"] = .ok bounded ∧
      bounded.isMatch [0x78, 0x62] = true ∧
      ¬∃ i j, i ≤ 2 ∧ plain.MatchesAt [0x78, 0x62] i j ∧
        IsBoundary [0x78, 0x62] true i ∧ IsBoundary [0x78, 0x62] true j := by
  refine ⟨_, _, rfl, rfl, by decide +kernel, ?_⟩
  rintro ⟨i, j, hi, hm, hopen, -⟩
  rw [matchesAt_singleton] at hm
  have hstart : i = 1 := by
    rcases hm with ⟨hl, -⟩ | ⟨hl, -⟩
    all_goals
      interval_cases i
      all_goals
        revert hl
        decide +kernel
  subst hstart
  exact absurd hopen (by decide +kernel)

end TemplateGrep.Matcher
