import Mathlib
import TemplateGrep.Regex.Match

/-!
The computed ends of matches are the ends of matches. Sets of positions are followed step by step; a
repetition without a limit needs no more steps than the line has positions.
-/

namespace TemplateGrep.Regex

/-! ### Powers of a relation -/

section Power

variable {R : Nat → Nat → Prop}

lemma power_add {m n i j : Nat} :
    Power R (m + n) i j ↔ ∃ k, Power R m i k ∧ Power R n k j := by
  induction m generalizing i with
  | zero => simp [Power]
  | succ m ih =>
    rw [Nat.succ_add]
    simp only [Power, ih]
    constructor
    · rintro ⟨a, ha, k, hk, hn⟩
      exact ⟨k, ⟨a, ha, hk⟩, hn⟩
    · rintro ⟨k, ⟨a, ha, hk⟩, hn⟩
      exact ⟨a, ha, k, hk, hn⟩

lemma power_one {i j : Nat} : Power R 1 i j ↔ R i j := by
  simp [Power]

lemma Power.le (hR : ∀ i j, R i j → i ≤ j) {n i j : Nat} (h : Power R n i j) : i ≤ j := by
  induction n generalizing i with
  | zero => exact Nat.le_of_eq h
  | succ n ih =>
    obtain ⟨k, hk, hn⟩ := h
    exact (hR i k hk).trans (ih hn)

lemma Power.shorten (hR : ∀ i j, R i j → i ≤ j) {n i j : Nat} (h : Power R n i j) :
    ∃ m ≤ j - i, Power R m i j := by
  induction n generalizing i with
  | zero => exact ⟨0, Nat.zero_le _, h⟩
  | succ n ih =>
    obtain ⟨k, hk, hn⟩ := h
    obtain ⟨m, hm, hp⟩ := ih hn
    -- a step that stays at `i` is left out, any other uses up a position
    have hik : i ≤ k := hR i k hk
    have hkj : k ≤ j := Power.le hR hn
    rcases Nat.eq_or_lt_of_le hik with rfl | hlt
    · exact ⟨m, hm, hp⟩
    · exact ⟨m + 1, by omega, k, hk, hp⟩

lemma Power.bounded {last : Nat} (hR : ∀ i j, R i j → i ≤ last → j ≤ last) {n i j : Nat}
    (h : Power R n i j) (hi : i ≤ last) : j ≤ last := by
  induction n generalizing i with
  | zero => exact h ▸ hi
  | succ n ih =>
    obtain ⟨k, hk, hn⟩ := h
    exact ih hn (hR i k hk hi)

def Within (R : Nat → Nat → Prop) (is : List Nat) (n j : Nat) : Prop :=
  ∃ m ≤ n, ∃ i ∈ is, Power R m i j

lemma within_zero {is : List Nat} {j : Nat} : Within R is 0 j ↔ j ∈ is := by
  simp [Within, Power]

lemma Within.bounded {last : Nat} (hR : ∀ i j, R i j → i ≤ last → j ≤ last) {is : List Nat}
    (his : ∀ i ∈ is, i ≤ last) {n j : Nat} (h : Within R is n j) : j ≤ last := by
  obtain ⟨_, _, i, hi, hp⟩ := h
  exact hp.bounded hR (his i hi)

lemma within_succ {is : List Nat} {n j : Nat} :
    Within R is (n + 1) j ↔ Within R is n j ∨ ∃ k, Within R is n k ∧ R k j := by
  constructor
  · rintro ⟨m, hm, i, hi, hp⟩
    rcases Nat.le_succ_iff.mp hm with hm | hm
    · exact .inl ⟨m, hm, i, hi, hp⟩
    · obtain rfl : m = n + 1 := hm
      obtain ⟨k, hk, hkj⟩ := power_add.mp hp
      exact .inr ⟨k, ⟨n, le_rfl, i, hi, hk⟩, power_one.mp hkj⟩
  · rintro (⟨m, hm, i, hi, hp⟩ | ⟨k, ⟨m, hm, i, hi, hp⟩, hkj⟩)
    · exact ⟨m, by omega, i, hi, hp⟩
    · exact ⟨m + 1, by omega, i, hi, power_add.mpr ⟨k, hp, power_one.mpr hkj⟩⟩

lemma within_iff_exists {is : List Nat} {n j : Nat} :
    Within R is n j ↔ ∃ i ∈ is, ∃ m ≤ n, Power R m i j := by
  constructor
  · rintro ⟨m, hm, i, hi, hp⟩
    exact ⟨i, hi, m, hm, hp⟩
  · rintro ⟨i, hi, m, hm, hp⟩
    exact ⟨m, hm, i, hi, hp⟩

lemma within_iff_exists_power {last : Nat} (hR : ∀ i j, R i j → i ≤ j)
    (hlast : ∀ i j, R i j → i ≤ last → j ≤ last) {is : List Nat} (his : ∀ i ∈ is, i ≤ last)
    {j : Nat} : Within R is (last + 1) j ↔ ∃ i ∈ is, ∃ n, Power R n i j := by
  rw [within_iff_exists]
  refine exists_congr fun i => and_congr_right fun hi => ⟨?_, ?_⟩
  · rintro ⟨n, _, hp⟩
    exact ⟨n, hp⟩
  · rintro ⟨n, hp⟩
    obtain ⟨m, hm, hp'⟩ := hp.shorten hR
    have hj : j ≤ last := hp.bounded hlast (his i hi)
    exact ⟨m, by omega, hp'⟩

end Power

/-! ### Searching in rounds -/

lemma testBit_insertAll (seen : Nat) (fresh : List Nat) (j : Nat) :
    (fresh.foldl (fun s i => s ||| 1 <<< i) seen).testBit j = true ↔
      seen.testBit j = true ∨ j ∈ fresh := by
  induction fresh generalizing seen with
  | nil => simp
  | cons i fresh ih =>
    rw [List.foldl_cons, ih, Nat.testBit_or, Nat.one_shiftLeft, Nat.testBit_two_pow]
    simp [or_assoc, @eq_comm _ i j]

/-- What is seen after `d` rounds from `is`. Only from the frontier do steps lead to other positions. -/
structure Searched (R : Nat → Nat → Prop) (is : List Nat) (d seen : Nat) (frontier : List Nat) :
    Prop where
  seen_iff : ∀ j, seen.testBit j = true ↔ Within R is d j
  frontier_seen : ∀ i ∈ frontier, seen.testBit i = true
  closed : ∀ i j, seen.testBit i = true → i ∉ frontier → R i j → seen.testBit j = true

namespace Searched

variable {R : Nat → Nat → Prop} {is frontier fresh : List Nat} {d seen : Nat}

lemma start (R : Nat → Nat → Prop) (is : List Nat) :
    Searched R is 0 (is.foldl (fun s i => s ||| 1 <<< i) 0) is := by
  have hseen : ∀ j, (is.foldl (fun s i => s ||| 1 <<< i) 0).testBit j = true ↔ j ∈ is := by
    simp [testBit_insertAll]
  exact ⟨fun j => (hseen j).trans within_zero.symm, fun i => (hseen i).mpr,
    fun i _ hi hnot _ => absurd ((hseen i).mp hi) hnot⟩

section Round

variable (h : Searched R is d seen frontier)
  (hfresh : ∀ j, j ∈ fresh ↔ (∃ i ∈ frontier, R i j) ∧ seen.testBit j = false)

include h hfresh

lemma seen_or_fresh {i j : Nat} (hi : seen.testBit i = true) (hR : R i j) :
    seen.testBit j = true ∨ j ∈ fresh := by
  by_cases hmem : i ∈ frontier
  · cases hj : seen.testBit j with
    | true => exact .inl rfl
    | false => exact .inr ((hfresh j).mpr ⟨⟨i, hmem, hR⟩, hj⟩)
  · exact .inl (h.closed i j hi hmem hR)

lemma within_succ_iff (j : Nat) :
    Within R is (d + 1) j ↔ seen.testBit j = true ∨ j ∈ fresh := by
  rw [within_succ, ← h.seen_iff]
  constructor
  · rintro (hj | ⟨k, hk, hR⟩)
    · exact .inl hj
    · exact h.seen_or_fresh hfresh ((h.seen_iff k).mpr hk) hR
  · rintro (hj | hj)
    · exact .inl hj
    · obtain ⟨⟨i, hi, hR⟩, -⟩ := (hfresh j).mp hj
      exact .inr ⟨i, (h.seen_iff i).mp (h.frontier_seen i hi), hR⟩

lemma next : Searched R is (d + 1) (fresh.foldl (fun s i => s ||| 1 <<< i) seen) fresh where
  seen_iff j := by rw [testBit_insertAll, h.within_succ_iff hfresh]
  frontier_seen i hi := (testBit_insertAll seen fresh i).mpr (.inr hi)
  closed i j hi hnot hR := by
    rw [testBit_insertAll] at hi ⊢
    exact h.seen_or_fresh hfresh (hi.resolve_right hnot) hR

end Round

lemma within_iff_of_nothing_fresh (h : Searched R is d seen frontier)
    (hclosed : ∀ i j, seen.testBit i = true → R i j → seen.testBit j = true) (n j : Nat) :
    Within R is (d + n) j ↔ seen.testBit j = true := by
  induction n generalizing j with
  | zero => exact (h.seen_iff j).symm
  | succ n ih =>
    rw [← Nat.add_assoc, within_succ, ih]
    refine ⟨?_, .inl⟩
    rintro (hj | ⟨k, hk, hR⟩)
    · exact hj
    · exact hclosed k j ((ih k).mp hk) hR

end Searched

/-! ### Steps on sets of positions -/

structure Follows (step : List Nat → List Nat) (R : Nat → Nat → Prop) (last : Nat) : Prop where
  mem_step : ∀ is, (∀ i ∈ is, i ≤ last) → ∀ j, j ∈ step is ↔ ∃ i ∈ is, R i j
  bounded : ∀ i j, R i j → i ≤ last → j ≤ last

namespace Follows

variable {step : List Nat → List Nat} {R : Nat → Nat → Prop} {last : Nat}

lemma step_bounded (h : Follows step R last) {is : List Nat} (his : ∀ i ∈ is, i ≤ last) :
    ∀ j ∈ step is, j ≤ last := by
  intro j hj
  obtain ⟨i, hi, hR⟩ := (h.mem_step is his j).mp hj
  exact h.bounded i j hR (his i hi)

lemma exists_power_succ (h : Follows step R last) {is : List Nat} (his : ∀ i ∈ is, i ≤ last)
    {n j : Nat} : (∃ i ∈ is, Power R (n + 1) i j) ↔ ∃ k ∈ step is, Power R n k j := by
  constructor
  · rintro ⟨i, hi, k, hk, hp⟩
    exact ⟨k, (h.mem_step is his k).mpr ⟨i, hi, hk⟩, hp⟩
  · rintro ⟨k, hk, hp⟩
    obtain ⟨i, hi, hR⟩ := (h.mem_step is his k).mp hk
    exact ⟨i, hi, k, hR, hp⟩

lemma mem_iterate (h : Follows step R last) {is : List Nat} (his : ∀ i ∈ is, i ≤ last) {n j : Nat} :
    j ∈ iterate step n is ↔ ∃ i ∈ is, Power R n i j := by
  induction n generalizing is with
  | zero => simp [iterate, Power]
  | succ n ih =>
    rw [h.exists_power_succ his]
    by_cases hfix : step is = is
    · have hstay : ∀ n, (∃ k ∈ is, Power R n k j) ↔ j ∈ is := by
        intro n
        induction n with
        | zero => simp [Power]
        | succ n ihn => rw [h.exists_power_succ his, hfix, ihn]
      rw [iterate, if_pos hfix, hfix, hstay]
    · rw [iterate, if_neg hfix]
      exact ih (h.step_bounded his)

lemma testBit_spread (h : Follows step R last) {is : List Nat} (his : ∀ i ∈ is, i ≤ last)
    {rounds d seen : Nat} {frontier : List Nat} (hs : Searched R is d seen frontier) (j : Nat) :
    (spread step rounds seen frontier).testBit j = true ↔ Within R is (d + rounds) j := by
  induction rounds generalizing d seen frontier with
  | zero => exact hs.seen_iff j
  | succ rounds ih =>
    have hfrontier : ∀ i ∈ frontier, i ≤ last := fun i hi =>
      ((hs.seen_iff i).mp (hs.frontier_seen i hi)).bounded h.bounded his
    rw [spread]
    generalize hf : (step frontier).filter (fun i => !seen.testBit i) = fresh
    have hfresh : ∀ j, j ∈ fresh ↔ (∃ i ∈ frontier, R i j) ∧ seen.testBit j = false := by
      intro j
      rw [← hf, List.mem_filter, h.mem_step frontier hfrontier, Bool.not_eq_true']
    cases fresh with
    | nil =>
      have hclosed : ∀ i j, seen.testBit i = true → R i j → seen.testBit j = true := by
        intro i j hi hR
        simpa using hs.seen_or_fresh hfresh hi hR
      exact (hs.within_iff_of_nothing_fresh hclosed (rounds + 1) j).symm
    | cons k rest =>
      rw [Nat.add_comm rounds, ← Nat.add_assoc]
      exact ih (hs.next hfresh)

lemma mem_reach (h : Follows step R last) {is : List Nat} (his : ∀ i ∈ is, i ≤ last) {rounds j : Nat} :
    j ∈ reach last rounds step is ↔ Within R is rounds j := by
  have hspread : (spread step rounds (is.foldl (fun s i => s ||| 1 <<< i) 0) is).testBit j = true ↔
      Within R is (0 + rounds) j :=
    h.testBit_spread his (.start R is) j
  rw [Nat.zero_add] at hspread
  rw [reach, List.mem_filter, hspread, List.mem_range]
  refine ⟨fun hj => hj.2, fun hj => ⟨?_, hj⟩⟩
  have hle := hj.bounded h.bounded his
  omega

end Follows

/-! ### Regexes -/

lemma mem_mergeFrom {i k : Nat} {is : List Nat} {mergeRest : List Nat → List Nat}
    (hrest : ∀ js, k ∈ mergeRest js ↔ k ∈ is ∨ k ∈ js) (js : List Nat) :
    k ∈ mergeFrom i is mergeRest js ↔ k ∈ i :: is ∨ k ∈ js := by
  induction js with
  | nil => simp [mergeFrom]
  | cons j js ih =>
    rw [mergeFrom]
    split
    · simp [hrest, or_assoc]
    · split
      · rw [List.mem_cons, ih]
        simp only [List.mem_cons]
        tauto
      · have hij : i = j := by omega
        simp only [List.mem_cons, hrest, hij]
        tauto

lemma mem_merge {k : Nat} (is js : List Nat) : k ∈ merge is js ↔ k ∈ is ∨ k ∈ js := by
  induction is generalizing js with
  | nil => simp [merge]
  | cons i is ih => exact mem_mergeFrom ih js

variable {line : ByteArray}

lemma lt_size_of_byteAt? {i : Nat} {b : UInt8} (h : byteAt? line i = some b) : i < line.size := by
  by_contra hlt
  rw [byteAt?, getElem?_neg line i hlt] at h
  cases h

lemma length_le_of_literalAt {bytes : List UInt8} {i : Nat} (h : literalAt line bytes i = true)
    (hi : i ≤ line.size) : i + bytes.length ≤ line.size := by
  induction bytes generalizing i with
  | nil => exact hi
  | cons b rest ih =>
    rw [literalAt, Bool.and_eq_true, beq_iff_eq] at h
    obtain ⟨hb, hrest⟩ := h
    have hle := ih hrest (lt_size_of_byteAt? hb)
    rw [List.length_cons]
    omega

lemma Matches.le {r : Regex} {i j : Nat} (h : Matches line r i j) : i ≤ j := by
  induction r generalizing i j with
  | empty => exact Nat.le_of_eq h
  | literal bytes => exact h.2 ▸ Nat.le_add_right _ _
  | byteClass s =>
    obtain ⟨_, _, _, rfl⟩ := h
    exact Nat.le_succ i
  | charClass s =>
    obtain ⟨_, _, _, rfl⟩ := h
    exact Nat.le_add_right _ _
  | look l => exact Nat.le_of_eq h.2
  | concat p q ihp ihq =>
    obtain ⟨k, hp, hq⟩ := h
    exact (ihp hp).trans (ihq hq)
  | alternate p q ihp ihq => exact h.elim ihp ihq
  | repetition p min max ih =>
    obtain ⟨n, _, _, hn⟩ := h
    exact hn.le fun _ _ => ih
  | capture p ih => exact ih h

lemma Matches.bounded {r : Regex} {i j : Nat} (h : Matches line r i j) (hi : i ≤ line.size) :
    j ≤ line.size := by
  induction r generalizing i j with
  | empty => exact h ▸ hi
  | literal bytes => exact h.2 ▸ length_le_of_literalAt h.1 hi
  | byteClass s =>
    obtain ⟨_, hb, _, rfl⟩ := h
    exact lt_size_of_byteAt? hb
  | charClass s =>
    obtain ⟨_, hc, _, rfl⟩ := h
    exact ByteArray.le_size_of_utf8DecodeChar?_eq_some hc
  | look l => exact h.2 ▸ hi
  | concat p q ihp ihq =>
    obtain ⟨k, hp, hq⟩ := h
    exact ihq hq (ihp hp hi)
  | alternate p q ihp ihq => exact h.elim (ihp · hi) (ihq · hi)
  | repetition p min max ih =>
    obtain ⟨n, _, _, hn⟩ := h
    exact hn.bounded (fun _ _ => ih) hi
  | capture p ih => exact ih h hi

lemma matches_repetition {p : Regex} {min : Nat} {max : Option Nat} {i j : Nat} :
    Matches line (.repetition p min max) i j ↔
      ∃ k, Power (Matches line p) min i k ∧
        ∃ n, (∀ m, max = some m → min + n ≤ m) ∧ Power (Matches line p) n k j := by
  constructor
  · rintro ⟨n, hmin, hmax, hn⟩
    obtain ⟨k, hk, hp⟩ := power_add.mp (Nat.add_sub_cancel' hmin ▸ hn)
    exact ⟨k, hk, n - min, fun m hm => by have := hmax m hm; omega, hp⟩
  · rintro ⟨k, hk, n, hmax, hp⟩
    exact ⟨min + n, Nat.le_add_right _ _, hmax, power_add.mpr ⟨k, hk, hp⟩⟩

lemma Follows.mem_repetition {p : Regex} (h : Follows (ends line p) (Matches line p) line.size)
    {min : Nat} {max : Option Nat} {is : List Nat} (his : ∀ i ∈ is, i ≤ line.size) {j : Nat} :
    j ∈ ends line (.repetition p min max) is ↔
      ∃ i ∈ is, Matches line (.repetition p min max) i j := by
  have hmin : ∀ k, k ∈ iterate (ends line p) min is ↔ ∃ i ∈ is, Power (Matches line p) min i k :=
    fun k => h.mem_iterate his
  have hstart : (∃ i ∈ is, Matches line (.repetition p min max) i j) ↔
      ∃ k ∈ iterate (ends line p) min is,
        ∃ n, (∀ m, max = some m → min + n ≤ m) ∧ Power (Matches line p) n k j := by
    simp only [matches_repetition, hmin]
    constructor
    · rintro ⟨i, hi, k, hk, hn⟩
      exact ⟨k, ⟨i, hi, hk⟩, hn⟩
    · rintro ⟨k, ⟨i, hi, hk⟩, hn⟩
      exact ⟨i, hi, k, hk, hn⟩
  have hbounded : ∀ k ∈ iterate (ends line p) min is, k ≤ line.size := by
    intro k hk
    obtain ⟨i, hi, hp⟩ := (hmin k).mp hk
    exact hp.bounded h.bounded (his i hi)
  rw [hstart]
  simp only [ends]
  generalize iterate (ends line p) min is = ks at hbounded ⊢
  cases ks with
  | nil => simp
  | cons k ks =>
    rw [List.isEmpty_cons, if_neg Bool.false_ne_true]
    cases max with
    | none =>
      have hany : ∀ n, (∀ m, none = some m → min + n ≤ m) ↔ True := by simp
      simp only [hany, true_and]
      rw [h.mem_reach hbounded]
      exact within_iff_exists_power (fun _ _ => Matches.le) h.bounded hbounded
    | some m =>
      have hmax : ∀ n, (∀ m', some m = some m' → min + n ≤ m') ↔ min + n ≤ m := by simp
      simp only [hmax]
      split
      · refine iff_of_false (by simp) ?_
        rintro ⟨_, _, n, hn, _⟩
        omega
      split
      · constructor
        · intro hj
          exact ⟨j, hj, 0, by omega, rfl⟩
        · rintro ⟨k, hk, n, hn, hp⟩
          obtain rfl : n = 0 := by omega
          exact hp ▸ hk
      · have hrounds : ∀ n, min + n ≤ m ↔ n ≤ m - min := by omega
        rw [h.mem_reach hbounded, within_iff_exists]
        simp only [hrounds]

lemma follows_ends (r : Regex) : Follows (ends line r) (Matches line r) line.size := by
  refine ⟨?_, fun _ _ => Matches.bounded⟩
  induction r with
  | empty => simp [ends, Matches]
  | literal bytes =>
    intro is _ j
    rw [ends, List.mem_filterMap]
    refine exists_congr fun i => and_congr_right fun _ => ?_
    simp [Matches, @eq_comm _ j]
  | byteClass s =>
    intro is _ j
    rw [ends, List.mem_filterMap]
    refine exists_congr fun i => and_congr_right fun _ => ?_
    cases hb : byteAt? line i <;> simp [Matches, hb, @eq_comm _ j]
  | charClass s =>
    intro is _ j
    rw [ends, List.mem_filterMap]
    refine exists_congr fun i => and_congr_right fun _ => ?_
    cases hc : charAt? line i <;> simp [Matches, hc, @eq_comm _ j]
  | look l =>
    intro is _ j
    rw [ends, List.mem_filter]
    constructor
    · rintro ⟨hj, hl⟩
      exact ⟨j, hj, hl, rfl⟩
    · rintro ⟨i, hi, hl, rfl⟩
      exact ⟨hi, hl⟩
  | concat p q ihp ihq =>
    intro is his j
    have hp : Follows (ends line p) (Matches line p) line.size := ⟨ihp, fun _ _ => Matches.bounded⟩
    rw [ends, ihq _ (hp.step_bounded his)]
    constructor
    · rintro ⟨k, hk, hq⟩
      obtain ⟨i, hi, hp⟩ := (ihp is his k).mp hk
      exact ⟨i, hi, k, hp, hq⟩
    · rintro ⟨i, hi, k, hp, hq⟩
      exact ⟨k, (ihp is his k).mpr ⟨i, hi, hp⟩, hq⟩
  | alternate p q ihp ihq =>
    intro is his j
    rw [ends, mem_merge, ihp is his, ihq is his]
    simp only [Matches, and_or_left, exists_or]
  | repetition p min max ih =>
    intro is his j
    have hp : Follows (ends line p) (Matches line p) line.size := ⟨ih, fun _ _ => Matches.bounded⟩
    exact hp.mem_repetition his
  | capture p ih => exact ih

theorem isMatch_iff {r : Regex} :
    r.isMatch line = true ↔ ∃ i j, i ≤ line.size ∧ Matches line r i j := by
  have hrange : ∀ i ∈ List.range (line.size + 1), i ≤ line.size := by
    simp only [List.mem_range]
    omega
  rw [isMatch, Bool.not_eq_true', List.isEmpty_eq_false_iff_exists_mem]
  simp only [(follows_ends r).mem_step _ hrange, List.mem_range, Nat.lt_succ_iff]
  exact exists_comm

end TemplateGrep.Regex
