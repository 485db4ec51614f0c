import Mathlib
import TemplateGrep.Unicode.CaseFolding

namespace TemplateGrep.Unicode

namespace CodeSet

variable {n : Nat}

lemma mem_iff {s : CodeSet} : s.mem n = true ↔ ∃ r ∈ s.ranges, r.1 ≤ n ∧ n ≤ r.2 := by
  simp [mem]

lemma exists_mem_addRange_iff {r : Nat × Nat} (hr : r.1 ≤ r.2) (rs : List (Nat × Nat)) :
    (∃ q ∈ addRange r rs, q.1 ≤ n ∧ n ≤ q.2) ↔
      (r.1 ≤ n ∧ n ≤ r.2) ∨ ∃ q ∈ rs, q.1 ≤ n ∧ n ≤ q.2 := by
  induction rs generalizing r with
  | nil => simp [addRange]
  | cons s rest ih =>
    rw [addRange, List.exists_mem_cons_iff]
    split
    case isTrue => simp only [List.exists_mem_cons_iff]
    case isFalse hr' =>
      split
      case isTrue =>
        rw [List.exists_mem_cons_iff, ih hr]
        exact or_left_comm
      case isFalse hs' =>
        -- the two ranges touch, so no number lies between them
        have hjoin : (min r.1 s.1 ≤ n ∧ n ≤ max r.2 s.2) ↔
            (r.1 ≤ n ∧ n ≤ r.2) ∨ (s.1 ≤ n ∧ n ≤ s.2) := by
          omega
        have hle : min r.1 s.1 ≤ max r.2 s.2 := by omega
        rw [ih hle, hjoin, or_assoc]

lemma mem_ofRanges_iff {rs : List (Nat × Nat)} (h : ∀ r ∈ rs, r.1 ≤ r.2) :
    (ofRanges rs).mem n = true ↔ ∃ r ∈ rs, r.1 ≤ n ∧ n ≤ r.2 := by
  rw [mem_iff, ofRanges]
  induction rs with
  | nil => simp
  | cons r rs ih =>
    obtain ⟨hr, hrs⟩ := List.forall_mem_cons.mp h
    rw [List.foldr_cons, exists_mem_addRange_iff hr, ih hrs, List.exists_mem_cons_iff]

end CodeSet

namespace CaseFolding

def SameFold (c d : Char) : Prop := fold c.toNat = fold d.toNat

lemma Run.preimage?_fold {r : Run} {n : Nat} (h : r.has n = true) :
    r.preimage? (r.fold n) = some n := by
  have hfirst : r.first ≤ n := by
    simp only [Run.has, Bool.and_eq_true, decide_eq_true_eq] at h
    exact h.1.1
  have hback : r.first + (r.fold n - r.target) = n := by
    rw [Run.fold]
    omega
  have hreach : (decide (r.target ≤ r.fold n) && r.has n) = true := by
    rw [h, Bool.and_true, decide_eq_true_eq, Run.fold]
    exact Nat.le_add_right _ _
  rw [Run.preimage?, hback, if_pos hreach]

lemma mem_variants_iff {m n : Nat} : m ∈ variants n ↔ fold m = fold n := by
  simp only [variants, List.mem_filter, beq_iff_eq]
  refine ⟨fun h => h.2, fun h => ⟨?_, h⟩⟩
  rw [← h, fold, List.mem_cons, List.mem_filterMap]
  cases hfind : runs.find? (·.has m) with
  | none => exact .inl rfl
  | some r =>
    have hmem : r ∈ runs := List.mem_of_find?_eq_some hfind
    have hhas : r.has m = true := by simpa using List.find?_some hfind
    exact .inr ⟨r, hmem, Run.preimage?_fold hhas⟩

lemma hasChar_variants_iff {c d : Char} :
    (CodeSet.ofRanges ((variants c.toNat).map fun n => (n, n))).hasChar d = true ↔
      SameFold c d := by
  have hle : ∀ r ∈ (variants c.toNat).map fun n => (n, n), r.1 ≤ r.2 := by
    intro r hr
    obtain ⟨n, -, rfl⟩ := List.mem_map.mp hr
    exact Nat.le_refl n
  have hmem : (∃ r ∈ (variants c.toNat).map fun n => (n, n), r.1 ≤ d.toNat ∧ d.toNat ≤ r.2) ↔
      d.toNat ∈ variants c.toNat := by
    constructor
    · rintro ⟨r, hr, hlow, hhigh⟩
      obtain ⟨n, hn, rfl⟩ := List.mem_map.mp hr
      exact Nat.le_antisymm hlow hhigh ▸ hn
    · exact fun h => ⟨_, List.mem_map_of_mem h, Nat.le_refl _, Nat.le_refl _⟩
  rw [CodeSet.hasChar, CodeSet.mem_ofRanges_iff hle, hmem, mem_variants_iff, SameFold, eq_comm]

lemma forall₂_sameFold_iff {cs ds : List Char} :
    List.Forall₂ SameFold cs ds ↔
      cs.map (fun c => fold c.toNat) = ds.map fun d => fold d.toNat := by
  rw [← List.forall₂_eq_eq_eq, List.forall₂_map_left_iff, List.forall₂_map_right_iff]
  rfl

lemma forall₂_sameFold_symm {cs ds : List Char} (h : List.Forall₂ SameFold cs ds) :
    List.Forall₂ SameFold ds cs :=
  forall₂_sameFold_iff.mpr (forall₂_sameFold_iff.mp h).symm

end CaseFolding

end TemplateGrep.Unicode
