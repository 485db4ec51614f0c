import Mathlib
import TemplateGrep.Yaml.ScalarReader
import TemplateGrep.Yaml.ScalarWriter

namespace TemplateGrep.Yaml

open ScalarWriter (isPrintable isLineEnd)

section Characters

variable {c : Char}

lemma isPrintable_ne (h : isPrintable c) {d : Char} (hd : isPrintable d = false) : c ≠ d := by
  rintro rfl
  simp [h] at hd

lemma isAllowed_of_isPrintable (h : isPrintable c) : isAllowed c := by
  simp only [isPrintable, isAllowed, Bool.or_eq_true, Bool.and_eq_true, bne_iff_ne,
    decide_eq_true_eq, beq_iff_eq] at h ⊢
  tauto

lemma isBreak_eq_isLineEnd (h : isPrintable c) : isBreak c = isLineEnd c := by
  have hr : (c == '\r') = false := beq_false_of_ne (isPrintable_ne h (by decide))
  have hn : (c == '\u0085') = false := beq_false_of_ne (isPrintable_ne h (by decide))
  rw [isBreak, isLineEnd, hr, hn, Bool.or_false, Bool.or_false]

lemma isBlank_eq (h : isPrintable c) : isBlank c = (c == ' ') := by
  have ht : (c == '\t') = false := beq_false_of_ne (isPrintable_ne h (by decide))
  rw [isBlank, ht, Bool.or_false]

lemma normalizeBreaks_eq_self {cs : List Char} (h : ∀ c ∈ cs, isPrintable c) :
    normalizeBreaks cs = cs := by
  induction cs with
  | nil => rfl
  | cons c cs ih =>
    have hc := h c List.mem_cons_self
    have hr : c ≠ '\r' := isPrintable_ne hc (by decide)
    have hn : c ≠ '\u0085' := isPrintable_ne hc (by decide)
    rw [normalizeBreaks, ih fun d hd => h d (List.mem_cons_of_mem c hd)]
    · rintro rest rfl _
      exact hr rfl
    · exact hr
    · exact hn

lemma isBlank_of_isBreak (h : isBreak c) : isBlank c = false := by
  simp only [isBreak, Bool.or_eq_true, beq_iff_eq] at h
  rcases h with (rfl | rfl) | rfl <;> rfl

end Characters

namespace Position

variable {p : Position}

lemma afterAll_nil : p.afterAll [] = p := rfl

lemma afterAll_cons (c : Char) (cs : List Char) :
    p.afterAll (c :: cs) = (p.after c).afterAll cs := rfl

lemma afterAll_append (as bs : List Char) :
    p.afterAll (as ++ bs) = (p.afterAll as).afterAll bs := List.foldl_append

lemma after_of_isBreak {c : Char} (h : isBreak c) : p.after c = p.nextLine := by
  rw [after, if_pos h]

lemma after_of_not_isBreak {c : Char} (h : isBreak c = false) : p.after c = p.next := by
  rw [after, h]
  rfl

lemma column_next : p.next.column = p.column + 1 := rfl

lemma column_nextLine : p.nextLine.column = 0 := rfl

lemma afterAll_eq {cs : List Char} (h : ∀ c ∈ cs, isBreak c = false) :
    p.afterAll cs = ⟨p.index + cs.length, p.line, p.column + cs.length⟩ := by
  induction cs generalizing p with
  | nil => rfl
  | cons c cs ih =>
    rw [afterAll_cons, after_of_not_isBreak (h c List.mem_cons_self),
      ih fun d hd => h d (List.mem_cons_of_mem c hd)]
    simp only [next, List.length_cons]
    congr 1 <;> omega

lemma line_le_after (c : Char) : p.line ≤ (p.after c).line := by
  rw [after]
  split
  · exact Nat.le_succ _
  · exact Nat.le_refl _

lemma line_le_afterAll (cs : List Char) : p.line ≤ (p.afterAll cs).line := by
  induction cs generalizing p with
  | nil => exact Nat.le_refl _
  | cons c cs ih => exact (line_le_after c).trans ih

end Position

end TemplateGrep.Yaml
