import Mathlib
import TemplateGrep.Proofs.Template.Cutting

namespace TemplateGrep.Template

lemma hasDouble_eq_true_iff {c : Char} {text : List Char} :
    hasDouble c text = true ↔ [c, c] <:+: text := by
  induction text with
  | nil => simp [hasDouble]
  | cons a text ih =>
    cases text with
    | nil => simp [hasDouble, List.infix_cons_iff]
    | cons b rest =>
      have hhead : (a == c && b == c) = true ↔ [c, c] <+: a :: b :: rest := by
        simp [List.cons_prefix_cons, @eq_comm _ a c, @eq_comm _ b c]
      rw [hasDouble, Bool.or_eq_true, ih, hhead]
      exact List.infix_cons_iff.symm

lemma hasDelimiter_eq_true_iff {text : List Char} :
    hasDelimiter text = true ↔ opening <:+: text ∨ closing <:+: text := by
  simp [hasDelimiter, hasDouble_eq_true_iff, opening, closing]

lemma mem_iff_lookup_of_nodup {es : List Entry} (hn : (es.map Prod.fst).Nodup)
    {name fragment : String} : (name, fragment) ∈ es ↔ es.lookup name = some fragment := by
  rw [List.lookup_eq_some_iff]
  constructor
  · intro h
    obtain ⟨before, behind, rfl⟩ := List.append_of_mem h
    refine ⟨before, behind, rfl, fun p hp => bne_iff_ne.mpr ?_⟩
    rw [List.map_append, List.nodup_append] at hn
    have hne := hn.2.2 p.1 (List.mem_map_of_mem hp) name (by simp)
    exact hne.symm
  · rintro ⟨before, behind, rfl, -⟩
    simp

namespace Table

def NamesHoldNoDelimiter (t : Table) : Prop := ∀ e ∈ t.entries, hasDelimiter e.1.toList = false

lemma namesHoldNoDelimiter_builtin : builtin.NamesHoldNoDelimiter := by
  unfold NamesHoldNoDelimiter
  decide +kernel

lemma NamesHoldNoDelimiter.insert {t : Table} (ht : t.NamesHoldNoDelimiter) {name : String}
    (hn : hasDelimiter name.toList = false) (fragment : String) :
    (t.insert name fragment).NamesHoldNoDelimiter := by
  intro e he
  rcases fst_of_mem_insertEntry he with h | h
  · rw [h]
    exact hn
  · exact ht e h

lemma hasDelimiter_of_nameError?_eq_none {name : String} (h : nameError? name = none) :
    hasDelimiter name.toList = false := by
  cases hd : hasDelimiter name.toList with
  | false => rfl
  | true =>
    simp only [nameError?, hd, if_true] at h
    split at h <;> cases h

lemma NamesHoldNoDelimiter.extend {t t' : Table} {pairs : List Entry}
    (ht : t.NamesHoldNoDelimiter) (h : t.extend pairs = .ok t') : t'.NamesHoldNoDelimiter := by
  induction pairs generalizing t with
  | nil =>
    simp only [Table.extend, Except.ok.injEq] at h
    exact h ▸ ht
  | cons p rest ih =>
    obtain ⟨name, fragment⟩ := p
    cases hn : nameError? name with
    | some e => simp [Table.extend, hn] at h
    | none =>
      have ht' := ht.insert (hasDelimiter_of_nameError?_eq_none hn) fragment
      exact ih ht' (by simpa [Table.extend, hn] using h)

lemma namesHoldNoDelimiter_of_withTemplates {t : Table} {pairs : List Entry}
    (h : withTemplates pairs = .ok t) : t.NamesHoldNoDelimiter :=
  namesHoldNoDelimiter_builtin.extend h

lemma NamesHoldNoDelimiter.lookup_eq_none {t : Table} (ht : t.NamesHoldNoDelimiter) {name : String}
    (h : opening <:+: name.toList) : t.lookup name = none := by
  refine List.lookup_eq_none_iff.mpr fun e he => ?_
  have hd : hasDelimiter name.toList := hasDelimiter_eq_true_iff.mpr (.inl h)
  have hne : name ≠ e.1 := by
    rintro rfl
    simp [ht e he] at hd
  simpa using hne

lemma NamesHoldNoDelimiter.not_closing_infix {t : Table} (ht : t.NamesHoldNoDelimiter)
    {e : Entry} (he : e ∈ t.entries) : ¬ closing <:+: e.1.toList := fun h => by
  have hd := hasDelimiter_eq_true_iff.mpr (.inr h)
  simp [ht e he] at hd

lemma names_nodup (t : Table) : (t.entries.map Prod.fst).Nodup := by
  rw [List.nodup_iff_pairwise_ne, List.pairwise_map]
  exact t.increasing.imp String.ne_of_lt

lemma mem_entries_iff {t : Table} {name fragment : String} :
    (name, fragment) ∈ t.entries ↔ t.lookup name = some fragment :=
  mem_iff_lookup_of_nodup t.names_nodup

lemma lookup_of_mem {t : Table} {e : Entry} (he : e ∈ t.entries) : t.lookup e.1 = some e.2 :=
  mem_entries_iff.mp he

end Table

end TemplateGrep.Template
