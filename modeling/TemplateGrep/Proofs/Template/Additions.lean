import Mathlib
import TemplateGrep.Proofs.Template.Names

namespace TemplateGrep.Template

/-! ### Look-up -/

lemma lookup_insertEntry (name fragment other : String) (es : List Entry) :
    (insertEntry name fragment es).lookup other =
      if other = name then some fragment else es.lookup other := by
  induction es with
  | nil =>
    by_cases h : other = name
    · simp [insertEntry, h]
    · simp [insertEntry, List.lookup_cons, beq_false_of_ne h, h]
  | cons e es ih =>
    obtain ⟨k, v⟩ := e
    simp only [insertEntry]
    by_cases h : other = name
    · subst h
      split
      case isTrue => simp
      case isFalse =>
        split
        case isTrue => simp
        case isFalse hne => simp [List.lookup_cons, beq_false_of_ne hne, ih]
    · split
      case isTrue => simp [List.lookup_cons, beq_false_of_ne h]
      case isFalse =>
        split
        case isTrue heq => simp [List.lookup_cons, beq_false_of_ne h, ← heq]
        case isFalse => simp only [List.lookup_cons, ih, if_neg h]

lemma lookup_perm {es others : List Entry} (h : es.Perm others) (hn : (es.map Prod.fst).Nodup)
    (name : String) : others.lookup name = es.lookup name := by
  have hn' : (others.map Prod.fst).Nodup := (h.map Prod.fst).nodup hn
  apply Option.ext
  intro fragment
  rw [← mem_iff_lookup_of_nodup hn', ← mem_iff_lookup_of_nodup hn, h.mem_iff]

lemma lookup_reverse_perm {es others : List Entry} (h : es.Perm others)
    (hn : (es.map Prod.fst).Nodup) (name : String) :
    others.reverse.lookup name = es.lookup name :=
  lookup_perm (h.trans others.reverse_perm.symm) hn name

namespace Table

variable {t t' : Table}

lemma lookup_insert (t : Table) (name fragment other : String) :
    (t.insert name fragment).lookup other =
      if other = name then some fragment else t.lookup other :=
  lookup_insertEntry name fragment other t.entries

lemma lookup_foldl_insert (pairs : List Entry) (t : Table) (name : String) :
    (pairs.foldl (fun t p => t.insert p.1 p.2) t).lookup name =
      (pairs.reverse.lookup name).or (t.lookup name) := by
  induction pairs generalizing t with
  | nil => rfl
  | cons p pairs ih =>
    obtain ⟨k, v⟩ := p
    rw [List.foldl_cons, ih, lookup_insert, List.reverse_cons, List.lookup_append]
    by_cases h : name = k
    · simp [h]
    · simp [List.lookup_cons, beq_false_of_ne h, h]

lemma mem_names_iff {name : String} :
    name ∈ t.entries.map Prod.fst ↔ (t.lookup name).isSome = true := by
  rw [lookup, List.lookup_isSome_iff]
  simp

lemma eq_of_lookup_eq (h : ∀ name, t.lookup name = t'.lookup name) : t = t' := by
  have hmem : ∀ e, e ∈ t.entries ↔ e ∈ t'.entries := by
    rintro ⟨name, fragment⟩
    rw [mem_entries_iff, mem_entries_iff, h]
  have hperm : t.entries.Perm t'.entries :=
    (List.perm_ext_iff_of_nodup t.names_nodup.of_map t'.names_nodup.of_map).mpr hmem
  have hentries : t.entries = t'.entries := by
    apply hperm.eq_of_pairwise _ t.increasing t'.increasing
    intro a b _ _ hab hba
    exact absurd hba (String.lt_asymm hab)
  cases t
  cases t'
  cases hentries
  rfl

lemma ofList_perm {pairs others : List Entry} (h : pairs.Perm others)
    (hn : (pairs.map Prod.fst).Nodup) : ofList others = ofList pairs := by
  apply eq_of_lookup_eq
  intro name
  rw [ofList, ofList, lookup_foldl_insert, lookup_foldl_insert, lookup_reverse_perm h hn,
    lookup_reverse_perm (.refl pairs) hn]

/-! ### Names that can be added -/

def builtinNames : List String := builtin.entries.map Prod.fst

structure Allowed (name : String) : Prop where
  ne_empty : name ≠ ""
  no_opening : ¬ opening <:+: name.toList
  no_closing : ¬ closing <:+: name.toList
  not_builtin : name ∉ builtinNames

inductive Faulty : String → NameError → Prop
  | empty : Faulty "" .empty
  | delimiter {name} : name ≠ "" → opening <:+: name.toList ∨ closing <:+: name.toList →
      Faulty name (.delimiter name)
  | builtin {name} : name ≠ "" → ¬ opening <:+: name.toList → ¬ closing <:+: name.toList →
      name ∈ builtinNames → Faulty name (.builtin name)

lemma contains_builtin_iff {name : String} : builtin.contains name = true ↔ name ∈ builtinNames :=
  mem_names_iff.symm

lemma nameError?_eq_none_iff {name : String} : nameError? name = none ↔ Allowed name := by
  rw [nameError?]
  by_cases he : name = ""
  · rw [if_pos he]
    exact iff_of_false (by simp) fun h => h.ne_empty he
  rw [if_neg he]
  by_cases hd : hasDelimiter name.toList = true
  · rw [if_pos hd]
    refine iff_of_false (by simp) fun h => ?_
    exact (hasDelimiter_eq_true_iff.mp hd).elim h.no_opening h.no_closing
  rw [if_neg hd]
  rw [hasDelimiter_eq_true_iff, not_or] at hd
  by_cases hb : builtin.contains name = true
  · rw [if_pos hb]
    exact iff_of_false (by simp) fun h => h.not_builtin (contains_builtin_iff.mp hb)
  · rw [if_neg hb]
    exact iff_of_true rfl ⟨he, hd.1, hd.2, fun h => hb (contains_builtin_iff.mpr h)⟩

lemma nameError?_eq_some_iff {name : String} {e : NameError} :
    nameError? name = some e ↔ Faulty name e := by
  constructor
  · intro h
    rw [nameError?] at h
    split at h
    case isTrue he =>
      subst he
      obtain rfl := Option.some.inj h
      exact .empty
    case isFalse he =>
      split at h
      case isTrue hd =>
        obtain rfl := Option.some.inj h
        exact .delimiter he (hasDelimiter_eq_true_iff.mp hd)
      case isFalse hd =>
        rw [hasDelimiter_eq_true_iff, not_or] at hd
        split at h
        case isTrue hb =>
          obtain rfl := Option.some.inj h
          exact .builtin he hd.1 hd.2 (contains_builtin_iff.mp hb)
        case isFalse => cases h
  · intro h
    cases h with
    | empty => rfl
    | delimiter he hd => rw [nameError?, if_neg he, if_pos (hasDelimiter_eq_true_iff.mpr hd)]
    | builtin he ho hc hb =>
      have hd : ¬ hasDelimiter name.toList = true := by
        rw [hasDelimiter_eq_true_iff, not_or]
        exact ⟨ho, hc⟩
      rw [nameError?, if_neg he, if_neg hd, if_pos (contains_builtin_iff.mpr hb)]

/-! ### Additions -/

lemma extend_eq (t : Table) (pairs : List Entry) :
    t.extend pairs = match pairs.findSome? fun p => nameError? p.1 with
      | some e => .error e
      | none => .ok (pairs.foldl (fun t p => t.insert p.1 p.2) t) := by
  induction pairs generalizing t with
  | nil => rfl
  | cons p pairs ih =>
    obtain ⟨name, fragment⟩ := p
    rw [extend, List.findSome?_cons]
    cases nameError? name with
    | some e => rfl
    | none => exact ih (t.insert name fragment)

lemma withTemplates_eq_ok_iff {pairs : List Entry} :
    withTemplates pairs = .ok t ↔
      (∀ p ∈ pairs, Allowed p.1) ∧ pairs.foldl (fun t p => t.insert p.1 p.2) builtin = t := by
  have hnone : (pairs.findSome? fun p => nameError? p.1) = none ↔ ∀ p ∈ pairs, Allowed p.1 := by
    rw [List.findSome?_eq_none_iff]
    simp only [nameError?_eq_none_iff]
  rw [withTemplates, extend_eq, ← hnone]
  cases pairs.findSome? fun p => nameError? p.1 <;> simp

lemma withTemplates_eq_error_iff {pairs : List Entry} {e : NameError} :
    withTemplates pairs = .error e ↔ ∃ before p behind, pairs = before ++ p :: behind ∧
      (∀ q ∈ before, Allowed q.1) ∧ Faulty p.1 e := by
  have hsome : (pairs.findSome? fun p => nameError? p.1) = some e ↔
      ∃ before p behind, pairs = before ++ p :: behind ∧
        (∀ q ∈ before, Allowed q.1) ∧ Faulty p.1 e := by
    rw [List.findSome?_eq_some_iff]
    simp only [nameError?_eq_none_iff, nameError?_eq_some_iff, and_comm (b := ∀ _ ∈ _, _)]
  rw [withTemplates, extend_eq, ← hsome]
  cases pairs.findSome? fun p => nameError? p.1 <;> simp

lemma exists_withTemplates_iff {pairs : List Entry} :
    (∃ t, withTemplates pairs = .ok t) ↔ ∀ p ∈ pairs, Allowed p.1 := by
  simp only [withTemplates_eq_ok_iff]
  exact ⟨fun ⟨_, h, _⟩ => h, fun h => ⟨_, h, rfl⟩⟩

section Added

variable {pairs : List Entry} (h : withTemplates pairs = .ok t)
include h

lemma allowed_of_lookup {name : String} (hn : (pairs.reverse.lookup name).isSome = true) :
    Allowed name := by
  obtain ⟨fragment, hf⟩ := Option.isSome_iff_exists.mp hn
  obtain ⟨before, behind, hsplit, -⟩ := List.lookup_eq_some_iff.mp hf
  have hmem : (name, fragment) ∈ pairs := by
    rw [← List.mem_reverse, hsplit]
    simp
  exact (withTemplates_eq_ok_iff.mp h).1 _ hmem

lemma lookup_withTemplates (name : String) :
    t.lookup name = (builtin.lookup name).or (pairs.reverse.lookup name) := by
  obtain ⟨-, rfl⟩ := withTemplates_eq_ok_iff.mp h
  rw [lookup_foldl_insert]
  cases hp : pairs.reverse.lookup name with
  | none => simp
  | some fragment =>
    have hallowed : Allowed name := allowed_of_lookup h (by simp [hp])
    have hb : builtin.lookup name = none := by
      rw [← Option.not_isSome_iff_eq_none, ← mem_names_iff]
      exact hallowed.not_builtin
    simp [hb]

lemma mem_names_withTemplates {name : String} :
    name ∈ t.entries.map Prod.fst ↔ name ∈ builtinNames ∨ name ∈ pairs.map Prod.fst := by
  have hlisted : (pairs.reverse.lookup name).isSome = true ↔ name ∈ pairs.map Prod.fst := by
    rw [List.lookup_isSome_iff]
    simp
  rw [mem_names_iff, lookup_withTemplates h, Option.isSome_or, Bool.or_eq_true, hlisted,
    builtinNames, mem_names_iff]

lemma entries_withTemplates_perm (hn : (pairs.map Prod.fst).Nodup) :
    t.entries.Perm (builtin.entries ++ pairs) := by
  have hdisjoint : builtin.entries.Disjoint pairs := by
    intro e hb hp
    exact ((withTemplates_eq_ok_iff.mp h).1 e hp).not_builtin (List.mem_map_of_mem hb)
  have hnodup : (builtin.entries ++ pairs).Nodup :=
    builtin.names_nodup.of_map.append hn.of_map hdisjoint
  rw [List.perm_ext_iff_of_nodup t.names_nodup.of_map hnodup]
  rintro ⟨name, fragment⟩
  rw [mem_entries_iff, lookup_withTemplates h, lookup_reverse_perm (.refl pairs) hn,
    List.mem_append, mem_entries_iff, mem_iff_lookup_of_nodup hn, Option.or_eq_some_iff]
  constructor
  · exact Or.imp_right And.right
  · intro hshown
    rcases hshown with hb | hp
    · exact .inl hb
    · have hmem : (name, fragment) ∈ pairs := (mem_iff_lookup_of_nodup hn).mpr hp
      have hnot := ((withTemplates_eq_ok_iff.mp h).1 _ hmem).not_builtin
      rw [builtinNames, mem_names_iff, Option.not_isSome_iff_eq_none] at hnot
      exact .inr ⟨hnot, hp⟩

lemma size_withTemplates : t.size = 6 + (pairs.map Prod.fst).dedup.length := by
  have hdisjoint : builtinNames.Disjoint (pairs.map Prod.fst).dedup := by
    intro name hb hp
    obtain ⟨p, hmem, rfl⟩ := List.mem_map.mp (List.mem_dedup.mp hp)
    exact ((withTemplates_eq_ok_iff.mp h).1 p hmem).not_builtin hb
  have hnodup : (builtinNames ++ (pairs.map Prod.fst).dedup).Nodup :=
    builtin.names_nodup.append (List.nodup_dedup _) hdisjoint
  have hperm : (t.entries.map Prod.fst).Perm (builtinNames ++ (pairs.map Prod.fst).dedup) := by
    rw [List.perm_ext_iff_of_nodup t.names_nodup hnodup]
    intro name
    rw [mem_names_withTemplates h, List.mem_append, List.mem_dedup]
  have hsix : builtinNames.length = 6 := by decide +kernel
  have hlength := hperm.length_eq
  rw [List.length_map, List.length_append, hsix] at hlength
  exact hlength

end Added

lemma toOption_withTemplates_perm {pairs others : List Entry} (h : pairs.Perm others)
    (hn : (pairs.map Prod.fst).Nodup) :
    (withTemplates others).toOption = (withTemplates pairs).toOption := by
  cases hp : withTemplates pairs with
  | ok t =>
    have hallowed : ∀ p ∈ others, Allowed p.1 := fun p hmem =>
      (withTemplates_eq_ok_iff.mp hp).1 p (h.mem_iff.mpr hmem)
    obtain ⟨t', ht'⟩ := exists_withTemplates_iff.mpr hallowed
    have heq : t' = t := by
      apply eq_of_lookup_eq
      intro name
      rw [lookup_withTemplates ht', lookup_withTemplates hp, lookup_reverse_perm h hn,
        lookup_reverse_perm (.refl pairs) hn]
    rw [ht', heq]
  | error e =>
    cases ho : withTemplates others with
    | error e' => rfl
    | ok t' =>
      have hallowed : ∀ p ∈ pairs, Allowed p.1 := fun p hmem =>
        (withTemplates_eq_ok_iff.mp ho).1 p (h.mem_iff.mp hmem)
      obtain ⟨t, ht⟩ := exists_withTemplates_iff.mpr hallowed
      rw [hp] at ht
      cases ht

/-- Templates can be added exactly if all their names are allowed, and the first name that is not
decides what is said. The table then holds the built-in templates and those that were added, each with
the last fragment given for it; with names given once, in whatever order. -/
theorem withTemplates_iff_allowed (pairs : List Entry) :
    ((∃ t, withTemplates pairs = .ok t) ↔ ∀ p ∈ pairs, Allowed p.1) ∧
    (∀ e, withTemplates pairs = .error e ↔ ∃ before p behind, pairs = before ++ p :: behind ∧
      (∀ q ∈ before, Allowed q.1) ∧ Faulty p.1 e) ∧
    (∀ t, withTemplates pairs = .ok t →
      (∀ name, t.lookup name = (builtin.lookup name).or (pairs.reverse.lookup name)) ∧
      t.entries.Pairwise (·.1 < ·.1) ∧
      (∀ name fragment, (name, fragment) ∈ t.entries ↔ t.lookup name = some fragment) ∧
      t.size = 6 + (pairs.map Prod.fst).dedup.length) ∧
    ∀ others, pairs.Perm others → (pairs.map Prod.fst).Nodup →
      (withTemplates others).toOption = (withTemplates pairs).toOption := by
  refine ⟨exists_withTemplates_iff, fun e => withTemplates_eq_error_iff, fun t h => ?_,
    fun others h hn => toOption_withTemplates_perm h hn⟩
  exact ⟨lookup_withTemplates h, t.increasing, fun _ _ => mem_entries_iff, size_withTemplates h⟩

end Table

end TemplateGrep.Template
