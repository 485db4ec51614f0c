import Mathlib
import TemplateGrep.Search.Matcher

namespace TemplateGrep.Matcher

open Template (PatternOptions Table)

variable {table : Table} {options : PatternOptions}

def CompilesTo (table : Table) (options : PatternOptions) (raw : String) (p : CompiledPattern) :
    Prop :=
  table.prepare options raw = .ok p.source ∧ Regex.compile p.source = .ok p.regex

def Compiles (table : Table) (options : PatternOptions) (raw : String) : Prop :=
  ∃ text r, table.prepare options raw = .ok text ∧ Regex.compile text = .ok r

inductive Refusal (table : Table) (options : PatternOptions) (index : Nat) (raw : String) :
    Failure → Prop
  | template {e} : table.prepare options raw = .error e →
      Refusal table options index raw (.template index e)
  | regex {text e} : table.prepare options raw = .ok text → Regex.compile text = .error e →
      Refusal table options index raw (.regex text e)

def FirstRefusal (table : Table) (options : PatternOptions) (index : Nat) (raws : List String)
    (f : Failure) : Prop :=
  ∃ before raw behind, raws = before ++ raw :: behind ∧
    (∀ r ∈ before, Compiles table options r) ∧
    Refusal table options (index + before.length) raw f

lemma compileOne_eq_ok_iff (index : Nat) {raw : String} {p : CompiledPattern} :
    compileOne table options index raw = .ok p ↔ CompilesTo table options raw p := by
  obtain ⟨source, regex⟩ := p
  rw [compileOne, CompilesTo]
  cases table.prepare options raw with
  | error e => simp
  | ok text =>
    dsimp only
    constructor
    · intro h
      split at h
      case h_1 => cases h
      case h_2 r hr =>
        cases h
        exact ⟨rfl, hr⟩
    · rintro ⟨htext, hregex⟩
      obtain rfl := Except.ok.inj htext
      rw [hregex]

lemma CompilesTo.unique {raw : String} {p q : CompiledPattern}
    (hp : CompilesTo table options raw p) (hq : CompilesTo table options raw q) : p = q :=
  Except.ok.inj
    (((compileOne_eq_ok_iff 0).mpr hp).symm.trans ((compileOne_eq_ok_iff 0).mpr hq))

lemma compileOne_eq_error_iff {index : Nat} {raw : String} {f : Failure} :
    compileOne table options index raw = .error f ↔ Refusal table options index raw f := by
  rw [compileOne]
  constructor
  · intro h
    split at h
    case h_1 e hp =>
      cases h
      exact .template hp
    case h_2 text hp =>
      split at h
      case h_1 e hr =>
        cases h
        exact .regex hp hr
      case h_2 => cases h
  · intro h
    cases h with
    | template hp => rw [hp]
    | regex hp hr =>
      rw [hp]
      dsimp only
      rw [hr]

lemma compiles_iff (index : Nat) {raw : String} :
    Compiles table options raw ↔ ∃ p, compileOne table options index raw = .ok p := by
  simp only [compileOne_eq_ok_iff]
  exact ⟨fun ⟨text, r, h⟩ => ⟨⟨text, r⟩, h⟩, fun ⟨p, h⟩ => ⟨p.source, p.regex, h⟩⟩

lemma Refusal.not_compiles {index : Nat} {raw : String} {f : Failure}
    (h : Refusal table options index raw f) : ¬ Compiles table options raw := by
  rw [compiles_iff index, compileOne_eq_error_iff.mpr h]
  simp

namespace FirstRefusal

variable {index : Nat} {raw : String} {raws : List String} {f : Failure}

lemma not_nil : ¬ FirstRefusal table options index [] f := by
  rintro ⟨before, raw, behind, h, -⟩
  simp at h

lemma cons_of_refusal {g : Failure} (h : Refusal table options index raw g) :
    FirstRefusal table options index (raw :: raws) f ↔ Refusal table options index raw f := by
  constructor
  · rintro ⟨before, r, behind, hsplit, hb, hr⟩
    cases before with
    | nil =>
      obtain ⟨rfl, -⟩ := List.cons.inj hsplit
      simpa using hr
    | cons b before =>
      obtain ⟨rfl, -⟩ := List.cons.inj hsplit
      exact absurd (hb raw List.mem_cons_self) h.not_compiles
  · exact fun hr => ⟨[], raw, raws, rfl, by simp, by simpa using hr⟩

lemma cons_of_compiles (hc : Compiles table options raw) :
    FirstRefusal table options index (raw :: raws) f ↔
      FirstRefusal table options (index + 1) raws f := by
  constructor
  · rintro ⟨before, r, behind, h, hb, hr⟩
    cases before with
    | nil =>
      obtain ⟨rfl, -⟩ := List.cons.inj h
      exact absurd hc hr.not_compiles
    | cons b before =>
      obtain ⟨rfl, rfl⟩ := List.cons.inj h
      refine ⟨before, r, behind, rfl, fun r hr => hb r (List.mem_cons_of_mem _ hr), ?_⟩
      simpa [Nat.add_assoc, Nat.add_comm 1] using hr
  · rintro ⟨before, r, behind, rfl, hb, hr⟩
    refine ⟨raw :: before, r, behind, rfl, ?_, ?_⟩
    · simpa using ⟨hc, hb⟩
    · simpa [Nat.add_assoc, Nat.add_comm 1] using hr

end FirstRefusal

lemma compileFrom_eq_some_iff {index : Nat} {raws : List String} {f : Failure} :
    (compileFrom table options index raws).2 = some f ↔
      FirstRefusal table options index raws f := by
  induction raws generalizing index with
  | nil => exact iff_of_false (by simp [compileFrom]) FirstRefusal.not_nil
  | cons raw rest ih =>
    rw [compileFrom]
    cases h : compileOne table options index raw with
    | error g =>
      rw [FirstRefusal.cons_of_refusal (compileOne_eq_error_iff.mp h), ← compileOne_eq_error_iff, h]
      simp
    | ok p => exact ih.trans (FirstRefusal.cons_of_compiles ((compiles_iff _).mpr ⟨p, h⟩)).symm

lemma compile_eq_error_iff {raws : List String} {f : Failure} :
    compile table options raws = .error f ↔ FirstRefusal table options 0 raws f := by
  rw [← compileFrom_eq_some_iff, compile]
  rcases compileFrom table options 0 raws with ⟨ps, _ | g⟩ <;> simp

lemma compileFrom_eq_iff (index : Nat) {raws : List String} {ps : List CompiledPattern} :
    compileFrom table options index raws = (ps, none) ↔
      List.Forall₂ (CompilesTo table options) raws ps := by
  induction raws generalizing index ps with
  | nil => simp [compileFrom, eq_comm]
  | cons raw rest ih =>
    rw [compileFrom, List.forall₂_cons_left_iff]
    simp only [← ih (index + 1), ← compileOne_eq_ok_iff index]
    cases compileOne table options index raw with
    | error f => simp
    | ok p =>
      rcases compileFrom table options (index + 1) rest with ⟨qs, f⟩
      simp [eq_comm, and_comm]

lemma compile_eq_ok_iff {raws : List String} {m : Matcher} :
    compile table options raws = .ok m ↔
      List.Forall₂ (CompilesTo table options) raws m.patterns := by
  obtain ⟨patterns⟩ := m
  rw [← compileFrom_eq_iff 0, compile]
  rcases compileFrom table options 0 raws with ⟨ps, _ | f⟩ <;> simp

lemma forall₂_sources {raws : List String} {m : Matcher} (h : compile table options raws = .ok m) :
    List.Forall₂ (fun raw text => table.prepare options raw = .ok text) raws m.sources := by
  rw [sources, List.forall₂_map_right_iff]
  exact (compile_eq_ok_iff.mp h).imp fun _ _ hp => hp.1

lemma exists_compile_cons_iff {raw : String} {raws : List String} :
    (∃ m, compile table options (raw :: raws) = .ok m) ↔
      Compiles table options raw ∧ ∃ m, compile table options raws = .ok m := by
  simp only [compile_eq_ok_iff, compiles_iff 0, compileOne_eq_ok_iff]
  constructor
  · rintro ⟨⟨patterns⟩, h⟩
    obtain ⟨p, ps, hp, hps, -⟩ := List.forall₂_cons_left_iff.mp h
    exact ⟨⟨p, hp⟩, ⟨ps⟩, hps⟩
  · rintro ⟨⟨p, hp⟩, ⟨ps⟩, hps⟩
    exact ⟨⟨p :: ps⟩, .cons hp hps⟩

lemma exists_compile_iff {raws : List String} :
    (∃ m, compile table options raws = .ok m) ↔ ∀ raw ∈ raws, Compiles table options raw := by
  induction raws with
  | nil => exact iff_of_true ⟨⟨[]⟩, rfl⟩ (by simp)
  | cons raw raws ih => rw [exists_compile_cons_iff, ih, List.forall_mem_cons]

lemma firstRefusal_iff {index : Nat} {raws : List String} {f : Failure} :
    FirstRefusal table options index raws f ↔ ∃ k raw, raws[k]? = some raw ∧
      (∀ r ∈ raws.take k, Compiles table options r) ∧ Refusal table options (index + k) raw f := by
  constructor
  · rintro ⟨before, raw, behind, rfl, hb, hr⟩
    refine ⟨before.length, raw, ?_, ?_, hr⟩
    · simp
    · simpa using hb
  · rintro ⟨k, raw, hk, hb, hr⟩
    obtain ⟨hlt, rfl⟩ := List.getElem?_eq_some_iff.mp hk
    refine ⟨raws.take k, raws[k], raws.drop (k + 1), ?_, hb, ?_⟩
    · rw [← List.drop_eq_getElem_cons hlt, List.take_append_drop]
    · rwa [List.length_take_of_le hlt.le]

/-- A list of patterns is accepted if each of them is on its own, and the sources of the matcher are the
prepared patterns. If not, the first pattern that is not accepted decides what is said, whatever stands
behind it. -/
theorem compile_iff_each (table : Table) (options : PatternOptions) (raws : List String) :
    ((∃ m, compile table options raws = .ok m) ↔ ∀ raw ∈ raws, Compiles table options raw) ∧
    (∀ m, compile table options raws = .ok m →
      m.sources.map Except.ok = raws.map (table.prepare options)) ∧
    (∀ f, compile table options raws = .error f ↔ ∃ k raw, raws[k]? = some raw ∧
      (∀ r ∈ raws.take k, Compiles table options r) ∧ Refusal table options k raw f) ∧
    ∀ k raw f, raws[k]? = some raw → (∀ r ∈ raws.take k, Compiles table options r) →
      Refusal table options k raw f →
        ∀ others, compile table options (raws.take (k + 1) ++ others) = .error f := by
  refine ⟨exists_compile_iff, fun m hm => ?_, fun f => ?_, fun k raw f hk hb hr others => ?_⟩
  · have hsources := forall₂_sources hm
    rw [← List.forall₂_eq_eq_eq, List.forall₂_map_left_iff, List.forall₂_map_right_iff]
    exact hsources.flip.imp fun _ _ h => h.symm
  · rw [compile_eq_error_iff, firstRefusal_iff]
    simp only [Nat.zero_add]
  · obtain ⟨hlt, rfl⟩ := List.getElem?_eq_some_iff.mp hk
    have hlength : (raws.take k).length = k := List.length_take_of_le hlt.le
    rw [List.take_succ_eq_append_getElem hlt, List.append_assoc]
    apply compile_eq_error_iff.mpr
    refine ⟨raws.take k, raws[k], others, rfl, hb, ?_⟩
    rwa [hlength, Nat.zero_add]

example : compile .builtin {} ["a", "\x7b\x7b(\x7d\x7d", "\x7b\x7bint"] =
    .error (.regex "(" .malformed) := by
  decide +kernel

end TemplateGrep.Matcher
