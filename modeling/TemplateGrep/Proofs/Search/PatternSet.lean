import Mathlib
import TemplateGrep.Proofs.Search.Compilation
import TemplateGrep.Proofs.Search.Filtering

namespace TemplateGrep.Matcher

open Template (PatternOptions Table)

variable {table : Table} {options : PatternOptions}

def Selects (table : Table) (options : PatternOptions) (raw : String) (line : Bytes) : Prop :=
  ∃ p, CompilesTo table options raw p ∧ p.regex.isMatch ⟨line.toArray⟩ = true

lemma any_isMatch_iff {raws : List String} {ps : List CompiledPattern} {line : Bytes}
    (h : List.Forall₂ (CompilesTo table options) raws ps) :
    (∃ p ∈ ps, p.regex.isMatch ⟨line.toArray⟩ = true) ↔
      ∃ raw ∈ raws, Selects table options raw line := by
  induction h with
  | nil => simp
  | @cons raw p raws ps hp _ ih =>
    have hhead : p.regex.isMatch ⟨line.toArray⟩ = true ↔ Selects table options raw line := by
      refine ⟨fun hm => ⟨p, hp, hm⟩, fun ⟨q, hq, hm⟩ => ?_⟩
      rwa [hp.unique hq]
    simp only [List.exists_mem_cons_iff, hhead, ih]

lemma isMatch_iff_exists_selects {raws : List String} {m : Matcher}
    (h : compile table options raws = .ok m) (line : Bytes) :
    m.isMatch line = true ↔ ∃ raw ∈ raws, Selects table options raw line := by
  rw [isMatch, List.any_eq_true, any_isMatch_iff (compile_eq_ok_iff.mp h)]

lemma filter_congr {m m' : Matcher} (h : ∀ line, m.isMatch line = m'.isMatch line) (name : String)
    (source : Source) (s : Sink) : m.filter name source s = m'.filter name source s := by
  have hmatch : m.isMatch = m'.isMatch := funext h
  simp only [filter_eq_perform, filterScript, matching, hmatch]

/-- Lists with the same patterns are accepted together, and their matchers do the same. A joined list is
accepted if both parts are, and matches what either part matches; so its matcher copies what that of a
part copies, maybe with other lines between, and no line of the input twice. -/
theorem compile_sameSet (table : Table) (options : PatternOptions) :
    (∀ raws others : List String, (∀ raw, raw ∈ raws ↔ raw ∈ others) →
      ((∃ m, compile table options raws = .ok m) ↔ ∃ m, compile table options others = .ok m) ∧
      ∀ m m', compile table options raws = .ok m → compile table options others = .ok m' →
        (∀ line, m.isMatch line = m'.isMatch line) ∧
          ∀ name source s, m.filter name source s = m'.filter name source s) ∧
    ∀ raws others : List String,
      ((∃ m, compile table options (raws ++ others) = .ok m) ↔
        (∃ m, compile table options raws = .ok m) ∧ ∃ m, compile table options others = .ok m) ∧
      ∀ m m₁ m₂, compile table options (raws ++ others) = .ok m →
        compile table options raws = .ok m₁ → compile table options others = .ok m₂ →
        (∀ line, m.isMatch line = (m₁.isMatch line || m₂.isMatch line)) ∧
          ∀ name chunks s, s.room = none → ∃ few many : List Bytes,
            m₁.Copies name ⟨chunks, none⟩ s few ∧ m.Copies name ⟨chunks, none⟩ s many ∧
              few.Sublist many ∧ many.Sublist ((Bytes.lines chunks.flatten).map Bytes.chomp) := by
  refine ⟨fun raws others hset => ⟨?_, fun m m' hm hm' => ?_⟩, fun raws others =>
    ⟨?_, fun m m₁ m₂ hm hm₁ hm₂ => ?_⟩⟩
  · simp only [exists_compile_iff, hset]
  · have hmatch : ∀ line, m.isMatch line = m'.isMatch line := by
      intro line
      rw [Bool.eq_iff_iff, isMatch_iff_exists_selects hm, isMatch_iff_exists_selects hm']
      simp only [hset]
    exact ⟨hmatch, filter_congr hmatch⟩
  · simp only [exists_compile_iff, List.forall_mem_append]
  · have hmatch : ∀ line, m.isMatch line = (m₁.isMatch line || m₂.isMatch line) := by
      intro line
      rw [Bool.eq_iff_iff, Bool.or_eq_true, isMatch_iff_exists_selects hm,
        isMatch_iff_exists_selects hm₁, isMatch_iff_exists_selects hm₂]
      simp only [List.mem_append, or_and_right, exists_or]
    refine ⟨hmatch, fun name chunks s hs => ?_⟩
    have hmore : ∀ line, m₁.isMatch line = true → m.isMatch line = true := fun line h => by
      rw [hmatch, h, Bool.true_or]
    exact ⟨_, _, exists_filter_eq m₁ hs name chunks, exists_filter_eq m hs name chunks,
      List.monotone_filter_right _ hmore, List.filter_sublist⟩

theorem compile_sameSet_repeated :
    (∀ raw, raw ∈ ["a", "\x7b\x7bb*\x7d\x7d$"] ↔
      raw ∈ ["\x7b\x7bb*\x7d\x7d$", "a", "\x7b\x7bb*\x7d\x7d$"]) ∧
    ({} : Sink).room = none ∧
    ∃ m m' m₁ m₂, compile .builtin {} ["a", "\x7b\x7bb*\x7d\x7d$"] = .ok m ∧
      compile .builtin {} ["\x7b\x7bb*\x7d\x7d$", "a", "\x7b\x7bb*\x7d\x7d$"] = .ok m' ∧
      compile .builtin {} ["a"] = .ok m₁ ∧ compile .builtin {} ["\x7b\x7bb*\x7d\x7d$"] = .ok m₂ ∧
      (∀ line, m.isMatch line = m'.isMatch line) ∧
      (∀ line, m.isMatch line = (m₁.isMatch line || m₂.isMatch line)) ∧
      ∃ few many : List Bytes,
        m₁.Copies stdinName ⟨[[0x62, 0x24, 0x0A, 0x61]], none⟩ {} few ∧
        m.Copies stdinName ⟨[[0x62, 0x24, 0x0A, 0x61]], none⟩ {} many ∧ few.Sublist many := by
  have hset : ∀ raw, raw ∈ ["a", "\x7b\x7bb*\x7d\x7d$"] ↔
      raw ∈ ["\x7b\x7bb*\x7d\x7d$", "a", "\x7b\x7bb*\x7d\x7d$"] := by
    simp [or_comm]
  have hs : ({} : Sink).room = none := rfl
  have hm : compile .builtin {} ["a", "\x7b\x7bb*\x7d\x7d$"] =
      .ok ⟨[⟨"a", .literal [0x61]⟩,
        ⟨"b*\\$", .concat (.repetition (.literal [0x62]) 0 none) (.literal [0x24])⟩]⟩ := by
    decide +kernel
  obtain ⟨hsame, hjoined⟩ := compile_sameSet .builtin {}
  obtain ⟨haccepts, hsame⟩ := hsame _ _ hset
  obtain ⟨m', hm'⟩ := haccepts.mp ⟨_, hm⟩
  obtain ⟨hparts, hjoined⟩ := hjoined ["a"] ["\x7b\x7bb*\x7d\x7d$"]
  obtain ⟨⟨m₁, hm₁⟩, m₂, hm₂⟩ := hparts.mp ⟨_, hm⟩
  obtain ⟨hmatch, hcopies⟩ := hjoined _ m₁ m₂ hm hm₁ hm₂
  obtain ⟨few, many, hfew, hmany, hmore, -⟩ :=
    hcopies stdinName [[0x62, 0x24, 0x0A, 0x61]] {} hs
  exact ⟨hset, hs, _, m', m₁, m₂, hm, hm', hm₁, hm₂, (hsame _ m' hm hm').1, hmatch, few, many, hfew,
    hmany, hmore⟩

end TemplateGrep.Matcher
