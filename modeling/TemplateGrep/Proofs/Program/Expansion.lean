import Mathlib
import TemplateGrep.Program.Expand
import TemplateGrep.Proofs.Program.Output
import TemplateGrep.Proofs.Search.Compilation

namespace TemplateGrep

open Template (ExpandError PatternOptions Table)

def Template.Table.ExpandAll (t : Table) (patterns texts : List String) : Prop :=
  List.Forall₂ (fun pattern text => t.expand pattern = .ok text) patterns texts

lemma Template.Table.ExpandAll.exists_text {t : Table} {patterns texts : List String}
    (h : t.ExpandAll patterns texts) {pattern : String} (hp : pattern ∈ patterns) :
    ∃ text, t.expand pattern = .ok text := by
  induction h with
  | nil => cases hp
  | cons htext _ ih =>
    rcases List.mem_cons.mp hp with rfl | hp
    · exact ⟨_, htext⟩
    · exact ih hp

namespace Expand

inductive Prints (t : Table) (patterns texts : List String) : Option Stop → Prop
  | all : t.ExpandAll patterns texts → Prints t patterns texts none
  | upTo (before : List String) {pattern} (behind : List String) {e} :
      patterns = before ++ pattern :: behind →
      t.ExpandAll before texts → t.expand pattern = .error e →
      Prints t patterns texts (some (.pattern before.length e))

def printed (texts : List String) : Bytes :=
  (texts.map Bytes.ofString).flatMap (· ++ [Bytes.newline])

def writes (texts : List String) : List Bytes :=
  (texts.map Bytes.ofString).flatMap fun line => [line, [Bytes.newline]]

variable {t : Table} {patterns texts : List String}

lemma exists_prints (t : Table) (patterns : List String) :
    ∃ texts stop, Prints t patterns texts stop := by
  induction patterns with
  | nil => exact ⟨[], none, .all .nil⟩
  | cons pattern rest ih =>
    cases hp : t.expand pattern with
    | error e => exact ⟨[], _, .upTo [] rest rfl .nil hp⟩
    | ok text =>
      obtain ⟨texts, stop, h⟩ := ih
      cases h with
      | all h => exact ⟨text :: texts, none, .all (.cons hp h)⟩
      | upTo before behind hsplit h he =>
        refine ⟨text :: texts, _, .upTo (pattern :: before) behind ?_ (.cons hp h) he⟩
        rw [hsplit, List.cons_append]

lemma Prints.stop_eq_none_iff {stop : Option Stop} (h : Prints t patterns texts stop) :
    stop = none ↔ ∀ pattern ∈ patterns, ∃ text, t.expand pattern = .ok text := by
  cases h with
  | all h => exact iff_of_true rfl fun pattern hp => h.exists_text hp
  | @upTo _ pattern _ _ hsplit _ he =>
    refine iff_of_false (by simp) fun hall => ?_
    obtain ⟨text, htext⟩ := hall pattern (by simp [hsplit])
    simp [he] at htext

lemma writeAll_append (h : t.ExpandAll patterns texts) (rest : List String) (index : Nat)
    (s : Sink) :
    writeAll t index (patterns ++ rest) s =
      match Sink.writeAll (writes texts) s with
      | (s, some f) => (s, some (.output f))
      | (s, none) => writeAll t (index + patterns.length) rest s := by
  induction h generalizing index s with
  | nil => rfl
  | @cons pattern text patterns texts hp _ ih =>
    have hcons : writes (text :: texts) =
        [Bytes.ofString text, [Bytes.newline]] ++ writes texts := List.flatMap_cons
    rw [List.cons_append, writeAll, hp, hcons, Sink.writeAll_append]
    dsimp only
    rw [Sink.writeLine_eq_writeAll]
    rcases Sink.writeAll [Bytes.ofString text, [Bytes.newline]] s with ⟨u, _ | f⟩
    · dsimp only
      rw [ih, List.length_cons, Nat.add_assoc, Nat.add_comm 1]
    · rfl

lemma Prints.exists_writeAll {stop : Option Stop} (h : Prints t patterns texts stop) {s : Sink}
    (hs : s.room = none) :
    ∃ u, writeAll t 0 patterns s = (u, stop) ∧ u.close = s.close ++ printed texts := by
  obtain ⟨u, hw, hu⟩ := Sink.exists_writeAll hs (writes texts)
  refine ⟨u, ?_, by rw [hu.close, writes, Matcher.flatten_lineWrites, printed]⟩
  cases h with
  | all h =>
    have happend := writeAll_append h [] 0 s
    rw [List.append_nil, hw] at happend
    exact happend
  | upTo before behind hsplit h he =>
    rw [hsplit, writeAll_append h, hw]
    simp [writeAll, he]

lemma compileOne_of_expand {u : Table} {pattern text : String} (h : t.expand pattern = .ok text)
    (index : Nat) :
    Matcher.compileOne t {} index pattern =
      Matcher.compileOne u { noTemplate := true } index text := by
  have hprepare : t.prepare {} pattern = .ok text := h
  have hplain : u.prepare { noTemplate := true } text = .ok text := rfl
  rw [Matcher.compileOne, Matcher.compileOne, hprepare, hplain]

lemma compileFrom_of_expandAll (h : t.ExpandAll patterns texts) (u : Table) (index : Nat) :
    Matcher.compileFrom t {} index patterns =
      Matcher.compileFrom u { noTemplate := true } index texts := by
  induction h generalizing index with
  | nil => rfl
  | cons hp _ ih =>
    rw [Matcher.compileFrom, Matcher.compileFrom, compileOne_of_expand hp, ih]

lemma compile_of_expandAll (h : t.ExpandAll patterns texts) (u : Table) :
    Matcher.compile t {} patterns = Matcher.compile u { noTemplate := true } texts := by
  rw [Matcher.compile, Matcher.compile, compileFrom_of_expandAll h u]

lemma sources_of_expandAll (h : t.ExpandAll patterns texts) {m : Matcher}
    (hm : Matcher.compile t {} patterns = .ok m) : m.sources = texts := by
  refine List.right_unique_forall₂' ?_ (Matcher.forall₂_sources hm) h
  intro pattern text other htext hother
  exact Except.ok.inj (htext.symm.trans hother)

end Expand

lemma patternsAndFiles?_of_patterns {a : Arguments} {patterns : List String}
    (h : a.patterns = patterns) (hne : patterns ≠ []) :
    a.patternsAndFiles? = some (patterns, a.operands) := by
  simp [Arguments.patternsAndFiles?, h, hne]

namespace Search

lemma script_eq_patternsScript {a : Arguments} {inputs : Inputs} {c : Config} {t : Table}
    {patterns files : List String} (hc : Config.resolve inputs.openFile a.config = .ok c)
    (ht : c.table = .ok t) (hl : a.listTemplates = false)
    (hp : a.patternsAndFiles? = some (patterns, files)) :
    script a inputs = patternsScript t (patternOptions a c) patterns files inputs := by
  simp [script, hc, ht, scriptWith, hl, hp]

end Search

namespace Expand

open Search (patternOptions)

/-- What is written is what is printed, and it ends in front of the first pattern that cannot be
expanded. If all can be expanded, the printed texts are the regexes of the search program, and a search
for them without templating is the search for the patterns. -/
theorem run_prints_compiled {c : Config} {t : Table} (ht : c.table = .ok t)
    (hword : c.wordBoundary = false) (hcase : c.ignoreCase = false) (hplain : c.noTemplate = false)
    {s : Sink} (hs : s.room = none) (patterns : List String) :
    (∃ texts stop, Prints t patterns texts stop) ∧
    (∀ texts stop, Prints t patterns texts stop →
      (stop = none ↔ ∀ pattern ∈ patterns, ∃ text, t.expand pattern = .ok text) ∧
      ∃ u, writeAll t 0 patterns s = (u, stop) ∧ u.close = s.close ++ printed texts ∧
        ∀ openFile path, Config.resolve openFile path = .ok c →
          (run { operands := patterns, config := path } openFile s).2 = (u, stop)) ∧
    ∀ texts, t.ExpandAll patterns texts →
      (∀ m, Matcher.compile t (patternOptions {} c) patterns = .ok m → m.sources = texts) ∧
      Matcher.compile t (patternOptions {} c) patterns =
        Matcher.compile t (patternOptions { noTemplate := true } c) texts ∧
      ∀ inputs path files v, Config.resolve inputs.openFile path = .ok c → patterns ≠ [] →
        (Search.run { patterns, operands := files, config := path } inputs v).ending =
          (Search.run { patterns := texts, operands := files, config := path, noTemplate := true }
            inputs v).ending := by
  have hoptions : ∀ a : Arguments, patternOptions a c =
      { wordBoundary := a.wordBoundary, ignoreCase := a.ignoreCase, noTemplate := a.noTemplate } := by
    intro a
    simp [patternOptions, hword, hcase, hplain]
  refine ⟨exists_prints t patterns, fun texts stop h => ⟨h.stop_eq_none_iff, ?_⟩, fun texts h => ?_⟩
  · obtain ⟨u, hw, hu⟩ := h.exists_writeAll hs
    refine ⟨u, hw, hu, fun openFile path hc => ?_⟩
    simp only [run, hc, ht, hw]
  · have hcompile := compile_of_expandAll h t
    rw [hoptions, hoptions]
    refine ⟨fun m hm => sources_of_expandAll h hm, hcompile, fun inputs path files v hc hne => ?_⟩
    have hne' : texts ≠ [] := by
      rintro rfl
      cases h
      exact hne rfl
    have hscript := Search.script_eq_patternsScript
      (a := { patterns, operands := files, config := path }) hc ht rfl
      (patternsAndFiles?_of_patterns rfl hne)
    have hscript' := Search.script_eq_patternsScript
      (a := { patterns := texts, operands := files, config := path, noTemplate := true }) hc ht rfl
      (patternsAndFiles?_of_patterns rfl hne')
    rw [Search.ending_run, Search.ending_run, hscript, hscript', hoptions, hoptions,
      Search.patternsScript, Search.patternsScript, hcompile]

theorem run_prints_compiled_host :
    ∃ (c : Config) (t : Table), c.table = .ok t ∧ c.wordBoundary = false ∧ c.ignoreCase = false ∧
      c.noTemplate = false ∧ ({} : Sink).room = none ∧
      (∃ u, writeAll t 0 ["\x7b\x7bhost\x7d\x7d$", "int", "a\x7b\x7b"] {} =
          (u, some (.pattern 2 (.unclosed 1))) ∧
        u.close = printed ["[a-z.]+\\$", "-?[0-9]+"]) ∧
      Matcher.compile t (patternOptions {} c) ["\x7b\x7bhost\x7d\x7d$", "int"] =
        Matcher.compile t (patternOptions { noTemplate := true } c) ["[a-z.]+\\$", "-?[0-9]+"] := by
  have ht : Config.table { templates := .ofList [("host", "[a-z.]+")] } =
      .ok (Table.builtin.insert "host" "[a-z.]+") := by decide +kernel
  have hhost : (Table.builtin.insert "host" "[a-z.]+").expand "\x7b\x7bhost\x7d\x7d$" =
      .ok "[a-z.]+\\$" := by decide +kernel
  have hint : (Table.builtin.insert "host" "[a-z.]+").expand "int" = .ok "-?[0-9]+" := by
    decide +kernel
  have hopen : (Table.builtin.insert "host" "[a-z.]+").expand "a\x7b\x7b" =
      .error (.unclosed 1) := by decide +kernel
  have hall : (Table.builtin.insert "host" "[a-z.]+").ExpandAll
      ["\x7b\x7bhost\x7d\x7d$", "int"] ["[a-z.]+\\$", "-?[0-9]+"] := .cons hhost (.cons hint .nil)
  obtain ⟨-, hprints, -⟩ := run_prints_compiled ht rfl rfl rfl (s := {}) rfl
    ["\x7b\x7bhost\x7d\x7d$", "int", "a\x7b\x7b"]
  obtain ⟨-, u, hw, hclose, -⟩ := hprints _ _ (.upTo _ [] rfl hall hopen)
  obtain ⟨-, -, hcompiles⟩ := run_prints_compiled ht rfl rfl rfl (s := {}) rfl
    ["\x7b\x7bhost\x7d\x7d$", "int"]
  exact ⟨_, _, ht, rfl, rfl, rfl, rfl, ⟨u, hw, hclose⟩, (hcompiles _ hall).2.1⟩

end Expand

end TemplateGrep
