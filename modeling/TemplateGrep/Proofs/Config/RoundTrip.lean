import Mathlib
import TemplateGrep.Proofs.Config.Validity
import TemplateGrep.Proofs.Yaml.Mapping
import TemplateGrep.Config.Writer

namespace TemplateGrep.Config

open Template (Entry Table)
open Yaml Yaml.LexerState

/-! ### Tokens -/

def flagText (value : Bool) : String := if value then "true" else "false"

abbrev Flag := String × Bool

def flags (c : Config) : List Flag :=
  [("ignore_case", c.ignoreCase), ("word_boundary", c.wordBoundary), ("no_template", c.noTemplate)]

def flagEntry (f : Flag) : String × String := (f.1, flagText f.2)

def flagStyle : String → ScalarStyle := fun _ => .plain

lemma toYaml_toList (c : Config) : c.toYaml.toList =
    writeTemplates c.templates.entries ++ c.flags.flatMap fun f => writeFlag f.1 f.2 := by
  simp [toYaml, flags]

lemma isPlainKey_of_mem_flags {c : Config} : ∀ f ∈ c.flags, IsPlainKey f.1 := by
  simp only [flags, List.forall_mem_cons]
  exact ⟨⟨.of_plainFits (by decide) (by decide), by decide⟩,
    ⟨.of_plainFits (by decide) (by decide), by decide⟩,
    ⟨.of_plainFits (by decide) (by decide), by decide⟩, by simp⟩

lemma isPlainKey_templates : IsPlainKey "templates" :=
  ⟨.of_plainFits (by decide) (by decide), by decide⟩

lemma isPlain_flagText (value : Bool) : IsPlain (flagText value).toList := by
  cases value <;> exact .of_plainFits (by decide) (by decide)

section Lexing

variable {p : Position} {tokens tokens' : List Token} {indents : List Nat}

lemma writeFlag_append (f : Flag) (tail : List Char) : writeFlag f.1 f.2 ++ tail =
    f.1.toList ++ ':' :: ' ' :: ((flagText f.2).toList ++ '\n' :: (List.replicate 0 ' ' ++ tail)) := by
  cases f with
  | mk name value => cases value <;> simp [writeFlag, flagText]

lemma exists_leads_flag {f : Flag} (h : IsPlainKey f.1) (hp : p.column = 0)
    (henter : enter 0 indents tokens = ([0], tokens')) {tail : List Char}
    (htail : StartsToken tail) :
    ∃ q : Position, q.column = 0 ∧
      Leads ⟨p, tokens, indents, true, none, []⟩ (writeFlag f.1 f.2 ++ tail)
        ⟨q, (entryTokens flagStyle (flagEntry f)).reverse ++ tokens', [0], true, none, []⟩
        tail := by
  rw [writeFlag_append]
  rw [← hp] at henter ⊢
  exact h.exists_leads_entry (isPlain_flagText f.2) henter (Nat.le_refl _) htail

lemma exists_leads_flags (f : Flag) (fs : List Flag) (h : ∀ f' ∈ f :: fs, IsPlainKey f'.1)
    (hp : p.column = 0) (henter : enter 0 indents tokens = ([0], tokens')) :
    ∃ q : Position, q.column = 0 ∧
      Leads ⟨p, tokens, indents, true, none, []⟩ ((f :: fs).flatMap fun f => writeFlag f.1 f.2)
        ⟨q, (((f :: fs).map flagEntry).flatMap (entryTokens flagStyle)).reverse ++ tokens', [0],
          true, none, []⟩ [] := by
  induction fs generalizing f p tokens tokens' indents with
  | nil =>
    have hend : StartsToken [] := by simp [StartsToken]
    simpa using exists_leads_flag (h f List.mem_cons_self) hp henter hend
  | cons f' fs ih =>
    have h' := h f' (by simp)
    have hnext : StartsToken ((f' :: fs).flatMap fun f => writeFlag f.1 f.2) := by
      rw [List.flatMap_cons, writeFlag_append]
      exact ScalarWriter.startsToken_plain h'.plain _
    obtain ⟨q, hq, hlead⟩ := exists_leads_flag (h f List.mem_cons_self) hp henter hnext
    have henter' : enter 0 [0] ((entryTokens flagStyle (flagEntry f)).reverse ++ tokens') =
      ([0], (entryTokens flagStyle (flagEntry f)).reverse ++ tokens') := rfl
    obtain ⟨q', hq', hlead'⟩ := ih f' (fun d hd => h d (List.mem_cons_of_mem f hd)) hq henter'
    exact ⟨q', hq', hlead.trans (by simpa using hlead')⟩

def templateTokens (es : List Entry) : List Token :=
  if es.isEmpty then []
  else [.key, .scalar "templates" .plain, .value, .blockMappingStart] ++
    es.flatMap (entryTokens ScalarWriter.style) ++ [.blockEnd]

lemma exists_leads_templates (e : Entry) (es : List Entry) {tail : List Char}
    (htail : StartsToken tail) :
    ∃ q : Position, q.column = 0 ∧
      Leads {} (writeTemplates (e :: es) ++ tail)
        ⟨q, ((e :: es).flatMap (entryTokens ScalarWriter.style)).reverse ++
          [.blockMappingStart, .value, .scalar "templates" .plain, .key, .blockMappingStart],
          [2, 0], true, none, []⟩ tail := by
  let lines := (ScalarWriter.entry e.1 e.2).drop 2 ++
    (es.flatMap (fun e => ScalarWriter.entry e.1 e.2) ++ tail)
  have hwrite : writeTemplates (e :: es) ++ tail =
      "templates".toList ++ ':' :: '\n' :: (List.replicate 2 ' ' ++ lines) := by
    have hentry := congrArg (· ++ (es.flatMap (fun e => ScalarWriter.entry e.1 e.2) ++ tail))
      (entry_eq e.1 e.2)
    simpa [writeTemplates, lines] using hentry
  obtain ⟨q, -, hkey⟩ := isPlainKey_templates.exists_leads
    (rfl : blankAhead ('\n' :: (List.replicate 2 ' ' ++ lines)) = true) {} [] []
  have hlen : lines.length ≤ ('\n' :: (List.replicate 2 ' ' ++ lines)).length := by
    simp only [List.length_cons, List.length_append]
    omega
  have hnewline := Leads.of_settle (@settle_newline q
    [.value, .scalar "templates" .plain, .key, .blockMappingStart] [0] false none 2 lines) hlen
  obtain ⟨q', hq', hlead⟩ := exists_leads_entries e es (column_line_end q 2)
    (rfl : enter 2 [0] [.value, .scalar "templates" .plain, .key, .blockMappingStart] = _) htail
  refine ⟨q', hq', ?_⟩
  rw [hwrite]
  exact hkey.trans (hnewline.trans hlead)

lemma run_of_leads {s : LexerState} {cs : List Char}
    (h : Leads s cs ⟨p, tokens, [0], true, none, []⟩ []) :
    run (cs.length + 1) s cs = some (Token.blockEnd :: tokens).reverse := by
  obtain ⟨fuel, hfuel, hrun⟩ := h (cs.length + 1) (Nat.lt_succ_self _)
  obtain ⟨n, rfl⟩ := Nat.exists_eq_add_one_of_ne_zero (Nat.ne_zero_of_lt hfuel)
  have hsettle := @settle_token p tokens [0] true none [] (by simp [StartsToken]) (by simp)
  rw [closeBlocks_of_le (head?_le (Nat.zero_le _))] at hsettle
  rw [hrun, run_succ, hsettle]
  rfl

end Lexing

lemma isPrintable_toYaml (c : Config) :
    ∀ d ∈ c.toYaml.toList, ScalarWriter.isPrintable d = true := by
  intro d hd
  rw [toYaml_toList, List.mem_append] at hd
  rcases hd with hd | hd
  · rw [writeTemplates] at hd
    split at hd
    · cases hd
    rcases List.mem_append.mp hd with hd | hd
    · have hall : "templates:\n".toList.all ScalarWriter.isPrintable = true := by decide
      exact List.all_eq_true.mp hall d hd
    · obtain ⟨e, -, hd⟩ := List.mem_flatMap.mp hd
      exact ScalarWriter.isPrintable_entry hd
  · obtain ⟨f, hf, hd⟩ := List.mem_flatMap.mp hd
    have hname := isPlainKey_of_mem_flags f hf
    rw [← List.append_nil (writeFlag f.1 f.2), writeFlag_append] at hd
    simp only [List.mem_append, List.mem_cons, List.replicate_zero, List.not_mem_nil,
      or_false] at hd
    rcases hd with hd | rfl | rfl | hd | rfl
    · exact (hname.plain.chars d hd).1
    · decide
    · decide
    · exact ((isPlain_flagText f.2).chars d hd).1
    · decide

lemma tokens?_toYaml (c : Config) : tokens? c.toYaml.toList =
    some (.blockMappingStart :: (templateTokens c.templates.entries ++
      ((c.flags.map flagEntry).flatMap (entryTokens flagStyle) ++ [.blockEnd]))) := by
  have hprint := isPrintable_toYaml c
  have hallowed : c.toYaml.toList.all isAllowed = true :=
    List.all_eq_true.mpr fun d hd => isAllowed_of_isPrintable (hprint d hd)
  rw [tokens?, if_pos hallowed, normalizeBreaks_eq_self hprint, toYaml_toList]
  have hplain := isPlainKey_of_mem_flags (c := c)
  obtain ⟨f, fs, hflags⟩ : ∃ f fs, c.flags = f :: fs := ⟨_, _, rfl⟩
  rw [hflags] at hplain ⊢
  cases c.templates.entries with
  | nil =>
    obtain ⟨q, -, hlead⟩ := exists_leads_flags (p := {}) f fs hplain rfl
      (rfl : enter 0 [] [] = ([0], [Token.blockMappingStart]))
    refine (run_of_leads hlead).trans ?_
    simp [templateTokens]
  | cons e es =>
    have hstart : StartsToken ((f :: fs).flatMap fun f => writeFlag f.1 f.2) := by
      have hf := hplain f List.mem_cons_self
      rw [List.flatMap_cons, writeFlag_append]
      exact ScalarWriter.startsToken_plain hf.plain _
    obtain ⟨q, hq, hlead⟩ := exists_leads_templates e es hstart
    obtain ⟨q', -, hlead'⟩ := exists_leads_flags f fs hplain hq (rfl : enter 0 [2, 0] _ = _)
    refine (run_of_leads (hlead.trans hlead')).trans ?_
    simp [templateTokens]

/-! ### Nodes -/

def templateEntry {α : Type} (es : List Entry) : List (Node α × Node α) :=
  if es.isEmpty then []
  else [(.scalar {} "templates" .plain,
    .mapping {} (es.map (entryNode ScalarWriter.style)))]

def rootNode {α : Type} (c : Config) : Node α :=
  .mapping {} (templateEntry c.templates.entries ++
    (c.flags.map flagEntry).map (entryNode flagStyle))

lemma length_flatMap_entryTokens (style : String → ScalarStyle) (es : List (String × String)) :
    es.length ≤ (es.flatMap (entryTokens style)).length := by
  induction es with
  | nil => exact Nat.le_refl 0
  | cons e es ih =>
    rw [List.flatMap_cons, List.length_append, List.length_cons, entryTokens]
    simp only [List.length_cons, List.length_nil]
    omega

lemma length_templateTokens (es : List Entry) : es.length ≤ (templateTokens es).length := by
  rw [templateTokens]
  split
  case isTrue h => exact (List.length_eq_zero_iff.mpr (List.isEmpty_iff.mp h)).le
  case isFalse =>
    have := length_flatMap_entryTokens ScalarWriter.style es
    simp only [List.length_append]
    omega

lemma readEntries_templateTokens (handles : Handles) (es : List Entry) (fuel : Nat)
    (hfuel : es.length < fuel) (fs : List (String × String)) (hfs : fs.length < fuel) :
    readEntries handles (fuel + 2) (templateTokens es ++
        (fs.flatMap (entryTokens flagStyle) ++ [.blockEnd])) =
      some (templateEntry es ++ fs.map (entryNode flagStyle), []) := by
  rw [templateTokens, templateEntry]
  split
  case isTrue =>
    exact readEntries_entryTokens handles flagStyle fs (by omega) []
  case isFalse =>
    simp only [List.cons_append, List.nil_append, List.append_assoc]
    rw [readEntries_key _ _ _ _ rfl, readNode_mapping _ _ (by decide),
      readEntries_entryTokens _ _ es hfuel, Option.map_some, Option.bind_some,
      readEntries_entryTokens _ _ fs (by omega)]
    rfl

lemma readDocument_toYaml (c : Config) :
    readDocument (.blockMappingStart :: (templateTokens c.templates.entries ++
      ((c.flags.map flagEntry).flatMap (entryTokens flagStyle) ++ [.blockEnd]))) =
      some (c.rootNode, []) := by
  have hentries := fun fuel hfuel => readEntries_templateTokens ([] ++ standardHandles)
    c.templates.entries fuel hfuel (c.flags.map flagEntry)
  have htemplates := length_templateTokens c.templates.entries
  have hflags := length_flatMap_entryTokens flagStyle (c.flags.map flagEntry)
  generalize hts : templateTokens c.templates.entries ++
    ((c.flags.map flagEntry).flatMap (entryTokens flagStyle) ++ [.blockEnd]) = ts at hentries
  have hlen := congrArg List.length hts
  simp only [List.length_append] at hlen
  have hroot : readDocument (.blockMappingStart :: ts) = readRoot {} (.blockMappingStart :: ts) := by
    simp [readDocument, readDirectives]
  have hfuel : enoughFuel (.blockMappingStart :: ts) = 2 * ts.length + 1 + 2 + 1 := by
    simp only [enoughFuel, List.length_cons]
    omega
  rw [hroot, readRoot, hfuel, readNode_mapping _ _ (by decide),
    hentries _ (by omega) (by omega)]
  rfl

lemma number?_rootNode (c : Config) :
    (c.rootNode : Node String).number? = some c.rootNode := by
  have hentries : Node.numberEntries [] (templateEntry c.templates.entries ++
      (c.flags.map flagEntry).map (entryNode flagStyle)) =
      some ([], templateEntry c.templates.entries ++
        (c.flags.map flagEntry).map (entryNode flagStyle)) := by
    rw [templateEntry, templateEntry]
    split
    case isTrue => exact numberEntries_entryNode flagStyle _
    case isFalse =>
      have htemplates := numberEntries_entryNode ScalarWriter.style c.templates.entries
      rw [List.singleton_append, Node.numberEntries]
      simp only [Node.numberNode, Node.Anchors.enter, htemplates, Option.bind_eq_bind,
        Option.bind_some]
      rfl
  rw [rootNode, Node.number?, Node.numberNode]
  simp only [Node.Anchors.enter, hentries, Option.bind_eq_bind, Option.bind_some]
  rfl

lemma document?_toYaml (c : Config) : Yaml.document? c.toYaml = some c.rootNode := by
  rw [document?, tokens?_toYaml]
  simp only [Option.bind_eq_bind, Option.bind_some, List.isEmpty_cons, Bool.false_eq_true, if_false,
    readDocument_toYaml, List.all_nil, if_true, number?_rootNode]

/-! ### Configs -/

lemma insertEntry_append {name : String} (fragment : String) {es : List Entry}
    (h : ∀ e ∈ es, e.1 < name) : Template.insertEntry name fragment es = es ++ [(name, fragment)] := by
  induction es with
  | nil => rfl
  | cons e es ih =>
    obtain ⟨k, v⟩ := e
    have hk : k < name := h (k, v) List.mem_cons_self
    rw [Template.insertEntry, if_neg (String.lt_asymm hk), if_neg hk.ne',
      ih fun e he => h e (List.mem_cons_of_mem _ he)]
    rfl

lemma entries_foldl_insert (es : List Entry) (t : Table)
    (h : (t.entries ++ es).Pairwise (·.1 < ·.1)) :
    (es.foldl (fun t p => t.insert p.1 p.2) t).entries = t.entries ++ es := by
  induction es generalizing t with
  | nil => simp
  | cons e es ih =>
    have hinsert : (t.insert e.1 e.2).entries = t.entries ++ [e] :=
      insertEntry_append e.2 fun d hd =>
        (List.pairwise_append.mp h).2.2 d hd e List.mem_cons_self
    have hsorted : ((t.insert e.1 e.2).entries ++ es).Pairwise (·.1 < ·.1) := by
      rw [hinsert]
      simpa using h
    rw [List.foldl_cons, ih _ hsorted, hinsert, List.append_assoc, List.singleton_append]

lemma ofList_entries (t : Table) : Table.ofList t.entries = t := by
  have hentries : (Table.ofList t.entries).entries = t.entries :=
    entries_foldl_insert t.entries .empty t.increasing
  obtain ⟨es, hes⟩ := t
  generalize Table.ofList es = t' at hentries
  obtain ⟨es', hes'⟩ := t'
  obtain rfl : es' = es := hentries
  rfl

lemma mapM_readEntry (document : Node Nat) (es : List Entry) :
    (es.map (entryNode ScalarWriter.style)).mapM (readEntry document) = some es := by
  induction es with
  | nil => rfl
  | cons e es ih =>
    have he : readEntry document (entryNode ScalarWriter.style e) = some e := rfl
    rw [List.map_cons, List.mapM_cons, he, ih]
    rfl

lemma readTemplates_eq (document : Node Nat) (t : Table) :
    readTemplates document (.mapping {} (t.entries.map (entryNode ScalarWriter.style))) =
      some t := by
  simp only [readTemplates, readMapping, Option.bind_eq_bind, Option.bind_some, mapM_readEntry,
    ofList_entries]
  rfl

lemma readFlag_flagText (value : Bool) :
    readFlag (.scalar {} (flagText value) .plain) = some value := by
  cases value <;> decide

lemma readFields_flags (document : Node Nat) (c : Config) (t : Table) {given : List Field}
    (h : given = [] ∨ given = [.templates]) :
    readFields document given { templates := t }
        ((c.flags.map flagEntry).map (entryNode flagStyle)) =
      some { c with templates := t } := by
  have hresolve : ∀ text style, document.resolve? (.scalar {} text style) =
      some (.scalar {} text style) := fun _ _ => rfl
  rcases h with rfl | rfl <;>
    simp [flags, flagEntry, entryNode, flagStyle, readFields, hresolve, readText, Field.ofName?,
      setField, readFlag_flagText]

lemma ofDocument?_rootNode (c : Config) : ofDocument? c.rootNode = some c := by
  have hread : ofDocument? c.rootNode = readFields c.rootNode [] {}
      (templateEntry c.templates.entries ++ (c.flags.map flagEntry).map (entryNode flagStyle)) := rfl
  rw [hread, templateEntry]
  split
  case isTrue h =>
    have htable : Table.empty = c.templates := by
      rw [← ofList_entries c.templates, List.isEmpty_iff.mp h]
      rfl
    exact (readFields_flags c.rootNode c Table.empty (.inl rfl)).trans (by rw [htable])
  case isFalse =>
    have hset : setField c.rootNode {} .templates
        (.mapping {} (c.templates.entries.map (entryNode ScalarWriter.style))) =
        some { templates := c.templates } := by
      simp only [setField, Node.resolve?, Option.bind_eq_bind, Option.bind_some, readTemplates_eq]
      rfl
    have hflags := readFields_flags c.rootNode c c.templates (.inr rfl)
    simp only [List.singleton_append, readFields, Node.resolve?, readText, Option.bind_eq_bind,
      Option.bind_some, Field.ofName?, if_true, hset]
    exact hflags

lemma parsed?_toYaml (c : Config) : parsed? c.toYaml = .ok c := by
  have hblank : Text.isBlank c.toYaml = false := by
    have hmem : 'i' ∈ c.toYaml.toList := by simp [toYaml_toList, flags, writeFlag]
    exact List.all_eq_false.mpr ⟨'i', hmem, by decide⟩
  rw [parsed?, hblank, document?_toYaml]
  simp [ofDocument?_rootNode]

/-- A config that is written is read back, unless it is refused; then for what is wrong with it. -/
theorem ofYaml_toYaml (c : Config) :
    ofYaml c.toYaml = match c.validate with
      | .ok () => .ok c
      | .error e => .error e := by
  rw [ofYaml_eq, parsed?_toYaml]
  dsimp only
  cases c.validate <;> rfl

end TemplateGrep.Config
