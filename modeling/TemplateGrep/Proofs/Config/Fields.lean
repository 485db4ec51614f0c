import Mathlib
import TemplateGrep.Proofs.Config.Validity
import TemplateGrep.Proofs.Template.Additions
import TemplateGrep.Proofs.Yaml.Blank

/-!
What a config depends on: the values that the document has for each of the four fields, and nothing
else in it. A field with several values is refused, so the order of the entries cannot matter.
-/

namespace TemplateGrep.Yaml.Node

/-! ### Aliases -/

def AliasFree (n : Node Nat) : Prop := ∀ number, .alias number ∉ n.parts

lemma AliasFree.resolve? {n : Node Nat} (h : n.AliasFree) (document : Node Nat) :
    document.resolve? n = some n := by
  rcases n with _ | _ | _ | number
  · rfl
  · rfl
  · rfl
  · exact absurd (List.mem_singleton_self _) (h number)

lemma mem_partsOfEntries {entries : List (Node Nat × Node Nat)} {e : Node Nat × Node Nat}
    (he : e ∈ entries) {part : Node Nat} (h : part ∈ e.1.parts ∨ part ∈ e.2.parts) :
    part ∈ partsOfEntries entries := by
  induction entries with
  | nil => cases he
  | cons e' rest ih =>
    rw [partsOfEntries, List.mem_append, List.mem_append]
    rcases List.mem_cons.mp he with rfl | he
    · exact .inl h
    · exact .inr (ih he)

lemma AliasFree.of_mem {p : Properties Nat} {entries : List (Node Nat × Node Nat)}
    (h : (mapping p entries).AliasFree) {e : Node Nat × Node Nat} (he : e ∈ entries) :
    e.1.AliasFree ∧ e.2.AliasFree := by
  have hparts : ∀ {part}, part ∈ e.1.parts ∨ part ∈ e.2.parts → part ∈ (mapping p entries).parts :=
    fun hpart => List.mem_cons_of_mem _ (mem_partsOfEntries he hpart)
  exact ⟨fun n hn => h n (hparts (.inl hn)), fun n hn => h n (hparts (.inr hn))⟩

end TemplateGrep.Yaml.Node

namespace TemplateGrep.Config

open Template (Entry Table)
open Yaml (Node Properties)

/-! ### Values of fields -/

def fieldOf? (e : Node Nat × Node Nat) : Option Field := (readText e.1).bind Field.ofName?

def valuesOf (entries : List (Node Nat × Node Nat)) (field : Field) : List (Node Nat) :=
  (entries.filter fun e => fieldOf? e = some field).map Prod.snd

def once {α : Type} (given : Bool) (unset : α) : List (Option α) → Option α
  | [] => some unset
  | [value] => if given then none else value
  | _ => none

def fromValues (document : Node Nat) (given : List Field) (c : Config)
    (values : Field → List (Node Nat)) : Option Config := do
  let flag (field : Field) (unset : Bool) :=
    once (field ∈ given) unset ((values field).map readFlag)
  let templates ← once (.templates ∈ given) c.templates
    ((values .templates).map (readTemplates document))
  let ignoreCase ← flag .ignoreCase c.ignoreCase
  let wordBoundary ← flag .wordBoundary c.wordBoundary
  let noTemplate ← flag .noTemplate c.noTemplate
  return { templates, ignoreCase, wordBoundary, noTemplate }

def ofValues? (values : Field → List (Node Nat)) : Option Config :=
  fromValues (.blank {}) [] {} values

section Once

variable {α : Type} {unset : α} {value : Option α} {values others : List (Option α)}

lemma once_cons_given : once true unset (value :: values) = none := by
  cases values <;> rfl

lemma once_cons :
    once false unset (value :: values) = value.bind fun x => once true x values := by
  cases value with
  | none => cases values <;> rfl
  | some x =>
    cases values with
    | nil => rfl
    | cons => exact once_cons_given.symm

lemma once_eq_none (h : 2 ≤ values.length) : once false unset values = none := by
  rcases values with _ | ⟨_, _ | ⟨_, _⟩⟩
  · cases h
  · cases Nat.le_of_succ_le_succ h
  · rfl

lemma once_perm (h : values.Perm others) : once false unset others = once false unset values := by
  have hlength := h.length_eq
  by_cases hmany : 2 ≤ values.length
  · rw [once_eq_none hmany, once_eq_none (hlength ▸ hmany)]
  · -- at most one value has no other order
    have hfew : values.length = 0 ∨ values.length = 1 := by omega
    rcases hfew with h0 | h1
    · obtain rfl := List.length_eq_zero_iff.mp h0
      rw [h.nil_eq]
    · obtain ⟨value, rfl⟩ := List.length_eq_one_iff.mp h1
      rw [h.singleton_eq]

end Once

section Values

variable {entries others : List (Node Nat × Node Nat)} {field : Field}

lemma valuesOf_append (entries others : List (Node Nat × Node Nat)) (field : Field) :
    valuesOf (entries ++ others) field = valuesOf entries field ++ valuesOf others field := by
  rw [valuesOf, List.filter_append, List.map_append]
  rfl

lemma valuesOf_cons_same {e : Node Nat × Node Nat} (h : fieldOf? e = some field) :
    valuesOf (e :: entries) field = e.2 :: valuesOf entries field := by
  simp [valuesOf, h]

lemma valuesOf_cons_other {e : Node Nat × Node Nat} (h : fieldOf? e ≠ some field) :
    valuesOf (e :: entries) field = valuesOf entries field := by
  simp [valuesOf, h]

lemma valuesOf_perm (h : entries.Perm others) (field : Field) :
    (valuesOf entries field).Perm (valuesOf others field) := (h.filter _).map _

lemma exists_of_mem_valuesOf {value : Node Nat} (h : value ∈ valuesOf entries field) :
    ∃ e ∈ entries, e.2 = value := by
  obtain ⟨e, he, rfl⟩ := List.mem_map.mp h
  exact ⟨e, List.mem_of_mem_filter he, rfl⟩

end Values

/-! ### Reading -/

section Mapped

variable {α β : Type} {f g : α → Option β}

lemma mapM_congr {xs : List α} (h : ∀ x ∈ xs, f x = g x) : xs.mapM f = xs.mapM g := by
  induction xs with
  | nil => rfl
  | cons x xs ih =>
    obtain ⟨hx, hxs⟩ := List.forall_mem_cons.mp h
    rw [List.mapM_cons, List.mapM_cons, hx, ih hxs]

lemma mapM_eq_some_iff {xs : List α} {ys : List β} :
    xs.mapM f = some ys ↔ List.Forall₂ (fun x y => f x = some y) xs ys := by
  induction xs generalizing ys with
  | nil =>
    simp only [List.mapM_nil, Option.pure_def, Option.some.injEq, List.forall₂_nil_left_iff]
    exact eq_comm
  | cons x xs ih =>
    rw [List.mapM_cons, List.forall₂_cons_left_iff]
    simp only [Option.bind_eq_bind, Option.bind_eq_some_iff, ih, Option.pure_def,
      Option.some.injEq]
    constructor
    · rintro ⟨y, hy, ys, hys, rfl⟩
      exact ⟨y, ys, hy, hys, rfl⟩
    · rintro ⟨y, ys, hy, hys, rfl⟩
      exact ⟨y, hy, ys, hys, rfl⟩

lemma exists_mapM_of_perm {xs others : List α} (h : others.Perm xs) {ys : List β}
    (hys : xs.mapM f = some ys) : ∃ ys', others.mapM f = some ys' ∧ ys'.Perm ys := by
  obtain ⟨ys', hys', hperm⟩ := List.perm_comp_forall₂ h (mapM_eq_some_iff.mp hys)
  exact ⟨ys', mapM_eq_some_iff.mpr hys', hperm⟩

end Mapped

section Reading

variable {document value : Node Nat} {given : List Field} {c : Config} {field : Field}
  {values others : Field → List (Node Nat)} {behind : List (Node Nat)}

lemma fromValues_given (hgiven : field ∈ given) (hvalues : values field = value :: behind) :
    fromValues document given c values = none := by
  cases field <;> simp [fromValues, hgiven, hvalues, once_cons_given]

lemma fromValues_set (hgiven : field ∉ given) (hvalue : value.AliasFree)
    (hvalues : values field = value :: others field)
    (hothers : ∀ other ≠ field, values other = others other) :
    fromValues document given c values = (setField document c field value).bind fun c =>
      fromValues document (field :: given) c others := by
  cases field with
  | templates =>
    cases hread : readTemplates document value <;>
      simp [fromValues, setField, hvalue.resolve?, hgiven, hvalues, hothers, once_cons, hread]
  | ignoreCase | wordBoundary | noTemplate =>
    cases hread : readFlag value <;>
      simp [fromValues, setField, hvalue.resolve?, hgiven, hvalues, hothers, once_cons, hread]

lemma readFields_eq {entries : List (Node Nat × Node Nat)}
    (hkeys : ∀ e ∈ entries, ∃ name, readText e.1 = some name)
    (hvalues : ∀ e ∈ entries, e.2.AliasFree) :
    readFields document given c entries = fromValues document given c (valuesOf entries) := by
  induction entries generalizing given c with
  | nil => rfl
  | cons e rest ih =>
    obtain ⟨key, value⟩ := e
    obtain ⟨⟨name, hname⟩, hkeys⟩ := List.forall_mem_cons.mp hkeys
    obtain ⟨hvalue, hvalues⟩ := List.forall_mem_cons.mp hvalues
    have hresolve : document.resolve? key = some key := by
      cases key <;> first | rfl | cases hname
    have hfieldOf : fieldOf? (key, value) = Field.ofName? name := by rw [fieldOf?, hname]; rfl
    rw [readFields]
    simp only [hresolve, hname, Option.bind_eq_bind, Option.bind_some]
    cases hfield : Field.ofName? name with
    | none =>
      rw [hfield] at hfieldOf
      have hrest : valuesOf ((key, value) :: rest) = valuesOf rest := by
        funext field
        exact valuesOf_cons_other (by simp [hfieldOf])
      rw [hrest]
      exact ih hkeys hvalues
    | some field =>
      rw [hfield] at hfieldOf
      have hfirst := @valuesOf_cons_same rest field _ hfieldOf
      dsimp only
      split
      case isTrue hgiven => rw [fromValues_given hgiven hfirst]
      case isFalse hgiven =>
        have hothers : ∀ other ≠ field,
            valuesOf ((key, value) :: rest) other = valuesOf rest other :=
          fun other hother => valuesOf_cons_other (by simpa [hfieldOf] using hother.symm)
        rw [fromValues_set hgiven hvalue hfirst hothers]
        exact congrArg _ (funext fun c => ih hkeys hvalues)

lemma readTemplates_eq_blank (h : value.AliasFree) :
    readTemplates document value = readTemplates (.blank {}) value := by
  rcases value with ⟨p, text, style⟩ | _ | ⟨p, entries⟩ | _
  · by_cases hblank : text = "" ∧ style = .plain <;> simp [readTemplates, readMapping, hblank]
  · rfl
  · have hentries : ∀ e ∈ entries, readEntry document e = readEntry (.blank {}) e := by
      intro e he
      obtain ⟨hkey, hvalue⟩ := h.of_mem he
      rw [readEntry, readEntry, hkey.resolve?, hkey.resolve?, hvalue.resolve?, hvalue.resolve?]
    simp only [readTemplates, readMapping, Option.bind_eq_bind, Option.bind_some,
      mapM_congr hentries]
  · rfl

lemma readText_of_readEntry {e : Node Nat × Node Nat} {entry : Entry}
    (h : readEntry (.blank {}) e = some entry) : readText e.1 = some entry.1 := by
  obtain ⟨key, value⟩ := e
  obtain ⟨node, hnode, h⟩ := Option.bind_eq_some_iff.mp h
  obtain ⟨name, hname, h⟩ := Option.bind_eq_some_iff.mp h
  obtain ⟨_, -, h⟩ := Option.bind_eq_some_iff.mp h
  obtain ⟨_, -, h⟩ := Option.bind_eq_some_iff.mp h
  obtain rfl := Option.some.inj h
  cases key with
  | scalar => cases hnode; exact hname
  | sequence | mapping => cases hnode; cases hname
  | _ => cases hnode

lemma names_of_mapM {entries : List (Node Nat × Node Nat)} {pairs : List Entry}
    (h : entries.mapM (readEntry (.blank {})) = some pairs) :
    entries.filterMap (fun e => readText e.1) = pairs.map Prod.fst := by
  have hread := mapM_eq_some_iff.mp h
  clear h
  induction hread with
  | nil => rfl
  | cons he _ ih => simp only [List.filterMap_cons, readText_of_readEntry he, ih, List.map_cons]

lemma readTemplates_perm {p q : Properties Nat} {items others : List (Node Nat × Node Nat)}
    (h : items.Perm others) (hn : (items.filterMap fun e => readText e.1).Nodup) :
    readTemplates (.blank {}) (.mapping q others) =
      readTemplates (.blank {}) (.mapping p items) := by
  simp only [readTemplates, readMapping, Option.bind_eq_bind, Option.bind_some]
  cases hitems : items.mapM (readEntry (.blank {})) with
  | some pairs =>
    obtain ⟨pairs', hothers, hperm⟩ := exists_mapM_of_perm h.symm hitems
    rw [names_of_mapM hitems] at hn
    simp only [hothers, Option.bind_some, Table.ofList_perm hperm.symm hn]
  | none =>
    cases hothers : others.mapM (readEntry (.blank {})) with
    | none => rfl
    | some pairs =>
      obtain ⟨pairs', hsome, -⟩ := exists_mapM_of_perm h hothers
      rw [hitems] at hsome
      cases hsome

end Reading

/-! ### Edits -/

inductive Edit : List (Node Nat × Node Nat) → List (Node Nat × Node Nat) → Prop
  | permute {entries others} : entries.Perm others → Edit entries others
  | add {before behind key name} (value) : readText key = some name → Field.ofName? name = none →
      Edit (before ++ behind) (before ++ (key, value) :: behind)
  | templates {before behind key p q items others} : readText key = some "templates" →
      items.Perm others → (items.filterMap fun e => readText e.1).Nodup →
      Edit (before ++ (key, .mapping p items) :: behind)
        (before ++ (key, .mapping q others) :: behind)

lemma ofValues?_perm {values others : Field → List (Node Nat)}
    (htemplates : ((values .templates).map (readTemplates (.blank {}))).Perm
      ((others .templates).map (readTemplates (.blank {}))))
    (hflags : ∀ field ≠ .templates, (values field).Perm (others field)) :
    ofValues? others = ofValues? values := by
  have hflag : ∀ field ≠ .templates, ∀ unset,
      once false unset ((others field).map readFlag) =
        once false unset ((values field).map readFlag) :=
    fun field hfield unset => once_perm ((hflags field hfield).map _)
  simp [ofValues?, fromValues, once_perm htemplates, hflag]

lemma ofValues?_eq_none {values : Field → List (Node Nat)} {field : Field}
    (h : 2 ≤ (values field).length) : ofValues? values = none := by
  cases field <;> simp [ofValues?, fromValues, once_eq_none, h]

lemma Edit.ofValues?_eq {entries others : List (Node Nat × Node Nat)} (h : Edit entries others) :
    ofValues? (valuesOf others) = ofValues? (valuesOf entries) := by
  cases h with
  | permute h =>
    exact ofValues?_perm ((valuesOf_perm h _).map _) fun field _ => valuesOf_perm h field
  | @add before behind key name value hkey hname =>
    have hnone : fieldOf? (key, value) = none := by rw [fieldOf?, hkey]; exact hname
    have hvalues : valuesOf (before ++ (key, value) :: behind) = valuesOf (before ++ behind) := by
      funext field
      rw [valuesOf_append, valuesOf_append, valuesOf_cons_other (by simp [hnone])]
    rw [hvalues]
  | @templates before behind key p q items items' hkey hitems hnames =>
    have hfield : ∀ value, fieldOf? (key, value) = some .templates := by
      intro value
      rw [fieldOf?, hkey]
      rfl
    apply ofValues?_perm
    · rw [valuesOf_append, valuesOf_append, valuesOf_cons_same (hfield _),
        valuesOf_cons_same (hfield _)]
      simp only [List.map_append, List.map_cons, readTemplates_perm (p := p) hitems hnames]
      rfl
    · intro field hother
      rw [valuesOf_append, valuesOf_append, valuesOf_cons_other, valuesOf_cons_other]
      all_goals simpa [hfield] using hother.symm

/-! ### Documents -/

structure HasEntries (text : String) (entries : List (Node Nat × Node Nat)) : Prop where
  document : ∃ p, Yaml.document? text = some (.mapping p entries) ∧
    (Node.mapping p entries).AliasFree
  keys : ∀ e ∈ entries, ∃ name, readText e.1 = some name

namespace HasEntries

variable {text other : String} {entries others : List (Node Nat × Node Nat)}

lemma isBlank_eq_false (h : HasEntries text entries) : Text.isBlank text = false := by
  -- the document of a blank text is a scalar
  obtain ⟨p, hdocument, -⟩ := h.document
  by_contra hblank
  obtain ⟨_, _, _, hroot⟩ :=
    Yaml.exists_scalar_of_isBlank (Bool.eq_true_of_not_eq_false hblank) hdocument
  cases hroot

lemma parsed?_eq (h : HasEntries text entries) :
    parsed? text = match ofValues? (valuesOf entries) with
      | some c => .ok c
      | none => .error .malformed := by
  obtain ⟨p, hdocument, haliasFree⟩ := h.document
  have hvalues : ∀ e ∈ entries, e.2.AliasFree := fun e he => (haliasFree.of_mem he).2
  have htemplates : (valuesOf entries .templates).map (readTemplates (.mapping p entries)) =
      (valuesOf entries .templates).map (readTemplates (.blank {})) := by
    apply List.map_congr_left
    intro value hvalue
    obtain ⟨e, he, rfl⟩ := exists_of_mem_valuesOf hvalue
    exact readTemplates_eq_blank (hvalues e he)
  have hread : ofDocument? (.mapping p entries) = ofValues? (valuesOf entries) := by
    rw [ofDocument?, readMapping, Option.bind_eq_bind, Option.bind_some,
      readFields_eq h.keys hvalues]
    simp only [ofValues?, fromValues, htemplates]
  rw [parsed?, h.isBlank_eq_false, hdocument, Option.bind_some, hread]
  rfl

lemma ofYaml_eq_of_values (h : HasEntries text entries) :
    ofYaml text = match ofValues? (valuesOf entries) with
      | some c => c.validate.map fun _ => c
      | none => .error .malformed := by
  rw [ofYaml_eq, h.parsed?_eq]
  cases ofValues? (valuesOf entries) <;> rfl

lemma ofYaml_eq_of_edits (h : HasEntries text entries) (ho : HasEntries other others)
    (hedits : Relation.EqvGen Edit entries others) : ofYaml other = ofYaml text := by
  have hvalues : ofValues? (valuesOf others) = ofValues? (valuesOf entries) := by
    clear h ho
    induction hedits with
    | rel _ _ h => exact h.ofValues?_eq
    | refl => rfl
    | symm _ _ _ ih => exact ih.symm
    | trans _ _ _ _ _ ih ih' => exact ih'.trans ih
  rw [ho.ofYaml_eq_of_values, h.ofYaml_eq_of_values, hvalues]

lemma ofYaml_eq_error (h : HasEntries text entries) {field : Field}
    (htwice : 2 ≤ (valuesOf entries field).length) : ofYaml text = .error .malformed := by
  rw [h.ofYaml_eq_of_values, ofValues?_eq_none htwice]

end HasEntries

lemma exists_table_perm {text : String} {c : Config} (h : ofYaml text = .ok c) :
    ∃ t, c.table = .ok t ∧ t.entries.Perm (Table.builtin.entries ++ c.templates.entries) := by
  obtain ⟨t, ht⟩ := exists_table_of_ofYaml h
  refine ⟨t, ht, ?_⟩
  rw [table] at ht
  split at ht
  case h_1 t' hadded =>
    obtain rfl := Except.ok.inj ht
    exact Table.entries_withTemplates_perm hadded c.templates.names_nodup
  case h_2 => cases ht

/-- A config is read from the values of its four fields. So neither their order matters, nor what
stands beside them, nor the order of templates with different names; a field that is given twice is
refused; and the templates of a config that is read can be added to the built-in ones. -/
theorem ofYaml_depends_on_fields :
    (∀ text entries, HasEntries text entries →
      ofYaml text = match ofValues? (valuesOf entries) with
        | some c => c.validate.map fun _ => c
        | none => .error .malformed) ∧
    (∀ text other entries others, HasEntries text entries → HasEntries other others →
      Relation.EqvGen Edit entries others → ofYaml other = ofYaml text) ∧
    (∀ text entries field, HasEntries text entries → 2 ≤ (valuesOf entries field).length →
      ofYaml text = .error .malformed) ∧
    ∀ text c, ofYaml text = .ok c → c.validate = .ok () ∧
      ∃ t, c.table = .ok t ∧ t.entries.Perm (Table.builtin.entries ++ c.templates.entries) := by
  refine ⟨fun text entries h => h.ofYaml_eq_of_values,
    fun text other entries others h ho hedits => h.ofYaml_eq_of_edits ho hedits,
    fun text entries field h htwice => h.ofYaml_eq_error htwice, fun text c h => ?_⟩
  obtain ⟨t, ht, hperm⟩ := exists_table_perm h
  have hvalid : c.validate = .ok () := by rw [validate_eq, ht]
  exact ⟨hvalid, t, ht, hperm⟩

theorem ofYaml_depends_on_fields_reordered : ∃ entries others,
    HasEntries "templates:\n  a: x\n  b: y\nignore_case: true\n" entries ∧
    HasEntries "note: [1]\nignore_case: true\ntemplates:\n  b: y\n  a: x\n" others ∧
    Relation.EqvGen Edit entries others ∧
    ofYaml "note: [1]\nignore_case: true\ntemplates:\n  b: y\n  a: x\n" =
      ofYaml "templates:\n  a: x\n  b: y\nignore_case: true\n" ∧
    ofYaml "templates:\n  a: x\n  b: y\nignore_case: true\n" =
      .ok { templates := Table.ofList [("a", "x"), ("b", "y")], ignoreCase := true } := by
  let plain (text : String) : Node Nat := .scalar {} text .plain
  let a := (plain "a", plain "x")
  let b := (plain "b", plain "y")
  let flag := (plain "ignore_case", plain "true")
  let note := (plain "note", Node.sequence {} [plain "1"])
  have htokens : Yaml.tokens? "templates:\n  a: x\n  b: y\nignore_case: true\n".toList = some
      [.blockMappingStart, .key, .scalar "templates" .plain, .value, .blockMappingStart,
        .key, .scalar "a" .plain, .value, .scalar "x" .plain,
        .key, .scalar "b" .plain, .value, .scalar "y" .plain, .blockEnd,
        .key, .scalar "ignore_case" .plain, .value, .scalar "true" .plain, .blockEnd] := by
    decide +kernel
  have htokens' : Yaml.tokens?
      "note: [1]\nignore_case: true\ntemplates:\n  b: y\n  a: x\n".toList = some
      [.blockMappingStart, .key, .scalar "note" .plain, .value,
        .flowSequenceStart, .scalar "1" .plain, .flowSequenceEnd,
        .key, .scalar "ignore_case" .plain, .value, .scalar "true" .plain,
        .key, .scalar "templates" .plain, .value, .blockMappingStart,
        .key, .scalar "b" .plain, .value, .scalar "y" .plain,
        .key, .scalar "a" .plain, .value, .scalar "x" .plain, .blockEnd, .blockEnd] := by
    decide +kernel
  have h : HasEntries "templates:\n  a: x\n  b: y\nignore_case: true\n"
      [(plain "templates", .mapping {} [a, b]), flag] := by
    refine ⟨⟨{}, by rw [Yaml.document?, htokens]; rfl, fun n hn => ?_⟩, ?_⟩
    · simp [Node.parts, Node.partsOfEntries, plain, a, b, flag] at hn
    · simp [plain, flag, readText]
  have h' : HasEntries "note: [1]\nignore_case: true\ntemplates:\n  b: y\n  a: x\n"
      [note, flag, (plain "templates", .mapping {} [b, a])] := by
    refine ⟨⟨{}, by rw [Yaml.document?, htokens']; rfl, fun n hn => ?_⟩, ?_⟩
    · simp [Node.parts, Node.partsOfEntries, Node.partsOfItems, plain, a, b, flag, note] at hn
    · simp [plain, flag, note, readText]
  have hedits : Relation.EqvGen Edit [(plain "templates", .mapping {} [a, b]), flag]
      [note, flag, (plain "templates", .mapping {} [b, a])] := by
    have hnames : ([a, b].filterMap fun e => readText e.1).Nodup := by decide
    have h1 := @Edit.templates [] [flag] (plain "templates") {} {} _ _ rfl (.swap b a []) hnames
    have h2 := Edit.permute (.swap flag (plain "templates", .mapping {} [b, a]) [])
    have h3 := @Edit.add [] [flag, (plain "templates", .mapping {} [b, a])] note.1 "note" note.2
      rfl (by decide)
    exact .trans _ _ _ (.rel _ _ h1) (.trans _ _ _ (.rel _ _ h2) (.rel _ _ h3))
  obtain ⟨hvalues, hsame, -⟩ := ofYaml_depends_on_fields
  exact ⟨_, _, h, h', hedits, hsame _ _ _ _ h h' hedits, by rw [hvalues _ _ h]; decide +kernel⟩

end TemplateGrep.Config
