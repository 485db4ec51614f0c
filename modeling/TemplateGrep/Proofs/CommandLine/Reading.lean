import Mathlib
import TemplateGrep.Proofs.CommandLine.Spelling

namespace TemplateGrep

open CommandLine

namespace Reading

variable {u : Usage} {r : Reading} {a : Arguments}

/-! ### Readings with nothing open -/

def Settles (r : Reading) (a : Arguments) : Prop := r.settle = .ok ⟨a, .nothing⟩

lemma Settles.pending (h : r.Settles a) : r.pending ≠ .pattern ∧ r.pending ≠ .config := by
  obtain ⟨b, p⟩ := r
  cases p <;> simp [Settles, settle] at h ⊢

lemma Settles.take_eq (h : r.Settles a) (kind : OptionKind) (value : Option String) :
    r.take kind value = Reading.take ⟨a, .nothing⟩ kind value := by
  rw [take, take, h]
  rfl

lemma Settles.takeLetters_eq (h : r.Settles a) (c : Char) (cs : List Char) :
    takeLetters u r (c :: cs) = takeLetters u ⟨a, .nothing⟩ (c :: cs) := by
  simp only [takeLetters, h.take_eq]

lemma Settles.takeOther_eq (h : r.Settles a) (arg : String) :
    r.takeOther arg = Reading.takeOther ⟨a, .nothing⟩ arg := by
  rw [takeOther, takeOther, if_neg h.pending.2, if_neg (by simp), h]
  rfl

lemma Settles.takeArgument_eq (h : r.Settles a) (arg : String) :
    r.takeArgument u arg = Reading.takeArgument u ⟨a, .nothing⟩ arg := by
  rw [takeArgument, takeArgument, if_neg h.pending.1, if_neg (by simp)]
  split
  · simp only [takeName, h.take_eq]
  · exact h.takeLetters_eq _ _
  · exact h.takeOther_eq arg

lemma Settles.readAll_eq (h : r.Settles a) (args : List String) :
    readAll u r args = readAll u ⟨a, .nothing⟩ args := by
  cases args with
  | nil => exact h
  | cons arg rest =>
    rw [readAll, readAll, h.takeArgument_eq, h]
    simp [h.pending.1, settle]

/-! ### Single arguments -/

lemma readAll_of_takeArgument {arg : String} {s : Reading} (hne : arg ≠ "--")
    (h : r.takeArgument u arg = .ok s) (rest : List String) :
    readAll u r (arg :: rest) = readAll u s rest := by
  rw [readAll, if_neg fun hd => hne hd.1, h]
  rfl

lemma readAll_value (value : String) (rest : List String) :
    readAll u ⟨a, .pattern⟩ (value :: rest) =
      readAll u ⟨{ a with patterns := a.patterns ++ [value] }, .nothing⟩ rest := by
  rw [readAll, if_neg (by simp), takeArgument, if_pos rfl]
  rfl

lemma splitName_of_not_mem {cs : List Char} (h : '=' ∉ cs) :
    splitName cs = (String.ofList cs, none) := by
  have hall : ∀ c ∈ cs, (c != '=') = true := fun c hc => bne_iff_ne.mpr fun he => h (he ▸ hc)
  simp [splitName, List.takeWhile_eq_self_iff.mpr hall, List.dropWhile_eq_nil_iff.mpr hall]

lemma splitName_append {cs : List Char} (h : '=' ∉ cs) (value : List Char) :
    splitName (cs ++ '=' :: value) = (String.ofList cs, some (String.ofList value)) := by
  have hall : ∀ c ∈ cs, (c != '=') = true := fun c hc => bne_iff_ne.mpr fun he => h (he ▸ hc)
  rw [splitName, List.takeWhile_append_of_pos hall, List.dropWhile_append_of_pos hall]
  simp

section Named

variable {name : String} {kind : OptionKind}

lemma takeArgument_name (he : '=' ∉ name.toList) (hk : u.name? name = some kind) :
    Reading.takeArgument u ⟨a, .nothing⟩ ("--" ++ name) =
      Reading.take ⟨a, .nothing⟩ kind none := by
  simp [takeArgument, takeName, splitName_of_not_mem he, hk]

lemma takeArgument_equals (he : '=' ∉ name.toList) (hk : u.name? name = some kind)
    (value : String) :
    Reading.takeArgument u ⟨a, .nothing⟩ ("--" ++ name ++ "=" ++ value) =
      Reading.take ⟨a, .nothing⟩ kind (some value) := by
  simp [takeArgument, takeName, splitName_append he, hk]

end Named

lemma readAll_of_takeLetters {c : Char} (hc : c ≠ '-') {cs : List Char} {s : Reading}
    (h : takeLetters u ⟨a, .nothing⟩ (c :: cs) = .ok s) (rest : List String) :
    readAll u ⟨a, .nothing⟩ (String.ofList ('-' :: c :: cs) :: rest) = readAll u s rest := by
  have hne : String.ofList ('-' :: c :: cs) ≠ "--" := by
    intro he
    have hlist := congrArg String.toList he
    simp [hc] at hlist
  refine readAll_of_takeArgument hne ?_ rest
  simpa [takeArgument] using h

lemma takeArgument_other {text : String} (h : ¬ Dashed text) {p : Pending} (hp : p ≠ .pattern) :
    Reading.takeArgument u ⟨a, p⟩ text = Reading.takeOther ⟨a, p⟩ text := by
  have hhead : ∀ cs, text.toList ≠ '-' :: cs := fun cs ht => h ⟨cs, ht.symm⟩
  rw [takeArgument, if_neg hp]
  split
  case h_1 ht => exact absurd ht (hhead _)
  case h_2 ht => exact absurd ht (hhead _)
  case h_3 => rfl

lemma take_switch {s : Switch} (h : Reading.isOn ⟨a, .nothing⟩ s = false) :
    Reading.take ⟨a, .nothing⟩ (.switch s) none = .ok ⟨turnOn a s, .nothing⟩ := by
  have hs : Reading.settle ⟨a, .nothing⟩ = .ok ⟨a, .nothing⟩ := rfl
  have hon : ¬ Reading.isOn ⟨a, .nothing⟩ s = true := by simp [h]
  rw [take, if_neg (by simp), hs]
  exact if_neg hon

lemma isOn_turnOn (s t : Switch) :
    Reading.isOn ⟨turnOn a s, .nothing⟩ t = (Reading.isOn ⟨a, .nothing⟩ t || decide (t = s)) := by
  cases s <;> cases t <;> simp [isOn, turnOn]

lemma isOn_withSwitches (ss : List Switch) (t : Switch) :
    Reading.isOn ⟨a.withSwitches ss, .nothing⟩ t =
      (Reading.isOn ⟨a, .nothing⟩ t || decide (t ∈ ss)) := by
  cases t <;> rfl

lemma letter?_char (l : Letter) : Usage.search.letter? l.char = some (.switch l.switch) := by
  cases l <;> rfl

lemma name?_name (s : Switch) : Usage.search.name? s.name = some (.switch s) := by
  cases s <;> rfl

lemma takeLetters_map_char {ls : List Letter} (hnd : (ls.map Letter.switch).Nodup)
    (hoff : ∀ s ∈ ls.map Letter.switch, Reading.isOn ⟨a, .nothing⟩ s = false) (cs : List Char) :
    takeLetters .search ⟨a, .nothing⟩ (ls.map Letter.char ++ cs) =
      takeLetters .search ⟨a.withSwitches (ls.map Letter.switch), .nothing⟩ cs := by
  induction ls generalizing a with
  | nil => simp [Arguments.withSwitches]
  | cons l ls ih =>
    rw [List.map_cons, List.nodup_cons] at hnd
    rw [List.map_cons, List.forall_mem_cons] at hoff
    have hrest : ∀ s ∈ ls.map Letter.switch,
        Reading.isOn ⟨turnOn a l.switch, .nothing⟩ s = false := by
      intro s hs
      have hne : s ≠ l.switch := fun he => hnd.1 (he ▸ hs)
      rw [isOn_turnOn, hoff.2 s hs]
      simpa using hne
    rw [List.map_cons, List.map_cons, List.cons_append, takeLetters, letter?_char,
      Arguments.withSwitches_cons, ← ih hnd.2 hrest]
    dsimp only
    rw [take_switch hoff.1]
    rfl

end Reading

structure Arguments.Admits (a : Arguments) (items : List Item) : Prop where
  proper : ∀ item ∈ items, item.IsProper
  nodup : (items.flatMap Item.switches).Nodup
  off : ∀ s ∈ items.flatMap Item.switches, Reading.isOn ⟨a, .nothing⟩ s = false
  path : (a.config.toList ++ items.filterMap Item.path?).length ≤ 1

namespace Arguments.Admits

variable {a : Arguments} {item : Item} {items : List Item}

lemma tail (h : a.Admits (item :: items)) : (a.after [item]).Admits items := by
  have hnd := h.nodup
  rw [List.flatMap_cons, List.nodup_append] at hnd
  refine ⟨fun i hi => h.proper i (List.mem_cons_of_mem _ hi), hnd.2.1, fun s hs => ?_, ?_⟩
  · have hne : s ∉ item.switches := fun hi => hnd.2.2 s hi s hs rfl
    have hoff := h.off s (by rw [List.flatMap_cons]; exact List.mem_append_right _ hs)
    have hon := Reading.isOn_withSwitches (a := a) item.switches s
    rw [hoff, Bool.false_or, decide_eq_false hne] at hon
    simpa [after, Reading.isOn] using! hon
  · have hpath := h.path
    cases hi : item.path? <;> cases hc : a.config <;>
      simp [after, withSwitches, hi, hc] at hpath ⊢ <;> assumption

lemma config_of_path (h : a.Admits (item :: items)) {path : String} (hp : item.path? = some path) :
    a.config = none := by
  have hpath := h.path
  cases hc : a.config with
  | none => rfl
  | some other => simp [hp, hc] at hpath

end Arguments.Admits

namespace Reading

variable {a : Arguments} {items : List Item}

/-! ### Items -/

lemma toList_dashes (name : String) : ("--" ++ name).toList = '-' :: '-' :: name.toList := by
  simp

lemma dashes_ne {name : String} (h : name ≠ "") : "--" ++ name ≠ "--" := by
  intro he
  have hlist := congrArg String.toList he
  rw [toList_dashes] at hlist
  exact h (String.toList_eq_nil_iff.mp (by simpa using hlist))

lemma setConfig_eq (hc : a.config = none) {path : String} (hp : path ≠ "") (p : Pending) :
    Reading.setConfig ⟨a, p⟩ path = .ok ⟨{ a with config := some path }, .nothing⟩ := by
  simp [setConfig, hc, hp]

lemma readAll_switch {s : Switch} (hoff : Reading.isOn ⟨a, .nothing⟩ s = false)
    (rest : List String) :
    readAll .search ⟨a, .nothing⟩ (("--" ++ s.name) :: rest) =
      readAll .search ⟨turnOn a s, .nothing⟩ rest := by
  have hne : s.name ≠ "" := by cases s <;> decide
  have heq : '=' ∉ s.name.toList := by cases s <;> decide
  have htake := takeArgument_name (a := a) heq (name?_name s)
  rw [take_switch hoff] at htake
  exact readAll_of_takeArgument (dashes_ne hne) htake rest

lemma readAll_map_char {ls : List Letter} (hne : ls ≠ []) (hnd : (ls.map Letter.switch).Nodup)
    (hoff : ∀ s ∈ ls.map Letter.switch, Reading.isOn ⟨a, .nothing⟩ s = false) {cs : List Char}
    {s : Reading}
    (h : takeLetters .search ⟨a.withSwitches (ls.map Letter.switch), .nothing⟩ cs = .ok s)
    (rest : List String) :
    readAll .search ⟨a, .nothing⟩ (String.ofList ('-' :: (ls.map Letter.char ++ cs)) :: rest) =
      readAll .search s rest := by
  rw [← takeLetters_map_char hnd hoff] at h
  obtain ⟨l, ls, rfl⟩ := List.exists_cons_of_ne_nil hne
  have hl : l.char ≠ '-' := by cases l <;> decide
  exact readAll_of_takeLetters hl h rest

section Valued

variable {u : Usage} {letter : Char} {name value : String} {kind : OptionKind} {r : Reading}
  {b : Arguments} {rest : List String}

lemma readAll_valued (hletter : letter ≠ '-') (hname : name ≠ "") (heq : '=' ∉ name.toList)
    (hl : u.letter? letter = some kind) (hn : u.name? name = some kind)
    (hkind : kind.takesValue = true) (hopen : Reading.take ⟨a, .nothing⟩ kind none = .ok r)
    (hnext : readAll u r (value :: rest) = readAll u ⟨b, .nothing⟩ rest)
    (hvalue : Reading.take ⟨a, .nothing⟩ kind (some value) = .ok ⟨b, .nothing⟩) (form : Form) :
    readAll u ⟨a, .nothing⟩ (Item.valued letter name value form ++ rest) =
      readAll u ⟨b, .nothing⟩ rest := by
  cases form with
  | letter =>
    have htake : takeLetters u ⟨a, .nothing⟩ [letter] = .ok r := by
      rw [takeLetters, hl]
      simpa only [hkind, if_true] using! hopen
    exact (readAll_of_takeLetters hletter htake _).trans hnext
  | name =>
    have htake := takeArgument_name (a := a) heq hn
    exact (readAll_of_takeArgument (dashes_ne hname) (htake.trans hopen) _).trans hnext
  | equals =>
    have hne : "--" ++ name ++ "=" ++ value ≠ "--" := by
      rw [String.append_assoc, String.append_assoc]
      exact dashes_ne fun he => by simpa using congrArg String.toList he
    have htake := takeArgument_equals (a := a) heq hn value
    exact readAll_of_takeArgument hne (htake.trans hvalue) rest

end Valued

lemma readAll_pattern (form : Form) (value : String) (rest : List String) :
    readAll .search ⟨a, .nothing⟩ (Item.valued 'e' "regexp" value form ++ rest) =
      readAll .search ⟨{ a with patterns := a.patterns ++ [value] }, .nothing⟩ rest :=
  readAll_valued (by decide) (by decide) (by decide) rfl rfl rfl rfl (readAll_value value rest) rfl
    form

lemma readAll_config (hc : a.config = none) {path : String} (hp : path ≠ "" ∧ ¬ Dashed path)
    (form : Form) (rest : List String) :
    readAll .search ⟨a, .nothing⟩ (Item.valued 'c' "config" path form ++ rest) =
      readAll .search ⟨{ a with config := some path }, .nothing⟩ rest := by
  have hset := setConfig_eq hc hp.1
  have hnext : readAll .search ⟨a, .config⟩ (path :: rest) =
      readAll .search ⟨{ a with config := some path }, .nothing⟩ rest := by
    have hother := takeArgument_other (u := .search) (a := a) hp.2 (p := .config) (by decide)
    have hsettles : Settles ⟨a, .path path⟩ { a with config := some path } := hset _
    exact (readAll_of_takeArgument (ne_dashes_of_not_dashed hp.2) hother rest).trans
      (hsettles.readAll_eq rest)
  have hvalue : Reading.take ⟨a, .nothing⟩ .config (some path) =
      Reading.setConfig ⟨a, .nothing⟩ path := rfl
  exact readAll_valued (by decide) (by decide) (by decide) rfl rfl rfl rfl hnext
    (hvalue.trans (hset _)) form

lemma readAll_operand {text : String} (h : ¬ Dashed text) (rest : List String) :
    readAll .search ⟨a, .nothing⟩ (text :: rest) =
      readAll .search ⟨{ a with operands := a.operands ++ [text] }, .nothing⟩ rest :=
  readAll_of_takeArgument (ne_dashes_of_not_dashed h) (takeArgument_other h (by decide)) rest

lemma readAll_letters {ls : List Letter} (hne : ls ≠ []) (hnd : (ls.map Letter.switch).Nodup)
    (hoff : ∀ s ∈ ls.map Letter.switch, Reading.isOn ⟨a, .nothing⟩ s = false)
    (value : Option String) (rest : List String) :
    readAll .search ⟨a, .nothing⟩ ((Item.letters ls value).spelling ++ rest) =
      readAll .search ⟨{ a.withSwitches (ls.map Letter.switch) with
        patterns := a.patterns ++ value.toList }, .nothing⟩ rest := by
  cases value with
  | none =>
    have hnil : takeLetters .search ⟨a.withSwitches (ls.map Letter.switch), .nothing⟩ [] =
        .ok ⟨a.withSwitches (ls.map Letter.switch), .nothing⟩ := rfl
    have hread := readAll_map_char hne hnd hoff hnil rest
    rw [List.append_nil] at hread
    rw [Option.toList_none, List.append_nil]
    exact hread
  | some value => exact (readAll_map_char hne hnd hoff rfl _).trans (readAll_value value rest)

lemma readAll_item {item : Item} (h : a.Admits (item :: items)) (rest : List String) :
    readAll .search ⟨a, .nothing⟩ (item.spelling ++ rest) =
      readAll .search ⟨a.after [item], .nothing⟩ rest := by
  have hproper := h.proper item List.mem_cons_self
  have hnd := (List.nodup_append.mp h.nodup).1
  have hoff : ∀ s ∈ item.switches, Reading.isOn ⟨a, .nothing⟩ s = false := fun s hs =>
    h.off s (List.mem_append_left _ hs)
  cases item with
  | switch s =>
    rw [a.after_switch]
    exact readAll_switch (hoff s List.mem_cons_self) rest
  | letters ls value =>
    rw [a.after_letters]
    exact readAll_letters hproper hnd hoff value rest
  | pattern form value =>
    rw [a.after_pattern]
    exact readAll_pattern form value rest
  | config form path =>
    have hc := h.config_of_path rfl
    rw [Arguments.after_config hc]
    exact readAll_config hc hproper form rest
  | operand text =>
    rw [a.after_operand]
    exact readAll_operand hproper rest

lemma readAll_items (h : a.Admits items) (rest : List String) :
    readAll .search ⟨a, .nothing⟩ (items.flatMap Item.spelling ++ rest) =
      readAll .search ⟨a.after items, .nothing⟩ rest := by
  induction items generalizing a with
  | nil => simp [Arguments.after, Arguments.withSwitches]
  | cons item items ih =>
    rw [List.flatMap_cons, List.append_assoc, readAll_item h, ih h.tail, ← a.after_cons]

end Reading

/-! ### Command lines -/

namespace Arguments

variable {items : List Item} {behind : Option (List String)} {inherited : Option String}

lemma read_of_readAll {u : Usage} {args : List String} {r : Reading} {a : Arguments}
    (hr : Reading.readAll u {} args = .ok r) (hi : r.arguments.withInherited inherited = .ok a)
    (hd : u.demand a = .ok ()) : read u inherited args = .ok a := by
  simp [read, hr, hi, hd, bind, Except.bind, pure, Except.pure]

lemma admits_default (hproper : ∀ item ∈ items, item.IsProper)
    (hnodup : (items.flatMap Item.switches).Nodup)
    (hpath : (items.filterMap Item.path?).length ≤ 1) : ({} : Arguments).Admits items where
  proper := hproper
  nodup := hnodup
  off s _ := by cases s <;> rfl
  path := hpath

lemma readAll_spelled (h : ({} : Arguments).Admits items) :
    Reading.readAll .search {} (spelled items behind) =
      .ok ⟨written items behind none, .nothing⟩ := by
  have hafter : ({} : Arguments).after items = written items none none := by
    simp [after, withSwitches, written]
  rw [spelled, Reading.readAll_items h, hafter]
  cases behind with
  | none => rfl
  | some rest =>
    have hbehind : written items (some rest) none =
        { written items none none with
          operands := (written items none none).operands ++ rest } := by
      simp [written]
    rw [hbehind]
    rfl

lemma withInherited_written (h : inherited ≠ some "") :
    (written items behind none).withInherited inherited =
      .ok (written items behind inherited) := by
  cases inherited with
  | none => rfl
  | some path =>
    have hne : path ≠ "" := fun he => h (he ▸ rfl)
    cases hp : items.findSome? Item.path? <;> simp [withInherited, written, hp, hne]

/-- A command line is read as what it says, in whatever order and spelling. -/
theorem read_spelled (hproper : ∀ item ∈ items, item.IsProper)
    (hnodup : (items.flatMap Item.switches).Nodup)
    (hpath : (items.filterMap Item.path?).length ≤ 1)
    (hgiven : items ≠ [] ∨ behind.getD [] ≠ []) (hinherited : inherited ≠ some "") :
    read .search inherited (spelled items behind) = .ok (written items behind inherited) ∧
      (written items behind inherited).patternsAndFiles? =
        match items.flatMap Item.patterns, items.flatMap Item.operands ++ behind.getD [] with
        | [], [] => none
        | [], pattern :: files => some ([pattern], files)
        | patterns, files => some (patterns, files) := by
  constructor
  · have hdemand : Usage.search.demand (written items behind inherited) = .ok () :=
      if_neg (written_ne_default hproper hgiven)
    exact read_of_readAll (readAll_spelled (admits_default hproper hnodup hpath))
      (withInherited_written hinherited) hdemand
  · rw [patternsAndFiles?, written]
    dsimp only
    cases items.flatMap Item.patterns with
    | nil => cases items.flatMap Item.operands ++ behind.getD [] <;> rfl
    | cons pattern patterns => rfl

theorem read_spelled_letters :
    let items : List Item := [.config .letter "t.yaml", .letters [.E, .w] (some "--help"),
      .operand "a", .pattern .equals "-x=y", .switch .ignoreCase, .pattern .letter "--"]
    spelled items (some ["-mai", "--"]) =
        ["-c", "t.yaml", "-Ewe", "--help", "a", "--regexp=-x=y", "--ignore-case", "-e", "--", "--",
          "-mai", "--"] ∧
      (∀ item ∈ items, item.IsProper) ∧ (items.flatMap Item.switches).Nodup ∧
      (items.filterMap Item.path?).length ≤ 1 ∧ items ≠ [] ∧ some "env.yaml" ≠ some "" ∧
      read .search (some "env.yaml") (spelled items (some ["-mai", "--"])) =
        .ok { wordBoundary := true, ignoreCase := true, noTemplate := true,
              patterns := ["--help", "-x=y", "--"], config := some "t.yaml",
              operands := ["a", "-mai", "--"] } := by
  intro items
  have hproper : ∀ item ∈ items, item.IsProper := by
    simp [items, Item.IsProper, Dashed]
  have hnodup : (items.flatMap Item.switches).Nodup := by decide +kernel
  have hpath : (items.filterMap Item.path?).length ≤ 1 := by decide +kernel
  have hne : items ≠ [] := List.cons_ne_nil _ _
  have henv : some "env.yaml" ≠ some "" := by decide
  refine ⟨by decide +kernel, hproper, hnodup, hpath, hne, henv, ?_⟩
  exact (read_spelled hproper hnodup hpath (.inl hne) henv).1.trans (by decide +kernel)

end Arguments

end TemplateGrep
