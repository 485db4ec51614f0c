import Mathlib
import TemplateGrep.Template.Expansion

/-!
Cuttings of a pattern into tokens. A text has exactly one cutting, and the expansion of a pattern that
is no template name can be read off it: the outputs of the tokens, or the place of the open block.
-/

namespace TemplateGrep.Template

inductive Token
  | brace
  | block (content : List Char)
  | openBlock (content : List Char)
  | char (c : Char)
  deriving DecidableEq, Repr

def opening : List Char := ['{', '{']

def closing : List Char := ['}', '}']

def bracing : List Char := ['\\', '{']

namespace Token

def text : Token → List Char
  | .brace => bracing
  | .block content => opening ++ content ++ closing
  | .openBlock content => opening ++ content
  | .char c => [c]

def isClosed : Token → Bool
  | .openBlock _ => false
  | _ => true

end Token

def ClosesAt (text content rest : List Char) : Prop :=
  text = content ++ closing ++ rest ∧
    ∀ shorter, shorter ++ closing <+: text → content.length ≤ shorter.length

inductive Cutting : List Char → List Token → Prop
  | nil : Cutting [] []
  | brace {rest tokens} : Cutting rest tokens → Cutting (bracing ++ rest) (.brace :: tokens)
  | block {text content rest tokens} : ClosesAt text content rest → Cutting rest tokens →
      Cutting (opening ++ text) (.block content :: tokens)
  | openBlock {text} : ¬ closing <:+: text → Cutting (opening ++ text) [.openBlock text]
  | char {c rest tokens} : ¬ bracing <+: c :: rest → ¬ opening <+: c :: rest →
      Cutting rest tokens → Cutting (c :: rest) (.char c :: tokens)

def Table.output (t : Table) : Token → List Char
  | .brace => bracing
  | .block content => ((t.lookup (String.ofList content)).map String.toList).getD content
  | .openBlock _ => []
  | .char c => if c ∈ specialCharacters then ['\\', c] else [c]

def Table.reading (t : Table) (tokens : List Token) : Except ExpandError (List Char) :=
  if tokens.all Token.isClosed then .ok (tokens.flatMap t.output)
  else .error (.unclosed ((tokens.takeWhile Token.isClosed).flatMap Token.text).length)

/-! ### Closing delimiters -/

lemma closesAt_iff {text content rest : List Char} :
    ClosesAt text content rest ↔
      text = content ++ closing ++ rest ∧ ¬ closing <:+: content ++ ['}'] := by
  refine and_congr_right fun he => ⟨fun hmin hin => ?_, fun hno shorter hpre => ?_⟩
  · obtain ⟨before, behind, hc⟩ := hin
    have hpre : before ++ closing <+: text :=
      ⟨behind ++ '}' :: rest, by rw [← List.append_assoc, hc, he]; simp [closing]⟩
    have hle := hmin before hpre
    have hlen := congrArg List.length hc
    simp only [List.length_append, closing, List.length_cons, List.length_nil] at hlen
    omega
  · by_contra hlt
    have hcontent : content ++ ['}'] <+: text := ⟨'}' :: rest, by simp [he, closing]⟩
    have hshort : shorter ++ closing <+: content ++ ['}'] :=
      List.prefix_of_prefix_length_le hpre hcontent (by simp [closing]; omega)
    exact hno ((List.suffix_append shorter closing).isInfix.trans hshort.isInfix)

lemma ClosesAt.append {text content rest : List Char} (h : ClosesAt text content rest)
    (more : List Char) : ClosesAt (text ++ more) content (rest ++ more) := by
  obtain ⟨rfl, hno⟩ := closesAt_iff.mp h
  exact closesAt_iff.mpr ⟨by simp, hno⟩

lemma ClosesAt.unique {text c₁ r₁ c₂ r₂ : List Char} (h₁ : ClosesAt text c₁ r₁)
    (h₂ : ClosesAt text c₂ r₂) : c₁ = c₂ ∧ r₁ = r₂ := by
  have hle : c₁.length ≤ c₂.length := h₁.2 c₂ ⟨r₂, h₂.1.symm⟩
  have hge : c₂.length ≤ c₁.length := h₂.2 c₁ ⟨r₁, h₁.1.symm⟩
  have he : c₁ ++ (closing ++ r₁) = c₂ ++ (closing ++ r₂) := by
    simpa only [List.append_assoc] using h₁.1.symm.trans h₂.1
  obtain ⟨hc, hr⟩ := List.append_inj he (le_antisymm hle hge)
  exact ⟨hc, List.append_cancel_left hr⟩

lemma ClosesAt.closing_infix {text content rest : List Char} (h : ClosesAt text content rest) :
    closing <:+: text :=
  ⟨content, rest, h.1.symm⟩

lemma ClosesAt.length_lt {text content rest : List Char} (h : ClosesAt text content rest) :
    rest.length < text.length := by
  simp [h.1, closing]
  omega

lemma exists_closesAt {text : List Char} (h : closing <:+: text) :
    ∃ content rest, ClosesAt text content rest := by
  induction text with
  | nil => simp [closing] at h
  | cons c text ih =>
    by_cases hc : closing <+: c :: text
    · obtain ⟨rest, hr⟩ := hc
      exact ⟨[], rest, by simpa using hr.symm, fun _ _ => Nat.zero_le _⟩
    · have htext : closing <:+: text := (List.infix_cons_iff.mp h).resolve_left hc
      obtain ⟨content, rest, he, hmin⟩ := ih htext
      refine ⟨c :: content, rest, by simp [he], fun shorter hpre => ?_⟩
      cases shorter with
      | nil => exact absurd hpre hc
      | cons d shorter =>
        have hpre' : shorter ++ closing <+: text := (List.cons_prefix_cons.mp hpre).2
        simpa using hmin shorter hpre'

/-! ### Cuttings -/

lemma Cutting.text_eq {text : List Char} {tokens : List Token} (h : Cutting text tokens) :
    tokens.flatMap Token.text = text := by
  induction h with
  | nil => rfl
  | brace _ ih => simp [Token.text, ih]
  | block hc _ ih => simp [Token.text, ih, hc.1]
  | openBlock _ => simp [Token.text]
  | char _ _ _ ih => simp [Token.text, ih]

lemma Cutting.block_append {rest : List Char} {tokens : List Token} (h : Cutting rest tokens)
    (content : List Char) (hno : ¬ closing <:+: content ++ ['}']) :
    Cutting (opening ++ content ++ closing ++ rest) (.block content :: tokens) := by
  have hc : ClosesAt (content ++ closing ++ rest) content rest := closesAt_iff.mpr ⟨rfl, hno⟩
  simpa using Cutting.block hc h

lemma exists_cutting (text : List Char) : ∃ tokens, Cutting text tokens := by
  match text with
  | [] => exact ⟨[], .nil⟩
  | c :: rest =>
    by_cases hb : bracing <+: c :: rest
    · obtain ⟨rest', hr⟩ := hb
      obtain ⟨tokens, ht⟩ := exists_cutting rest'
      exact ⟨.brace :: tokens, hr ▸ .brace ht⟩
    by_cases ho : opening <+: c :: rest
    · obtain ⟨body, hr⟩ := ho
      by_cases hc : closing <:+: body
      · obtain ⟨content, rest', hcl⟩ := exists_closesAt hc
        obtain ⟨tokens, ht⟩ := exists_cutting rest'
        exact ⟨.block content :: tokens, hr ▸ .block hcl ht⟩
      · exact ⟨[.openBlock body], hr ▸ .openBlock hc⟩
    · obtain ⟨tokens, ht⟩ := exists_cutting rest
      exact ⟨.char c :: tokens, .char hb ho ht⟩
termination_by text.length
decreasing_by
  · simp [← hr, bracing]
  · have := hcl.length_lt
    simp [← hr, opening]
    omega
  · simp

lemma Cutting.unique {text : List Char} {tokens others : List Token} (h : Cutting text tokens)
    (h' : Cutting text others) : others = tokens := by
  induction h generalizing others with
  | nil => cases h'; rfl
  | @brace rest tokens _ ih =>
    generalize ht : bracing ++ rest = text at h'
    cases h' with
    | nil => simp [bracing] at ht
    | brace h' =>
      obtain rfl := List.append_cancel_left ht
      rw [ih h']
    | block _ _ => simp [bracing, opening] at ht
    | openBlock _ => simp [bracing, opening] at ht
    | char hb _ _ => exact absurd ⟨rest, ht⟩ hb
  | @block body content rest tokens hc _ ih =>
    generalize ht : opening ++ body = text at h'
    cases h' with
    | nil => simp [opening] at ht
    | brace _ => simp [bracing, opening] at ht
    | block hc' h' =>
      obtain ⟨rfl, rfl⟩ := hc.unique (List.append_cancel_left ht ▸ hc')
      rw [ih h']
    | openBlock hno => exact absurd hc.closing_infix (List.append_cancel_left ht ▸ hno)
    | char _ ho _ => exact absurd ⟨body, ht⟩ ho
  | @openBlock body hno =>
    generalize ht : opening ++ body = text at h'
    cases h' with
    | nil => simp [opening] at ht
    | brace _ => simp [bracing, opening] at ht
    | block hc' _ => exact absurd hc'.closing_infix (List.append_cancel_left ht ▸ hno)
    | openBlock _ => rw [List.append_cancel_left ht]
    | char _ ho _ => exact absurd ⟨body, ht⟩ ho
  | @char c rest tokens hb ho _ ih =>
    generalize ht : c :: rest = text at h'
    cases h' with
    | nil => simp at ht
    | brace _ => exact absurd (ht ▸ List.prefix_append _ _) hb
    | block _ _ => exact absurd (ht ▸ List.prefix_append _ _) ho
    | openBlock _ => exact absurd (ht ▸ List.prefix_append _ _) ho
    | char _ _ h' =>
      obtain ⟨rfl, rfl⟩ := List.cons.inj ht
      rw [ih h']

lemma existsUnique_cutting (text : List Char) : ∃! tokens, Cutting text tokens := by
  obtain ⟨tokens, h⟩ := exists_cutting text
  exact ⟨tokens, h, fun _ h' => h.unique h'⟩

lemma Cutting.closed_of_append {text : List Char} {tokens others : List Token}
    (h : Cutting text (tokens ++ others)) (hne : others ≠ []) : tokens.all Token.isClosed := by
  induction tokens generalizing text with
  | nil => rfl
  | cons token tokens ih =>
    rw [List.cons_append] at h
    generalize hu : tokens ++ others = us at h
    cases h with
    | openBlock _ => exact absurd (List.append_eq_nil_iff.mp hu).2 hne
    | brace h | block _ h | char _ _ h => simpa [Token.isClosed] using ih (hu ▸ h)

/-! ### Scanning -/

section Scanning

variable (t : Table)

lemma output_block (content : List Char) : t.output (.block content) = t.resolve content := by
  cases h : t.lookup (String.ofList content) <;> simp [Table.output, Table.resolve, h]

lemma scanLiteral_char {c : Char} {rest : List Char} (hb : ¬ bracing <+: c :: rest)
    (ho : ¬ opening <+: c :: rest) (pos : Nat) :
    t.scanLiteral pos (c :: rest) = (escaped c ++ ·) <$> t.scanLiteral (pos + 1) rest := by
  rw [Table.scanLiteral]
  · rintro tail rfl rfl
    exact hb (List.prefix_append bracing tail)
  · rintro tail rfl rfl
    exact ho (List.prefix_append opening tail)

lemma scanBlock_char {c : Char} {rest : List Char} (hc : ¬ closing <+: c :: rest) (pos start : Nat)
    (content : List Char) :
    t.scanBlock pos start content (c :: rest) = t.scanBlock (pos + 1) start (c :: content) rest := by
  rw [Table.scanBlock]
  rintro tail rfl rfl
  exact hc (List.prefix_append closing tail)

lemma scanBlock_closed {text content rest : List Char} (h : ClosesAt text content rest)
    (pos start : Nat) (before : List Char) :
    t.scanBlock pos start before text =
      (t.resolve (before.reverse ++ content) ++ ·) <$>
        t.scanLiteral (pos + content.length + 2) rest := by
  obtain ⟨rfl, hno⟩ := closesAt_iff.mp h
  clear h
  induction content generalizing pos before with
  | nil => simp [closing, Table.scanBlock]
  | cons c content ih =>
    have hc : ¬ closing <+: c :: (content ++ closing ++ rest) := by
      intro hpre
      have hshort : closing <+: c :: content ++ ['}'] :=
        List.prefix_of_prefix_length_le hpre ⟨'}' :: rest, by simp [closing]⟩ (by simp [closing])
      exact hno hshort.isInfix
    have hno' : ¬ closing <:+: content ++ ['}'] := fun hin =>
      hno (hin.trans (List.suffix_cons c _).isInfix)
    rw [List.cons_append, List.cons_append, scanBlock_char t hc, ih _ _ hno']
    simp [Nat.add_assoc, Nat.add_comm 1]

lemma scanBlock_open {text : List Char} (h : ¬ closing <:+: text) (pos start : Nat)
    (before : List Char) : t.scanBlock pos start before text = .error (.unclosed start) := by
  induction text generalizing pos before with
  | nil => rfl
  | cons c text ih =>
    have hc : ¬ closing <+: c :: text := fun hpre => h hpre.isInfix
    have htext : ¬ closing <:+: text := fun hin => h (hin.trans (List.suffix_cons c text).isInfix)
    rw [scanBlock_char t hc, ih htext]

lemma reading_append {tokens : List Token} (hc : tokens.all Token.isClosed) (others : List Token)
    (pos : Nat) :
    (t.reading (tokens ++ others)).mapError (ExpandError.shift pos) =
      (tokens.flatMap t.output ++ ·) <$>
        (t.reading others).mapError
          (ExpandError.shift (pos + (tokens.flatMap Token.text).length)) := by
  by_cases h : others.all Token.isClosed
  · simp [Table.reading, hc, h, Except.mapError]
  · have hclosed : ∀ token ∈ tokens, token.isClosed := List.all_eq_true.mp hc
    simp [Table.reading, h, Except.mapError, ExpandError.shift,
      List.takeWhile_append_of_pos hclosed]
    omega

lemma reading_cons {token : Token} (hc : token.isClosed) (tokens : List Token) (pos : Nat) :
    (t.reading (token :: tokens)).mapError (ExpandError.shift pos) =
      (t.output token ++ ·) <$>
        (t.reading tokens).mapError (ExpandError.shift (pos + token.text.length)) := by
  have hall : [token].all Token.isClosed := by simpa using hc
  have h := reading_append t hall tokens pos
  rwa [List.flatMap_singleton, List.flatMap_singleton] at h

lemma scanLiteral_eq_reading {text : List Char} {tokens : List Token} (h : Cutting text tokens)
    (pos : Nat) : t.scanLiteral pos text = (t.reading tokens).mapError (ExpandError.shift pos) := by
  induction h generalizing pos with
  | nil => rfl
  | brace _ ih =>
    rw [reading_cons t rfl, ← ih]
    rfl
  | @block text content rest tokens hc _ ih =>
    have hlen : pos + (Token.block content).text.length = pos + 2 + content.length + 2 := by
      simp [Token.text, opening, closing]
      omega
    rw [reading_cons t rfl, ← ih, output_block, hlen]
    exact scanBlock_closed t hc (pos + 2) pos []
  | openBlock hno =>
    have hscan := scanBlock_open t hno (pos + 2) pos []
    simpa [Table.reading, Token.isClosed, Except.mapError, ExpandError.shift] using! hscan
  | char hb ho _ ih =>
    rw [reading_cons t rfl, ← ih]
    exact scanLiteral_char t hb ho pos

lemma scan_eq_reading {text : List Char} {tokens : List Token} (h : Cutting text tokens) :
    t.scan text = t.reading tokens := by
  rw [Table.scan, scanLiteral_eq_reading t h]
  cases t.reading tokens <;> rfl

lemma scanLiteral_eq_mapError (pos : Nat) (text : List Char) :
    t.scanLiteral pos text = (t.scan text).mapError (ExpandError.shift pos) := by
  obtain ⟨tokens, hc⟩ := exists_cutting text
  rw [scanLiteral_eq_reading t hc, scan_eq_reading t hc]

end Scanning

namespace Table

variable {t : Table}

lemma expand_of_cutting {pattern : String} {tokens : List Token} (hn : t.lookup pattern = none)
    (h : Cutting pattern.toList tokens) : t.expand pattern = String.ofList <$> t.reading tokens := by
  rw [Table.expand, hn, scan_eq_reading t h]

lemma reading_of_closed {tokens : List Token} (hc : tokens.all Token.isClosed) :
    t.reading tokens = .ok (tokens.flatMap t.output) := if_pos hc

lemma closed_of_scan_eq_ok {text r : List Char} {tokens : List Token} (h : Cutting text tokens)
    (hr : t.scan text = .ok r) : tokens.all Token.isClosed ∧ tokens.flatMap t.output = r := by
  rw [scan_eq_reading t h, Table.reading] at hr
  split at hr
  case isTrue hclosed => exact ⟨hclosed, Except.ok.inj hr⟩
  case isFalse => cases hr

lemma closed_of_expand_eq_ok {pattern r : String} {tokens : List Token}
    (hn : t.lookup pattern = none) (hc : Cutting pattern.toList tokens)
    (hr : t.expand pattern = .ok r) :
    tokens.all Token.isClosed ∧ r = String.ofList (tokens.flatMap t.output) := by
  rw [Table.expand, hn] at hr
  cases hs : t.scan pattern.toList with
  | error e =>
    rw [hs] at hr
    cases hr
  | ok s =>
    obtain ⟨hclosed, rfl⟩ := closed_of_scan_eq_ok hc hs
    rw [hs] at hr
    exact ⟨hclosed, (Except.ok.inj hr).symm⟩

lemma expand_eq_error_iff {pattern : String} {tokens : List Token} (hn : t.lookup pattern = none)
    (h : Cutting pattern.toList tokens) :
    (∃ p, t.expand pattern = .error (.unclosed p)) ↔ tokens.all Token.isClosed = false := by
  rw [expand_of_cutting hn h, Table.reading]
  cases tokens.all Token.isClosed
  · exact ⟨fun _ => rfl, fun _ => ⟨_, rfl⟩⟩
  · refine ⟨?_, fun h => by cases h⟩
    rintro ⟨p, hp⟩
    cases hp

end Table

/-- A pattern that is no template name is expanded as its one cutting is read. -/
theorem expand_eq_reading (t : Table) (pattern : String) :
    (∃! tokens, Cutting pattern.toList tokens) ∧
      (∀ fragment, t.lookup pattern = some fragment → t.expand pattern = .ok fragment) ∧
      ∀ tokens, Cutting pattern.toList tokens →
        tokens.flatMap Token.text = pattern.toList ∧
          (t.lookup pattern = none → t.expand pattern = String.ofList <$> t.reading tokens) := by
  refine ⟨existsUnique_cutting _, fun fragment hn => ?_, fun tokens h => ⟨h.text_eq, fun hn => ?_⟩⟩
  · rw [Table.expand, hn]
  · exact Table.expand_of_cutting hn h

example : Table.builtin.reading [.block ['{', 'a'], .char '}'] = .ok ['{', 'a', '\\', '}'] := by
  decide +kernel

end TemplateGrep.Template
