import Mathlib
import TemplateGrep.Proofs.Yaml.Lexing
import TemplateGrep.Yaml.Document

namespace TemplateGrep.Yaml

open ScalarWriter (style)

def entryTokens (style : String → ScalarStyle) (e : String × String) : List Token :=
  [.key, .scalar e.1 (style e.1), .value, .scalar e.2 (style e.2)]

namespace LexerState

variable {p : Position} {tokens tokens' : List Token} {indents outer : List Nat} {k : Nat}
  {tail : List Char}

lemma keyMark_eq (p : Position) (tokens : List Token) (indents : List Nat) :
    keyMark ⟨p, (closeBlocks (some p.column) indents tokens).2,
        (closeBlocks (some p.column) indents tokens).1, true, none, []⟩ =
      some ⟨p.next, .key :: (enter p.column indents tokens).2, (enter p.column indents tokens).1,
        true, none, []⟩ := by
  rw [enter]
  obtain ⟨is, ts⟩ := closeBlocks (some p.column) indents tokens
  simp only [keyMark, open?, isDeeper_eq]
  cases is.head?.all (· < p.column) <;> rfl

lemma leads_keyMark {rest : List Char} (hrest : blankAhead rest = true) (p : Position)
    (tokens : List Token) (indents : List Nat) :
    Leads ⟨p, tokens, indents, true, none, []⟩ ('?' :: rest)
      ⟨p.next, .key :: (enter p.column indents tokens).2, (enter p.column indents tokens).1, true,
        none, []⟩ rest := by
  have hsettle := @settle_token p tokens indents true none ('?' :: rest)
    (ScalarWriter.startsToken_mark (by decide) rest) (by simp)
  have hdoc : isDocumentMark ('?' :: rest) = false := rfl
  refine .of_step hsettle (by simp) ?_ (Nat.lt_succ_self _)
  simp [step, hdoc, hrest, keyMark_eq]

lemma leads_valueMark {rest : List Char} (hrest : blankAhead rest = true) (p : Position)
    (tokens : List Token) (outer : List Nat) :
    Leads ⟨p, tokens, p.column :: outer, true, none, []⟩ (':' :: rest)
      ⟨p.next, .value :: tokens, p.column :: outer, true, none, []⟩ rest := by
  have hsettle := @settle_token p tokens (p.column :: outer) true none (':' :: rest)
    (ScalarWriter.startsToken_mark (by decide) rest) (by simp)
  rw [closeBlocks_of_le (head?_le (Nat.le_refl _))] at hsettle
  have hdoc : isDocumentMark (':' :: rest) = false := rfl
  refine .of_step hsettle (by simp) ?_ (Nat.lt_succ_self _)
  simp [step, hdoc, hrest, valueMark, inFlow, open?, isDeeper, mark, emit]

lemma entry_eq (key value : String) : ScalarWriter.entry key value =
    ' ' :: ' ' :: (ScalarWriter.entry key value).drop 2 := by
  rw [ScalarWriter.entry]
  split <;> rfl

lemma startsToken_entry (key value : String) (rest : List Char) :
    StartsToken ((ScalarWriter.entry key value).drop 2 ++ rest) := by
  rw [ScalarWriter.entry]
  split
  · simp only [List.cons_append, List.nil_append, List.drop_succ_cons, List.drop_zero,
      List.append_assoc]
    exact ScalarWriter.startsToken_inline key _
  · exact ScalarWriter.startsToken_mark (by decide) _

lemma exists_leads_entry (key value : String) (hp : p.column = 2)
    (henter : enter 2 indents tokens = (2 :: outer, tokens')) (hk : k ≤ 2)
    (htail : StartsToken tail) :
    ∃ q : Position, q.column = k ∧
      Leads ⟨p, tokens, indents, true, none, []⟩
        ((ScalarWriter.entry key value).drop 2 ++ (List.replicate k ' ' ++ tail))
        ⟨q, (entryTokens style (key, value)).reverse ++ tokens', 2 :: outer, true, none, []⟩
        tail := by
  rw [ScalarWriter.entry]
  split
  case isTrue hsimple =>
    obtain ⟨hstyle, hline, hlen⟩ := ScalarWriter.inline_of_isSimpleKey hsimple
    have hrest : blankAhead (' ' :: (ScalarWriter.line value ++ (List.replicate k ' ' ++ tail))) =
        true := rfl
    obtain ⟨q, hq, hkey⟩ := exists_leads_key (scans_key key hrest hstyle)
      (ScalarWriter.inline_ne_nil key) (ScalarWriter.startsToken_inline key _) hline hlen hrest p
      tokens indents
    rw [hp, henter] at hkey
    obtain ⟨q', hq', hvalue⟩ := exists_leads_line value (hp ▸ hq) hk htail
      (.value :: .scalar key (style key) :: .key :: tokens') outer false
    refine ⟨q', hq', Leads.trans ?_ hvalue⟩
    simpa using hkey
  case isFalse =>
    have hcol : ∀ {q : Position}, q.column = 2 → 2 ≤ q.next.column := fun hq =>
      hq.symm.le.trans (Nat.le_succ _)
    have hstart := ScalarWriter.startsToken_mark (c := ':') (by decide)
      (' ' :: (ScalarWriter.line value ++ (List.replicate k ' ' ++ tail)))
    obtain ⟨q, hq, hkey⟩ := exists_leads_line key (hcol hp) (Nat.le_refl 2) hstart
      (.key :: tokens') outer true
    obtain ⟨q', hq', hvalue⟩ := exists_leads_line value (hcol hq) hk htail
      (.value :: .scalar key (style key) :: .key :: tokens') outer true
    have hmark := leads_keyMark (rfl : blankAhead (' ' :: (ScalarWriter.line key ++
      (List.replicate 2 ' ' ++ ':' :: ' ' ::
        (ScalarWriter.line value ++ (List.replicate k ' ' ++ tail))))) = true) p tokens indents
    have hcolon := leads_valueMark (rfl : blankAhead (' ' :: (ScalarWriter.line value ++
      (List.replicate k ' ' ++ tail))) = true) q (.scalar key (style key) :: .key :: tokens') outer
    rw [hp, henter] at hmark
    rw [hq] at hcolon
    refine ⟨q', hq', Leads.trans ?_ (hkey.trans (hcolon.trans hvalue))⟩
    simpa using hmark

lemma exists_leads_entries (e : String × String) (es : List (String × String)) (hp : p.column = 2)
    (henter : enter 2 indents tokens = (2 :: outer, tokens')) (htail : StartsToken tail) :
    ∃ q : Position, q.column = 0 ∧
      Leads ⟨p, tokens, indents, true, none, []⟩
        ((ScalarWriter.entry e.1 e.2).drop 2 ++
          (es.flatMap (fun e => ScalarWriter.entry e.1 e.2) ++ tail))
        ⟨q, ((e :: es).flatMap (entryTokens style)).reverse ++ tokens', 2 :: outer, true, none, []⟩
        tail := by
  induction es generalizing e p tokens tokens' indents with
  | nil =>
    obtain ⟨q, hq, hlead⟩ := exists_leads_entry e.1 e.2 hp henter (Nat.zero_le 2) htail
    exact ⟨q, hq, by simpa using hlead⟩
  | cons e' es ih =>
    have hnext := startsToken_entry e'.1 e'.2
      (es.flatMap (fun e => ScalarWriter.entry e.1 e.2) ++ tail)
    obtain ⟨q, hq, hlead⟩ := exists_leads_entry e.1 e.2 hp henter (Nat.le_refl 2) hnext
    have henter' : enter 2 (2 :: outer) ((entryTokens style e).reverse ++ tokens') =
      (2 :: outer, (entryTokens style e).reverse ++ tokens') := rfl
    obtain ⟨q', hq', hlead'⟩ := ih e' hq henter'
    refine ⟨q', hq', Leads.trans ?_ (by simpa using hlead')⟩
    have hindent : (e' :: es).flatMap (fun e => ScalarWriter.entry e.1 e.2) ++ tail =
        List.replicate 2 ' ' ++ ((ScalarWriter.entry e'.1 e'.2).drop 2 ++
          (es.flatMap (fun e => ScalarWriter.entry e.1 e.2) ++ tail)) := by
      rw [List.flatMap_cons, List.append_assoc]
      exact congrArg (· ++ _) (entry_eq e'.1 e'.2)
    rw [hindent]
    exact hlead

structure IsPlainKey (key : String) : Prop where
  plain : IsPlain key.toList
  length_le : key.toList.length ≤ keyLength

lemma IsPlainKey.exists_leads {key : String} (h : IsPlainKey key) {rest : List Char}
    (hrest : blankAhead rest = true) (p : Position) (tokens : List Token) (indents : List Nat) :
    ∃ q : Position, p.column ≤ q.column ∧
      Leads ⟨p, tokens, indents, true, none, []⟩ (key.toList ++ ':' :: rest)
        ⟨q, .value :: .scalar key .plain :: .key :: (enter p.column indents tokens).2,
          (enter p.column indents tokens).1, false, none, []⟩ rest :=
  exists_leads_key (scans_plain h.plain hrest) h.plain.ne_nil
    (ScalarWriter.startsToken_plain h.plain _) h.plain.isBreak_eq_false h.length_le hrest p tokens
    indents

lemma IsPlainKey.exists_leads_entry {key value : String} (h : IsPlainKey key)
    (hvalue : IsPlain value.toList)
    (henter : enter p.column indents tokens = (p.column :: outer, tokens'))
    (hk : k ≤ p.column) (htail : StartsToken tail) :
    ∃ q : Position, q.column = k ∧
      Leads ⟨p, tokens, indents, true, none, []⟩
        (key.toList ++ ':' :: ' ' :: (value.toList ++ '\n' :: (List.replicate k ' ' ++ tail)))
        ⟨q, (entryTokens (fun _ => .plain) (key, value)).reverse ++ tokens', p.column :: outer, true,
          none, []⟩ tail := by
  have hrest : blankAhead (' ' :: (value.toList ++ '\n' :: (List.replicate k ' ' ++ tail))) = true :=
    rfl
  obtain ⟨q, hq, hlead⟩ := h.exists_leads hrest p tokens indents
  rw [henter] at hlead
  obtain ⟨q', hq', hlead'⟩ := exists_leads_plain hvalue hq hk htail
    (.value :: .scalar key .plain :: .key :: tokens') outer false
  rw [String.ofList_toList] at hlead'
  exact ⟨q', hq', hlead.trans hlead'⟩

end LexerState

section Nodes

variable {α : Type} {handles : Handles}

def entryNode (style : String → ScalarStyle) (e : String × String) : Node α × Node α :=
  (.scalar {} e.1 (style e.1), .scalar {} e.2 (style e.2))

lemma readNode_scalar (handles : Handles) (fuel : Nat) (place : Place) (text : String)
    (style : ScalarStyle) (rest : List Token) :
    readNode handles (fuel + 1) place (.scalar text style :: rest) =
      some (.scalar {} text style, rest) := rfl

lemma readNode_mapping (handles : Handles) (fuel : Nat) {place : Place} (hplace : place ≠ .flow)
    (ts : List Token) :
    readNode handles (fuel + 1) place (.blockMappingStart :: ts) =
      (readEntries handles fuel ts).map fun read => (.mapping {} read.1, read.2) := by
  rw [readNode]
  · simp only [readProperties, hplace, Option.bind_eq_bind, Option.bind_some, if_false]
    cases readEntries handles fuel ts <;> rfl
  · rintro name rest ⟨⟩

lemma readEntries_key (handles : Handles) (fuel : Nat) (key : String) (style : ScalarStyle)
    {ts : List Token} (hts : leavesOutEntry ts = false) :
    readEntries handles (fuel + 2) (.key :: .scalar key style :: .value :: ts) =
      (readNode handles (fuel + 1) .entry ts).bind fun value =>
        (readEntries handles (fuel + 1) value.2).map fun entries =>
          ((.scalar {} key style, value.1) :: entries.1, entries.2) := by
  have hkey : leavesOutEntry (.scalar key style :: .value :: ts) = false := rfl
  rw [readEntries]
  simp only [orBlank, hkey, hts, valueOrBlank, readNode_scalar, Bool.false_eq_true, if_false,
    Option.bind_eq_bind, Option.bind_some]
  cases readNode handles (fuel + 1) .entry ts with
  | none => rfl
  | some value => cases h : readEntries handles (fuel + 1) value.2 <;> simp [h]

lemma readEntries_entryTokens (handles : Handles) (style : String → ScalarStyle)
    (es : List (String × String)) {fuel : Nat} (hfuel : es.length < fuel) (rest : List Token) :
    readEntries handles fuel (es.flatMap (entryTokens style) ++ .blockEnd :: rest) =
      some (es.map (entryNode style), rest) := by
  induction es generalizing fuel with
  | nil =>
    obtain ⟨n, rfl⟩ := Nat.exists_eq_add_one_of_ne_zero (Nat.ne_zero_of_lt hfuel)
    rfl
  | cons e es ih =>
    rw [List.length_cons] at hfuel
    obtain ⟨n, rfl⟩ : ∃ n, fuel = n + 2 := ⟨fuel - 2, by omega⟩
    have hvalue : leavesOutEntry (.scalar e.2 (style e.2) ::
        (es.flatMap (entryTokens style) ++ .blockEnd :: rest)) = false := rfl
    rw [List.flatMap_cons, entryTokens, List.append_assoc]
    simp only [List.cons_append, List.nil_append]
    rw [readEntries_key handles n e.1 (style e.1) hvalue, readNode_scalar, Option.bind_some,
      ih (by omega)]
    rfl

lemma numberEntries_entryNode (style : String → ScalarStyle) (es : List (String × String)) :
    Node.numberEntries [] (es.map (entryNode style)) = some ([], es.map (entryNode style)) := by
  induction es with
  | nil => rfl
  | cons e es ih =>
    rw [List.map_cons, entryNode, Node.numberEntries]
    simp only [Node.numberNode, Node.Anchors.enter, ih, Option.bind_eq_bind, Option.bind_some]
    rfl

end Nodes

end TemplateGrep.Yaml
