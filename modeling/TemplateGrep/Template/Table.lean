namespace TemplateGrep.Template

abbrev Entry := String × String

def insertEntry (name fragment : String) : List Entry → List Entry
  | [] => [(name, fragment)]
  | (k, v) :: rest =>
      if name < k then (name, fragment) :: (k, v) :: rest
      else if name = k then (name, fragment) :: rest
      else (k, v) :: insertEntry name fragment rest

theorem fst_of_mem_insertEntry {name fragment : String} {l : List Entry} {e : Entry}
    (h : e ∈ insertEntry name fragment l) : e.1 = name ∨ e ∈ l := by
  induction l with
  | nil => simp_all [insertEntry]
  | cons p rest ih =>
      obtain ⟨k, v⟩ := p
      simp only [insertEntry] at h
      split at h
      · rcases List.mem_cons.mp h with rfl | h
        · exact .inl rfl
        · exact .inr h
      · split at h
        · rcases List.mem_cons.mp h with rfl | h
          · exact .inl rfl
          · exact .inr (List.mem_cons_of_mem _ h)
        · rcases List.mem_cons.mp h with rfl | h
          · exact .inr List.mem_cons_self
          · exact (ih h).imp_right (List.mem_cons_of_mem _)

theorem pairwise_insertEntry {name fragment : String} {l : List Entry}
    (h : l.Pairwise (·.1 < ·.1)) : (insertEntry name fragment l).Pairwise (·.1 < ·.1) := by
  induction l with
  | nil => simp [insertEntry]
  | cons p rest ih =>
      obtain ⟨k, v⟩ := p
      obtain ⟨hk, hrest⟩ := List.pairwise_cons.mp h
      simp only [insertEntry]
      split
      case isTrue hlt =>
        refine List.pairwise_cons.mpr ⟨fun e he => ?_, h⟩
        rcases List.mem_cons.mp he with rfl | he
        · exact hlt
        · exact String.lt_trans hlt (hk e he)
      case isFalse hle =>
        split
        case isTrue heq => exact heq ▸ List.pairwise_cons.mpr ⟨hk, hrest⟩
        case isFalse hne =>
          refine List.pairwise_cons.mpr ⟨fun e he => ?_, ih hrest⟩
          rcases fst_of_mem_insertEntry he with h1 | he
          · have hkn : k ≤ name := String.not_lt.mp hle
            rw [h1]
            refine String.not_le.mp fun hnk => hne ?_
            exact String.le_antisymm hnk hkn
          · exact hk e he

/-- Fragments by name. The names are in strictly increasing code point order, so a name has one
fragment and two tables with the same fragments are equal. -/
structure Table where
  entries : List Entry
  increasing : entries.Pairwise (·.1 < ·.1)
  deriving DecidableEq

namespace Table

def empty : Table := ⟨[], .nil⟩

def insert (t : Table) (name fragment : String) : Table :=
  ⟨insertEntry name fragment t.entries, pairwise_insertEntry t.increasing⟩

def ofList (pairs : List Entry) : Table :=
  pairs.foldl (fun t p => t.insert p.1 p.2) empty

def lookup (t : Table) (name : String) : Option String := t.entries.lookup name

def contains (t : Table) (name : String) : Bool := (t.lookup name).isSome

def size (t : Table) : Nat := t.entries.length

def isEmpty (t : Table) : Bool := t.entries.isEmpty

def builtin : Table := ofList
  [("int", "-?[0-9]+"),
   ("number", "-?[0-9]+(.[0-9]+)?"),
   ("uuid", "[0-9A-Fa-f-]\x7b8\x7d-[0-9A-Fa-f-]\x7b4\x7d-[0-9A-Fa-f-]\x7b4\x7d-" ++
     "[0-9A-Fa-f-]\x7b4\x7d-[0-9A-Fa-f-]\x7b12\x7d"),
   ("integer", "[0-9]+"),
   ("email", "[^ ]+@[^ ]+[.][^ ]+"),
   ("word", "\\b[a-zA-Z0-9-]+\\b")]

end Table

inductive NameError
  | empty
  | delimiter (name : String)
  | builtin (name : String)
  deriving DecidableEq, Repr

def NameError.message : NameError → String
  | .empty => "template name must not be empty"
  | .delimiter name =>
      "template name '" ++ name ++ "' must not contain '\x7b\x7b' or '\x7d\x7d'"
  | .builtin name => "template '" ++ name ++ "' is built in and cannot be redefined"

def hasDouble (c : Char) : List Char → Bool
  | a :: b :: rest => (a == c && b == c) || hasDouble c (b :: rest)
  | _ => false

def hasDelimiter (name : List Char) : Bool := hasDouble '{' name || hasDouble '}' name

def nameError? (name : String) : Option NameError :=
  if name = "" then some .empty
  else if hasDelimiter name.toList then some (.delimiter name)
  else if Table.builtin.contains name then some (.builtin name)
  else none

namespace Table

def extend (t : Table) : List Entry → Except NameError Table
  | [] => .ok t
  | (name, fragment) :: rest =>
      match nameError? name with
      | some e => .error e
      | none => extend (t.insert name fragment) rest

def withTemplates (pairs : List Entry) : Except NameError Table := builtin.extend pairs

end Table

end TemplateGrep.Template
