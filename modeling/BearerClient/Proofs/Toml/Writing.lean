import BearerClient.Proofs.Toml.Documents

/-!
# Writing TOML

One way to write a document, in which every text and every key can be written.  What is written is
read back.
-/

namespace BearerClient.Toml

/-! ## Texts and keys -/

/-- A character between double marks: itself where it can be, or else an escape. -/
def spell (c : Char) : List Char :=
  if c = '"' ∨ c = '\\' then ['\\', c]
  else if isTextChar c then [c]
  else ['\\', 'u', '0', '0', Nat.digitChar (c.toNat / 16), Nat.digitChar (c.toNat % 16)]

def writeText (content : String) : List Char := '"' :: content.toList.flatMap spell ++ ['"']

/-- A key, between marks where it has to be. -/
def writeKey (key : String) : List Char :=
  if key.toList ≠ [] ∧ key.toList.all isBareChar then key.toList else writeText key

theorem hexValue?_digitChar {n : Nat} (hn : n < 0x80) :
    hexValue? 0 ['0', '0', Nat.digitChar (n / 16), Nat.digitChar (n % 16)] = some n := by
  revert n
  decide

theorem spells_spell (c : Char) : Spells c (spell c) := by
  unfold spell
  split
  case isTrue hmark => rcases hmark with rfl | rfl <;> exact .letter rfl
  case isFalse hmark =>
    rw [not_or] at hmark
    split
    case isTrue hplain => exact .itself hplain hmark.1 hmark.2
    case isFalse hplain =>
      have hsmall : c.toNat < 0x80 := by
        simp only [isTextChar, Bool.or_eq_true, Bool.and_eq_true, decide_eq_true_eq, bne_iff_ne,
          not_or, not_and, Decidable.not_not] at hplain
        omega
      exact .code rfl (hexValue?_digitChar hsmall)

theorem spelling_flatMap (content : List Char) : Spelling content (content.flatMap spell) := by
  induction content with
  | nil => exact .nil
  | cons c content ih => exact .cons (spells_spell c) ih

theorem writes_writeText (content : String) : Quotes.Writes content (writeText content) :=
  .double (spelling_flatMap content.toList)

theorem writesKey_writeKey (key : String) : WritesKey key (writeKey key) := by
  unfold writeKey
  split
  case isTrue hbare => exact .bare hbare.1 (List.all_eq_true.1 hbare.2)
  case isFalse => exact .quoted (writes_writeText key)

/-! ## Documents -/

/-- A text, a natural number or a truth value. -/
def Value.write : Value → List Char
  | .text content => writeText content
  | .scalar (.integer n) => Nat.toDigits 10 n.toNat
  | .scalar (.boolean truth) => if truth then "true".toList else "false".toList
  | _ => []

def Line.write : Line → List Char
  | .empty => []
  | .entry key value => writeKey key ++ ' ' :: '=' :: ' ' :: value.write
  | .header name => '[' :: (writeKey name ++ [']'])

def write (lines : List Line) : List Char := lines.flatMap fun line => line.write ++ ['\n']

/-- The value of an entry can be written in one line. -/
def Line.Plain : Line → Prop
  | .entry _ value => value.Writes value.write
  | _ => True

theorem Line.Plain.writes {line : Line} (hplain : line.Plain) : line.Writes line.write := by
  have hblank : IsBlank [' '] := List.forall_mem_singleton.2 rfl
  have hend : IsTrail [] := .blanks nofun
  cases line with
  | empty => exact .empty hend
  | entry key value =>
      have hwrites : (Line.entry key value).Writes
          ([] ++ (writeKey key ++ ([' '] ++ '=' :: ([' '] ++ (value.write ++ []))))) :=
        .entry nofun (writesKey_writeKey key) hblank hblank hplain hend
      rwa [List.append_nil] at hwrites
  | header name =>
      have hwrites : (Line.header name).Writes
          ([] ++ '[' :: ([] ++ (writeKey name ++ ([] ++ ']' :: [])))) :=
        .header nofun nofun (writesKey_writeKey name) nofun hend
      exact hwrites

theorem document_write {lines : List Line} (hplain : ∀ line ∈ lines, line.Plain) :
    Document lines (write lines) := by
  induction lines with
  | nil => exact .nil
  | cons line lines ih =>
      rw [List.forall_mem_cons] at hplain
      rw [write, List.flatMap_cons, List.append_assoc]
      exact .cons hplain.1.writes (.inl rfl) (ih hplain.2)

/-- The lines of an outline. -/
def Outline.lines (outline : Outline) : List Line :=
  outline.entries.map (fun member => .entry member.1 member.2) ++
    outline.tables.flatMap fun table =>
      .header table.1 :: table.2.map fun member => .entry member.1 member.2

theorem Outline.statements_lines (outline : Outline) :
    outline.lines.flatMap Line.statements = outline.statements := by
  have hentries (members : Members) :
      (members.map fun member => Line.entry member.1 member.2).flatMap Line.statements =
        entryStatements members := by
    rw [List.flatMap_map, entryStatements, List.map_eq_flatMap]
    rfl
  rw [lines, List.flatMap_append, hentries, List.flatMap_assoc, statements, tableStatements]
  congr 2
  funext table
  rw [List.flatMap_cons, hentries]
  rfl

end BearerClient.Toml
