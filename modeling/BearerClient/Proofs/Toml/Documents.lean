import BearerClient.Proofs.Toml.Tokens

/-!
# Documents of TOML

A document of entries, and of tables by their headers, one to a line, with blanks and comments
wherever they may stand.  It is read as the table that it stands for: the entries before the first
header, and a table for each header with the entries below it.
-/

namespace BearerClient.Toml

variable {text tail rest : List Char}

/-! ## Lines -/

/-- A line, as far as it says something. -/
inductive Line where
  | empty
  | entry (key : String) (value : Value)
  | header (name : String)

/-- What may stand behind a line: blanks, and a comment. -/
inductive IsTrail : List Char → Prop where
  | blanks {blanks : List Char} (hblanks : IsBlank blanks) : IsTrail blanks
  | comment {blanks comment : List Char} (hblanks : IsBlank blanks)
      (hcomment : ∀ c ∈ comment, isTextChar c = true) : IsTrail (blanks ++ '#' :: comment)

/-- How a line is written, up to its end. -/
inductive Line.Writes : Line → List Char → Prop where
  | empty {trail : List Char} (htrail : IsTrail trail) : Writes .empty trail
  | entry {key : String} {value : Value} {lead name before after token trail : List Char}
      (hlead : IsBlank lead) (hkey : WritesKey key name) (hbefore : IsBlank before)
      (hafter : IsBlank after) (hvalue : value.Writes token) (htrail : IsTrail trail) :
      Writes (.entry key value) (lead ++ (name ++ (before ++ '=' :: (after ++ (token ++ trail)))))
  | header {key : String} {lead name before after trail : List Char} (hlead : IsBlank lead)
      (hbefore : IsBlank before) (hkey : WritesKey key name) (hafter : IsBlank after)
      (htrail : IsTrail trail) :
      Writes (.header key) (lead ++ '[' :: (before ++ (name ++ (after ++ ']' :: trail))))

/-- The end of a line. -/
def IsBreak (text : List Char) : Prop := text = ['\n'] ∨ text = ['\x0d', '\n']

/-- Lines one after another; the last one need not be ended. -/
inductive Document : List Line → List Char → Prop where
  | nil : Document [] []
  | last {line : Line} {text : List Char} (hline : line.Writes text) : Document [line] text
  | cons {line : Line} {lines : List Line} {text ending rest : List Char}
      (hline : line.Writes text) (hending : IsBreak ending) (hrest : Document lines rest) :
      Document (line :: lines) (text ++ (ending ++ rest))

/-- What a line says. -/
def Line.statements : Line → List Statement
  | .empty => []
  | .entry key value => [.entry [key] value]
  | .header name => [.header [name]]

/-! ## The end of a line -/

/-- A line ends, with more lines behind it or without. -/
inductive Closes : List Char → List Char → Prop where
  | ending {ending rest : List Char} (hending : IsBreak ending) : Closes (ending ++ rest) rest
  | whole : Closes [] []

theorem dropLines_blank {blanks : List Char} (hblanks : IsBlank blanks) :
    dropLines false (blanks ++ rest) = dropLines false rest := by
  induction blanks with
  | nil => rfl
  | cons c blanks ih =>
      rw [IsBlank, List.forall_mem_cons] at hblanks
      rw [List.cons_append, dropLines, if_pos (.inl hblanks.1)]
      exact ih hblanks.2

theorem Closes.dropLines (hcloses : Closes tail rest) (inComment : Bool) :
    dropLines inComment tail = dropLines false rest := by
  cases hcloses with
  | whole => cases inComment <;> rfl
  | ending hending =>
      rcases hending with rfl | rfl <;> cases inComment <;> simp [Toml.dropLines, isLineBreak]

theorem dropLines_comment {comment : List Char} (hcomment : ∀ c ∈ comment, isTextChar c = true)
    (hcloses : Closes tail rest) : dropLines true (comment ++ tail) = dropLines false rest := by
  induction comment with
  | nil => exact hcloses.dropLines true
  | cons c comment ih =>
      rw [List.forall_mem_cons] at hcomment
      have hbreak : ¬ isLineBreak (c :: (comment ++ tail)) = true := by
        intro hbreak
        unfold isLineBreak at hbreak
        split at hbreak
        case h_1 hsame =>
          obtain rfl := (List.cons.inj hsame).1
          exact absurd hcomment.1 (by decide)
        case h_2 hsame =>
          obtain rfl := (List.cons.inj hsame).1
          exact absurd hcomment.1 (by decide)
        case h_3 => cases hbreak
      rw [List.cons_append, dropLines, if_neg hbreak, if_pos hcomment.1]
      exact ih hcomment.2

theorem IsTrail.dropLines {trail : List Char} (htrail : IsTrail trail)
    (hcloses : Closes tail rest) : dropLines false (trail ++ tail) = dropLines false rest := by
  cases htrail with
  | blanks hblanks => rw [dropLines_blank hblanks, hcloses.dropLines]
  | comment hblanks hcomment =>
      rw [List.append_assoc, dropLines_blank hblanks, List.cons_append, Toml.dropLines]
      exact dropLines_comment hcomment hcloses

theorem IsTrail.endsLine {trail : List Char} (htrail : IsTrail trail)
    (hcloses : Closes tail rest) : endsLine (trail ++ tail) = true := by
  cases htrail with
  | blanks hblanks =>
      rw [Toml.endsLine, dropBlanks_blank hblanks]
      cases hcloses with
      | whole => rfl
      | ending hending => rcases hending with rfl | rfl <;> rfl
  | comment hblanks hcomment =>
      rw [List.append_assoc, Toml.endsLine, dropBlanks_blank hblanks]
      rfl

/-! ## Statements -/

theorem Value.Writes.head {value : Value} (hwrites : value.Writes text) :
    ∃ d chars, text = d :: chars ∧ isBlank d = false := by
  cases hwrites with
  | text hwrites =>
      cases hwrites with
      | double hspelling => exact ⟨_, _, rfl, rfl⟩
      | single hplain => exact ⟨_, _, rfl, rfl⟩
  | natural hwrites hrange =>
      cases hwrites with
      | digits hdigits =>
          obtain ⟨d, others, chars, -, rfl, hdigit⟩ := hdigits.head
          refine ⟨d, chars, rfl, isBlank_eq_false ?_ ?_⟩ <;> rintro rfl <;> cases hdigit
      | plus hdigits => exact ⟨_, _, rfl, rfl⟩
  | boolean truth => cases truth <;> exact ⟨_, _, rfl, rfl⟩

section Entry

variable {key : String} {value : Value} {lead name before after token trail : List Char}

theorem readStatement_entry (hkey : WritesKey key name) (hbefore : IsBlank before)
    (hafter : IsBlank after) (hvalue : value.Writes token) (hends : endsLine rest = true) :
    readStatement (name ++ (before ++ '=' :: (after ++ (token ++ rest)))) =
      some (.entry [key] value, rest) := by
  have hread : readEntry (readValue maxDepth)
      (name ++ (before ++ '=' :: (after ++ (token ++ rest)))) = some (([key], value), rest) := by
    have hnone : IsBlank [] := nofun
    have hpath : key? (name ++ (before ++ '=' :: (after ++ (token ++ rest)))) =
        some ([key], '=' :: (after ++ (token ++ rest))) :=
      hkey.key? hnone hbefore (by decide) (by decide) (by decide)
    have hblanks : dropBlanks (after ++ (token ++ rest)) = token ++ rest := by
      obtain ⟨d, chars, hchars, hd⟩ := hvalue.head
      rw [dropBlanks_blank hafter, hchars]
      exact dropBlanks_of_head (by simpa using hd)
    rw [readEntry, hpath]
    simp [expect?, hblanks, hvalue.readValue hends]
  obtain ⟨d, chars, hchars, -, hd⟩ := hkey.head_ne
  generalize hinput : name ++ (before ++ '=' :: (after ++ (token ++ rest))) = input at hread ⊢
  have hbracket : ∀ others, input ≠ '[' :: others := by
    rintro others rfl
    rw [hchars] at hinput
    cases hinput
    exact hd (by simp)
  unfold readStatement
  split
  · exact absurd rfl (hbracket _)
  · exact absurd rfl (hbracket _)
  · rw [hread]
    rfl

theorem readStatement_header (hbefore : IsBlank before) (hkey : WritesKey key name)
    (hafter : IsBlank after) :
    readStatement ('[' :: (before ++ (name ++ (after ++ ']' :: rest)))) =
      some (.header [key], rest) := by
  have hpath : key? (before ++ (name ++ (after ++ ']' :: rest))) = some ([key], ']' :: rest) :=
    hkey.key? hbefore hafter (by decide) (by decide) (by decide)
  obtain ⟨d, chars, hchars, -, hd⟩ := hkey.head_ne
  generalize hinput : before ++ (name ++ (after ++ ']' :: rest)) = input at hpath ⊢
  have hbracket : ∀ others, input ≠ '[' :: others := by
    rintro others rfl
    cases before with
    | nil =>
        rw [hchars] at hinput
        cases hinput
        exact hd (by simp)
    | cons b before =>
        cases hinput
        exact absurd (hbefore '[' List.mem_cons_self) (by decide)
  unfold readStatement
  split
  case h_1 hsame => exact absurd (List.cons.inj hsame).2 (hbracket _)
  case h_2 hsame =>
    cases hsame
    simp [hpath, expect?]
  case h_3 hother => exact absurd rfl (hother _)

end Entry

/-- Empty lines make no difference to what is read below them. -/
theorem readStatements_congr {other : List Char}
    (hsame : dropLines false text = dropLines false other) (bound : Nat) :
    readStatements bound text = readStatements bound other := by
  cases bound with
  | zero => rfl
  | succ bound => rw [readStatements, readStatements, hsame]

theorem readStatements_step {c : Char} {chars : List Char} {statement : Statement}
    (htext : dropLines false text = some (c :: chars))
    (hread : readStatement (c :: chars) = some (statement, rest)) (hends : endsLine rest = true)
    (bound : Nat) :
    readStatements (bound + 1) text = (readStatements bound rest).map (statement :: ·) := by
  rw [readStatements, htext]
  simp only [Option.bind_eq_bind, Option.bind_some]
  rw [hread]
  simp only [Option.bind_some, hends, if_true]
  cases readStatements bound rest <;> rfl

/-- What starts a statement is not passed over. -/
theorem dropLines_of_head {c : Char} (chars : List Char) (hblank : isBlank c = false)
    (hspecial : c ∉ ['#', '\n', '\x0d']) : dropLines false (c :: chars) = some (c :: chars) := by
  simp only [List.mem_cons, List.not_mem_nil, or_false, not_or] at hspecial
  have hbreak : ¬ isLineBreak (c :: chars) = true := by
    simp [isLineBreak, hspecial]
  simp [dropLines, hblank, hbreak, hspecial]

/-- A line is read with what it says, and leaves the lines below it. -/
theorem Line.Writes.readStatements {line : Line} (hline : line.Writes text)
    (hcloses : Closes tail rest) (bound : Nat) :
    readStatements (bound + line.statements.length) (text ++ tail) =
      (readStatements bound rest).map (line.statements ++ ·) := by
  cases hline with
  | empty htrail =>
      rw [Line.statements, List.length_nil, Nat.add_zero,
        readStatements_congr (htrail.dropLines hcloses)]
      simp
  | entry hlead hkey hbefore hafter hvalue htrail =>
      have hends := htrail.endsLine hcloses
      have hread := readStatement_entry hkey hbefore hafter hvalue hends
      obtain ⟨d, chars, rfl, hd, hspecial⟩ := hkey.head_ne
      have hplain : d ∉ ['#', '\n', '\x0d'] := mt (List.mem_append_left ['[', '\ufeff']) hspecial
      simp only [List.append_assoc, List.cons_append] at hread ⊢
      rw [Line.statements, List.length_singleton,
        readStatements_step ((dropLines_blank hlead).trans (dropLines_of_head _ hd hplain)) hread
          hends,
        readStatements_congr (htrail.dropLines hcloses)]
      rfl
  | header hlead hbefore hkey hafter htrail =>
      have hends := htrail.endsLine hcloses
      have hstart := fun others => dropLines_of_head others
        (show isBlank '[' = false by decide) (by decide)
      simp only [List.append_assoc, List.cons_append]
      rw [Line.statements, List.length_singleton,
        readStatements_step ((dropLines_blank hlead).trans (hstart _))
          (readStatement_header hbefore hkey hafter) hends,
        readStatements_congr (htrail.dropLines hcloses)]
      rfl

/-- By induction on the lines.  What they say is read with one more step for the end. -/
theorem Document.readStatements {lines : List Line} (hdocument : Document lines text)
    (bound : Nat) :
    readStatements (bound + 1 + (lines.flatMap Line.statements).length) text =
      some (lines.flatMap Line.statements) := by
  have hend : Toml.readStatements (bound + 1) [] = some [] := rfl
  induction hdocument with
  | nil => exact hend
  | last hline =>
      have hread := hline.readStatements .whole (bound + 1)
      rw [List.append_nil, hend] at hread
      rw [List.flatMap_singleton, hread]
      simp
  | cons hline hending hrest ih =>
      rw [List.flatMap_cons, List.length_append, Nat.add_comm (Line.statements _).length,
        ← Nat.add_assoc, hline.readStatements (.ending hending), ih]
      rfl

theorem Line.Writes.length_statements_le {line : Line} (hline : line.Writes text) :
    line.statements.length ≤ text.length := by
  cases hline with
  | empty htrail => exact Nat.zero_le _
  | entry => simp [Line.statements]; omega
  | header => simp [Line.statements]; omega

theorem Document.length_statements_le {lines : List Line} (hdocument : Document lines text) :
    (lines.flatMap Line.statements).length ≤ text.length := by
  induction hdocument with
  | nil => exact Nat.le_refl _
  | last hline => simpa using hline.length_statements_le
  | cons hline hending hrest ih =>
      have hfirst := hline.length_statements_le
      rw [List.flatMap_cons, List.length_append, List.length_append, List.length_append]
      omega

/-! ## Tables -/

/-- Entries before the first header, and tables by their headers. -/
structure Outline where
  entries : Members
  tables : List (String × Members)

namespace Outline

variable (outline : Outline)

def entryStatements (members : Members) : List Statement :=
  members.map fun member => .entry [member.1] member.2

def tableStatements (tables : List (String × Members)) : List Statement :=
  tables.flatMap fun table => .header [table.1] :: entryStatements table.2

/-- What the lines of the document say. -/
def statements : List Statement :=
  entryStatements outline.entries ++ tableStatements outline.tables

def tableMembers (tables : List (String × Members)) : Members :=
  tables.map fun table => (table.1, .table .header table.2)

/-- The table that the document stands for. -/
def members : Members := outline.entries ++ tableMembers outline.tables

/-- No table has a key twice. -/
structure Distinct : Prop where
  keys : (outline.members.map Prod.fst).Nodup
  inside : ∀ table ∈ outline.tables, (table.2.map Prod.fst).Nodup

end Outline

theorem lookup_eq_none {members : Members} {key : String} (hkey : key ∉ members.map Prod.fst) :
    members.lookup key = none := by
  rw [List.lookup_eq_none_iff]
  intro member hmember
  rw [bne_iff_ne]
  rintro rfl
  exact hkey (List.mem_map_of_mem hmember)

theorem lookup_eq_some {members : Members} {key : String} {value : Value}
    (hkeys : (members.map Prod.fst).Nodup) (hmember : (key, value) ∈ members) :
    members.lookup key = some value := by
  obtain ⟨before, after, rfl⟩ := List.append_of_mem hmember
  rw [List.map_append, List.nodup_append] at hkeys
  have hnew : key ∉ before.map Prod.fst := fun hkey =>
    hkeys.2.2 _ hkey key (by simp) rfl
  rw [List.lookup_append, lookup_eq_none hnew]
  simp

theorem Members.add_new {members : Members} {key : String} (hkey : key ∉ members.map Prod.fst)
    (value : Value) : members.add key value = .ok (members ++ [(key, value)]) := by
  rw [add, lookup_eq_none hkey]
  rfl

theorem Members.lookup_last {members : Members} {key : String} (hkey : key ∉ members.map Prod.fst)
    (value : Value) : (members ++ [(key, value)]).lookup key = some value := by
  rw [List.lookup_append, lookup_eq_none hkey]
  simp

theorem Members.replace_last {members : Members} {key : String}
    (hkey : key ∉ members.map Prod.fst) (value other : Value) :
    replace (members ++ [(key, value)]) key other = members ++ [(key, other)] := by
  have hsame : members.map (fun member => if member.1 = key then (key, other) else member) =
      members := by
    refine (List.map_congr_left fun member hmember => ?_).trans members.map_id
    rw [if_neg]
    · rfl
    rintro rfl
    exact hkey (List.mem_map_of_mem hmember)
  simp [replace, hsame]

namespace Draft

variable {members inner : Members} {key name : String}

theorem add_entry (hkey : key ∉ members.map Prod.fst) (value : Value) :
    add ⟨members, []⟩ (.entry [key] value) = .ok ⟨members ++ [(key, value)], []⟩ := by
  change (do .ok ⟨← members.add key value, []⟩ : Except Fault Draft) = _
  rw [Members.add_new hkey]
  rfl

theorem add_header (hname : name ∉ members.map Prod.fst) (opened : List String) :
    add ⟨members, opened⟩ (.header [name]) =
      .ok ⟨members ++ [(name, .table .header [])], [name]⟩ := by
  change (do .ok ⟨← members.openTable name, [name]⟩ : Except Fault Draft) = _
  rw [Members.openTable, lookup_eq_none hname]
  rfl

/-- An entry below a header goes to the table of that header, which is the last one. -/
theorem add_inside (hname : name ∉ members.map Prod.fst) (hkey : key ∉ inner.map Prod.fst)
    (value : Value) :
    add ⟨members ++ [(name, .table .header inner)], [name]⟩ (.entry [key] value) =
      .ok ⟨members ++ [(name, .table .header (inner ++ [(key, value)]))], [name]⟩ := by
  have hinner : inner.addEntry [key] value = .ok (inner ++ [(key, value)]) :=
    Members.add_new hkey value
  have halter : Members.alter Members.byHeader (·.addEntry [key] value) [name]
      (members ++ [(name, .table .header inner)]) =
        .ok (members ++ [(name, .table .header (inner ++ [(key, value)]))]) := by
    rw [Members.alter, Members.lookup_last hname]
    change (do .ok (Members.replace _ name (.table .header (← inner.addEntry [key] value))) :
      Except Fault Members) = _
    rw [hinner]
    exact congrArg Except.ok (Members.replace_last hname _ _)
  change (do .ok ⟨← Members.alter Members.byHeader (·.addEntry [key] value) [name] _, [name]⟩ :
    Except Fault Draft) = _
  rw [halter]
  rfl

/-- Splits the keys where the next one stands. -/
theorem nodup_next {member : String × Value} {others : Members}
    (hkeys : ((members ++ member :: others).map Prod.fst).Nodup) :
    member.1 ∉ members.map Prod.fst ∧ (((members ++ [member]) ++ others).map Prod.fst).Nodup := by
  refine ⟨fun hmember => ?_, by rwa [List.append_assoc]⟩
  rw [List.map_append, List.nodup_append] at hkeys
  exact hkeys.2.2 _ hmember _ (by simp) rfl

/-- Entries are added one by one to a table, wherever it stands in the draft. -/
theorem foldlM_entries (draft : Members → Draft)
    (hadd : ∀ {members : Members} {key : String}, key ∉ members.map Prod.fst → ∀ value,
      add (draft members) (.entry [key] value) = .ok (draft (members ++ [(key, value)])))
    {entries : Members} (hkeys : ((members ++ entries).map Prod.fst).Nodup) :
    (Outline.entryStatements entries).foldlM add (draft members) =
      .ok (draft (members ++ entries)) := by
  induction entries generalizing members with
  | nil =>
      rw [List.append_nil]
      rfl
  | cons member entries ih =>
      obtain ⟨hkey, hkeys⟩ := nodup_next hkeys
      rw [Outline.entryStatements, List.map_cons, List.foldlM_cons, hadd hkey]
      refine (ih hkeys).trans ?_
      rw [List.append_assoc]
      rfl

/-- By induction on the tables, each of which is opened with a key of its own and then filled. -/
theorem foldlM_tables {tables : List (String × Members)} {opened : List String}
    (hkeys : ((members ++ Outline.tableMembers tables).map Prod.fst).Nodup)
    (hinside : ∀ table ∈ tables, (table.2.map Prod.fst).Nodup) :
    ∃ last, (Outline.tableStatements tables).foldlM add ⟨members, opened⟩ =
      .ok ⟨members ++ Outline.tableMembers tables, last⟩ := by
  induction tables generalizing members opened with
  | nil =>
      refine ⟨opened, ?_⟩
      rw [Outline.tableMembers, List.map_nil, List.append_nil]
      rfl
  | cons table tables ih =>
      rw [List.forall_mem_cons] at hinside
      obtain ⟨hname, hkeys⟩ := nodup_next hkeys
      have hentries : (([] ++ table.2).map Prod.fst).Nodup := hinside.1
      have hfilled := foldlM_entries
        (fun inner => ⟨members ++ [(table.1, .table .header inner)], [table.1]⟩)
        (add_inside hname) hentries
      obtain ⟨last, hlast⟩ := ih hkeys hinside.2
      refine ⟨last, ?_⟩
      calc (Outline.tableStatements (table :: tables)).foldlM add ⟨members, opened⟩
        _ = (Outline.entryStatements table.2 ++ Outline.tableStatements tables).foldlM add
              ⟨members ++ [(table.1, .table .header [])], [table.1]⟩ := by
            rw [Outline.tableStatements, List.flatMap_cons, List.cons_append, List.foldlM_cons,
              add_header hname]
            rfl
        _ = (Outline.tableStatements tables).foldlM add
              ⟨members ++ [(table.1, .table .header table.2)], [table.1]⟩ := by
            rw [List.foldlM_append, hfilled]
            rfl
        _ = _ := by
            rw [hlast, List.append_assoc]
            rfl

end Draft

/-- A byte order mark does not go with any statement. -/
theorem readStatements_mark (bound : Nat) : readStatements bound ('\ufeff' :: rest) = none := by
  cases bound with
  | zero => rfl
  | succ bound =>
      simp [readStatements, dropLines, isBlank, isLineBreak, readStatement, readEntry, key?,
        keyWithin, keyPart?, quotedKey?, dropBlanks, isBareChar]

/-- A document whose lines say the statements of an outline stands for its table. -/
theorem Document.parse {lines : List Line} {outline : Outline} (hdocument : Document lines text)
    (hlines : lines.flatMap Line.statements = outline.statements)
    (hdistinct : outline.Distinct) : parse (String.ofList text) = .ok outline.members := by
  have hread : Toml.readStatements (text.length + 1) text = some outline.statements := by
    obtain ⟨bound, hbound⟩ : ∃ bound, text.length + 1 =
        bound + 1 + (lines.flatMap Line.statements).length := by
      have hle := hdocument.length_statements_le
      exact ⟨text.length - (lines.flatMap Line.statements).length, by omega⟩
    rw [hbound, hdocument.readStatements, hlines]
  have hmark : dropMark text = text := by
    unfold dropMark
    split
    · rw [readStatements_mark] at hread
      cases hread
    · rfl
  have hkeys : (outline.entries.map Prod.fst).Nodup := by
    have hall := hdistinct.keys
    rw [Outline.members, List.map_append, List.nodup_append] at hall
    exact hall.1
  have hentries : (Outline.entryStatements outline.entries).foldlM Draft.add {} =
      .ok ⟨outline.entries, []⟩ :=
    Draft.foldlM_entries (fun members => ⟨members, []⟩) Draft.add_entry hkeys
  obtain ⟨last, htables⟩ : ∃ last, (Outline.tableStatements outline.tables).foldlM Draft.add
      ⟨outline.entries, []⟩ = .ok ⟨outline.members, last⟩ :=
    Draft.foldlM_tables hdistinct.keys hdistinct.inside
  rw [Toml.parse, String.toList_ofList, hmark, hread]
  dsimp only
  rw [Outline.statements, List.foldlM_append, hentries]
  change (·.members) <$> (Outline.tableStatements outline.tables).foldlM Draft.add _ = _
  rw [htables]
  rfl

end BearerClient.Toml
