import SwimSets.Proofs.Written

/-!
# A document of tables is read back

**Theorem (`read_document`).** A document that is written table by table, each under its header and
with an empty line before the next, is read as these tables with these entries, in their order, if
no two tables share a name. What is written under a header goes into its table and nowhere else.

**Two steps.** Reading the lines gives the statements, one for each line that is not empty
(`statements_document`). Carrying them out builds the tables: a header of a new name opens an empty
table behind the others (`perform_table`), and a new key goes to the end of the table that the last
header opened (`perform_pair`). By induction the settings fill their table and the sections the
document.

So the writer and the reader of the program keep to TOML (`Format.Lawful`).
-/

namespace SwimSets.Toml

open Reader

/-! ## Lines and what they say -/

namespace Section

/-- The lines of a section, each with the statement it makes. -/
def lines (s : Section) : List (Text × Option Statement) :=
  (headerLine s.name, some (.table [s.name])) ::
    s.settings.map fun e => (entryLine e.key e.text, some (.pair [e.key] (.leaf e.value)))

theorem text_eq (s : Section) : s.text = s.lines.flatMap Prod.fst := by
  rw [text, lines, List.flatMap_cons, List.flatMap_map]

/-- The entries of a section, as they are put into its table. -/
def nodes (s : Section) : Nodes := s.settings.map fun e => (e.key, .leaf e.value)

/-- The table that is made for a section. -/
def node (s : Section) : Text × Node := (s.name, .table .explicit s.nodes)

end Section

/-- The lines of a document, with an empty one between sections. -/
def documentLines : List Section → List (Text × Option Statement)
  | [] => []
  | [s] => s.lines
  | s :: ss => s.lines ++ (['\n'], none) :: documentLines ss

theorem document_eq (ss : List Section) : document ss = (documentLines ss).flatMap Prod.fst := by
  induction ss with
  | nil => rfl
  | cons s ss ih =>
    cases ss with
    | nil => exact s.text_eq
    | cons s' ss =>
      have hcut : document (s :: s' :: ss) = s.text ++ ['\n'] ++ document (s' :: ss) := rfl
      rw [hcut, ih]
      simp [documentLines, Section.text_eq]

/-! ## Reading the lines -/

theorem line_of_mem {s : Section} {l : Text × Option Statement} (h : l ∈ s.lines) :
    l.1 ≠ [] ∧ ∀ r, line (l.1 ++ r) = some (l.2, r) := by
  rcases List.mem_cons.1 h with rfl | h
  · exact ⟨List.cons_ne_nil _ _, line_header s.bare⟩
  · obtain ⟨e, -, rfl⟩ := List.mem_map.1 h
    refine ⟨?_, line_entry e.bare e.writes⟩
    simp [entryLine]

theorem line_of_mem_document {ss : List Section} {l : Text × Option Statement}
    (h : l ∈ documentLines ss) : l.1 ≠ [] ∧ ∀ r, line (l.1 ++ r) = some (l.2, r) := by
  induction ss with
  | nil => cases h
  | cons s ss ih =>
    cases ss with
    | nil => exact line_of_mem h
    | cons s' ss =>
      rcases List.mem_append.1 h with h | h
      · exact line_of_mem h
      · rcases List.mem_cons.1 h with rfl | h
        · exact ⟨List.cons_ne_nil _ _, line_blank⟩
        · exact ih h

/-- The statements of a section: its header, and a pair for each setting. -/
def Section.statements (s : Section) : List Statement :=
  .table [s.name] :: s.settings.map fun e => .pair [e.key] (.leaf e.value)

theorem filterMap_lines (s : Section) : s.lines.filterMap Prod.snd = s.statements := by
  rw [Section.lines, List.filterMap_cons, List.filterMap_map, Section.statements,
    ← List.filterMap_eq_map]
  rfl

theorem filterMap_documentLines (ss : List Section) :
    (documentLines ss).filterMap Prod.snd = ss.flatMap Section.statements := by
  induction ss with
  | nil => rfl
  | cons s ss ih =>
    cases ss with
    | nil => simp [documentLines, filterMap_lines]
    | cons s' ss =>
      rw [documentLines, List.filterMap_append, List.filterMap_cons, ih, filterMap_lines,
        List.flatMap_cons]
      · rfl
      · simp

/-- No document starts with a byte order mark. -/
theorem dropMark_document (ss : List Section) : dropMark (document ss) = document ss := by
  cases ss with
  | nil => rfl
  | cons s ss =>
    rw [document_eq]
    cases ss <;> rfl

/-- **The lines of a document make the statements of its sections.** -/
theorem statements_document (ss : List Section) :
    statements (document ss) = some (ss.flatMap Section.statements) := by
  have hrounds := rounds_pieces (s := line) (r := []) (documentLines ss)
    (fun l hl => line_of_mem_document hl) rfl
  have hmany := hrounds.many
  rw [List.append_nil, ← document_eq] at hmany
  simp only [statements, dropMark_document, hmany, ← filterMap_documentLines, List.filterMap_map]
  rfl

/-! ## Carrying out the statements -/

theorem alter_of_new {k : Text} {es : Nodes} (h : k ∉ es.map Prod.fst)
    (change : Option Node → Option Node) :
    alter k change es = (change none).map fun v => es ++ [(k, v)] := by
  induction es with
  | nil => rfl
  | cons e es ih =>
    obtain ⟨k', v⟩ := e
    have hne : k' ≠ k := fun heq => h (by simp [heq])
    have hes : k ∉ es.map Prod.fst := fun hmem => h (List.mem_cons_of_mem _ hmem)
    rw [alter, if_neg hne, ih hes]
    cases change none <;> rfl

theorem alter_of_last {k : Text} {es : Nodes} (h : k ∉ es.map Prod.fst) (v : Node)
    (change : Option Node → Option Node) :
    alter k change (es ++ [(k, v)]) = (change (some v)).map fun w => es ++ [(k, w)] := by
  induction es with
  | nil => simp [alter]
  | cons e es ih =>
    obtain ⟨k', v'⟩ := e
    have hne : k' ≠ k := fun heq => h (by simp [heq])
    have hes : k ∉ es.map Prod.fst := fun hmem => h (List.mem_cons_of_mem _ hmem)
    rw [List.cons_append, alter, if_neg hne, ih hes]
    cases change (some v) <;> rfl

/-- A header of a new name opens an empty table behind the others. -/
theorem perform_table {name : Text} {es : Nodes} (h : name ∉ es.map Prod.fst)
    (last : List Text) :
    Statement.perform ⟨last, es⟩ (.table [name]) =
      some ⟨[name], es ++ [(name, .table .explicit [])]⟩ := by
  simp [Statement.perform, Statement.onPath, openTable, descend, alter_of_new h]

/-- A new key goes to the end of the table that the last header opened. -/
theorem perform_pair {name k : Text} {es inside : Nodes} (h : name ∉ es.map Prod.fst)
    (hk : k ∉ inside.map Prod.fst) (v : Node) :
    Statement.perform ⟨[name], es ++ [(name, .table .explicit inside)]⟩ (.pair [k] v) =
      some ⟨[name], es ++ [(name, .table .explicit (inside ++ [(k, v)]))]⟩ := by
  simp [Statement.perform, descend, alter_of_last h, putPair, addEntry, alter_of_new hk]

/-- The settings under a header fill its table in their order. -/
theorem perform_settings {name : Text} {es : Nodes} (h : name ∉ es.map Prod.fst)
    (settings : List Setting) (inside : Nodes)
    (hdistinct : (inside.map Prod.fst ++ settings.map Setting.key).Nodup) :
    (settings.map fun e => Statement.pair [e.key] (.leaf e.value)).foldlM Statement.perform
        ⟨[name], es ++ [(name, .table .explicit inside)]⟩ =
      some ⟨[name], es ++ [(name, .table .explicit
        (inside ++ settings.map fun e => (e.key, .leaf e.value)))]⟩ := by
  induction settings generalizing inside with
  | nil => simp
  | cons e settings ih =>
    have hnew : e.key ∉ inside.map Prod.fst := by
      intro hmem
      exact (List.nodup_append.1 hdistinct).2.2 _ hmem _ List.mem_cons_self rfl
    have hrest := ih (inside ++ [(e.key, .leaf e.value)]) (by simpa using hdistinct)
    rw [List.map_cons, List.foldlM_cons, perform_pair h hnew]
    simpa using hrest

theorem perform_section (s : Section) {es : Nodes} (h : s.name ∉ es.map Prod.fst)
    (last : List Text) :
    s.statements.foldlM Statement.perform ⟨last, es⟩ = some ⟨[s.name], es ++ [s.node]⟩ := by
  have hsettings := perform_settings h s.settings [] (by simpa using s.distinct)
  rw [Section.statements, List.foldlM_cons, perform_table h]
  exact hsettings

theorem perform_sections (ss : List Section) (es : Nodes)
    (hdistinct : (es.map Prod.fst ++ ss.map Section.name).Nodup) (last : List Text) :
    ∃ last', (ss.flatMap Section.statements).foldlM Statement.perform ⟨last, es⟩ =
      some ⟨last', es ++ ss.map Section.node⟩ := by
  induction ss generalizing es last with
  | nil => exact ⟨last, by simp⟩
  | cons s ss ih =>
    have hnew : s.name ∉ es.map Prod.fst := by
      intro hmem
      exact (List.nodup_append.1 hdistinct).2.2 _ hmem _ List.mem_cons_self rfl
    obtain ⟨last', hrest⟩ :=
      ih (es ++ [s.node]) (by simpa [Section.node] using hdistinct) [s.name]
    refine ⟨last', ?_⟩
    rw [List.flatMap_cons, List.foldlM_append, perform_section s hnew]
    simpa using hrest

/-- What is left of the tables in the end. -/
theorem entries_sections (ss : List Section) :
    Node.entries (ss.map Section.node) = ss.map Section.table := by
  have hentries (settings : List Setting) :
      Node.entries (settings.map fun e => (e.key, .leaf e.value)) =
        settings.map fun e => (e.key, e.value) := by
    induction settings with
    | nil => rfl
    | cons e settings ih =>
      rw [List.map_cons, Node.entries, ih]
      rfl
  induction ss with
  | nil => rfl
  | cons s ss ih =>
    have htable : (Node.table .explicit s.nodes).value = .table s.entries := by
      rw [Node.value, Section.nodes, hentries]
      rfl
    rw [List.map_cons, Section.node, Node.entries, ih, htable]
    rfl

/-- **A document is read as the tables of its sections.** -/
theorem read_document {ss : List Section} (h : (ss.map Section.name).Nodup) :
    read (document ss) = some (ss.map Section.table) := by
  obtain ⟨last, hperform⟩ := perform_sections ss [] (by simpa using h) []
  rw [read, statements_document, Option.bind_some, hperform, Option.map_some, List.nil_append,
    entries_sections]

/-- The writer and the reader of the program keep to TOML. -/
instance : Format.Lawful where
  quote_letters _ := quote_letters
  quote_oneLine _ _ := eq_of_oneLine_quote
  read_document _ := read_document

end SwimSets.Toml
