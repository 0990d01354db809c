import Mathlib.Data.List.Basic
import MappingDdl.Statement.Render

/-!
# Wording — what the statements say, letter for letter

The text of a statement is put together from the texts of its parts. Several statements share some
of these, and each dialect has its own. Here the whole texts are spelled out, one rule for each kind
of statement (`Statement.Worded`). What the rules build on is small: names between quotes, the
columns of a table, and whether the primary key of the table stands behind them.

Main results:

* `Style.renderSequence_eq_ok_iff` — when the creation of a sequence can be written, and how.
* `Statement.render_eq_ok_iff` — statements are written as the rules say, and in no other case.
-/

namespace MappingDdl

/-! ## Names -/

namespace Text.Quoted

/-- The characters with each of the marks written twice. -/
def doubleAll (marks cs : List Char) : List Char :=
  cs.flatMap fun c => if c ∈ marks then [c, c] else [c]

/-- To double one character is to double the characters of a list with only this one. -/
theorem double_eq_doubleAll (quote : Char) (cs : List Char) :
    double quote cs = doubleAll [quote] cs := by
  refine List.flatMap_congr fun c _ => ?_
  simp only [List.mem_singleton]
  split
  · next hQuote => rw [hQuote]
  · rfl

/-- Doubling one mark after the other doubles both. -/
theorem double_double {a b : Char} (h : b ≠ a) (cs : List Char) :
    double a (double b cs) = doubleAll [a, b] cs := by
  rw [double, double, List.flatMap_assoc]
  refine List.flatMap_congr fun c _ => ?_
  by_cases ha : c = a
  · simp [ha, h.symm]
  · by_cases hb : c = b <;> simp [ha, hb, h]

/-- A text between two others, with the marks in it doubled. -/
def between (before after : String) (marks : List Char) (s : String) : String :=
  before ++ String.ofList (doubleAll marks s.toList) ++ after

/-- A text in apostrophes. One with a backslash in it is marked by a leading blank and an `E`, and
its backslashes are doubled, too. -/
def apostrophized (s : String) : String :=
  if '\\' ∈ s.toList then between " E'" "'" ['\'', '\\'] s else between "'" "'" ['\''] s

/-- A literal is the text with its apostrophes and backslashes doubled. -/
theorem literal_eq_apostrophized (s : String) : literal s = apostrophized s := by
  unfold literal apostrophized between
  rw [double_double (by decide)]
  -- the prefix is there if there is a backslash to double
  by_cases h : '\\' ∈ s.toList
  · simp [h, ← String.toList_inj]
  · have hSelf : doubleAll ['\'', '\\'] s.toList = doubleAll ['\''] s.toList := by
      rw [← double_double (by decide), double_eq_self h, double_eq_doubleAll]
    simp [h, hSelf, ← String.toList_inj]

end Text.Quoted

open Text.Quoted

/-- A name as it stands in a script. In standard SQL it has no quotes. -/
def Flavor.named : Flavor → String → String
  | .standard => id
  | .postgresql => between "\"" "\"" ['"']
  | .mysql => between "\x60" "\x60" ['\x60']

/-- Every dialect quotes a name as it is said to. -/
theorem Flavor.quote_eq_named (fl : Flavor) : fl.quote = fl.named := by
  funext s
  cases fl with
  | standard => rfl
  | postgresql => simp [quote, named, encode, between, double_eq_doubleAll, ← String.toList_inj]
  | mysql => simp [quote, named, encode, between, double_eq_doubleAll, ← String.toList_inj]

/-- Names with commas between them. -/
def Flavor.namedAll (fl : Flavor) (names : List String) : String :=
  ", ".intercalate (names.map fl.named)

/-- Names are quoted one by one. -/
theorem Flavor.quoteAll_eq_namedAll (fl : Flavor) (names : List String) :
    fl.quoteAll names = fl.namedAll names := by
  rw [quoteAll, namedAll, quote_eq_named]

namespace Style

variable {st : Style}

/-- The name of a table or sequence, with that of the schema and a point before it if there is
one. -/
def path (st : Style) (name : String) : String :=
  (st.schemaName.elim "" fun schema => st.flavor.named schema ++ ".") ++ st.flavor.named name

/-- A table is named with its schema, where there is one. -/
theorem qualified_eq_path (st : Style) (name : String) : st.qualified name = st.path name := by
  unfold qualified path
  rw [Flavor.quote_eq_named]
  cases st.schemaName <;> simp

/-- Without a schema it is named alone. -/
theorem path_of_schemaName (h : st.schemaName = none) (name : String) :
    st.path name = st.flavor.named name := by
  simp [path, h]

/-! ## Tables -/

/-- A column of a table: its name, its type, and what else is asked of it. -/
def columnWords (st : Style) (c : Column) : String :=
  st.flavor.named c.name ++ " " ++ c.type.ddl ++
    (if c.isNotNull then " NOT NULL" else "") ++
    (if c.isGenerated then
      if st.flavor = .mysql then " AUTO_INCREMENT" else " GENERATED BY DEFAULT AS IDENTITY"
    else "")

/-- The text of a column is its name, its type and the words that belong to it. -/
theorem columnText_eq_columnWords (st : Style) (c : Column) :
    st.columnText c = st.columnWords c := by
  unfold columnText columnDefinition columnWords generatedMark
  rw [Flavor.quote_eq_named]
  cases c.isNotNull <;> cases c.isGenerated <;> by_cases hFlavor : st.flavor = .mysql
  all_goals simp [hFlavor, ← String.toList_inj]

end Style

/-- The primary key is declared inside the table. MySQL asks for this where it gives a column its
values. -/
def Table.KeyInside (fl : Flavor) (t : Table) : Prop :=
  fl = .mysql ∧ t.keyColumns ≠ [] ∧ ∃ c ∈ t.columns, c.isGenerated = true

instance (fl : Flavor) (t : Table) : Decidable (t.KeyInside fl) :=
  inferInstanceAs (Decidable (_ ∧ _ ∧ _))

/-- A key inside of the table is one of MySQL, where the server has to number the rows. -/
theorem Table.keyInside_iff {fl : Flavor} {t : Table} :
    t.KeyInside fl ↔ fl = .mysql ∧ t.hasInlineKey = true := by
  simp [KeyInside, hasInlineKey]

namespace Style

variable {st : Style}

/-- The lines inside a table: its columns, and its primary key if it stands there. -/
def tableLines (st : Style) (t : Table) : List String :=
  t.columns.map st.columnWords ++
    (if t.KeyInside st.flavor then ["PRIMARY KEY (" ++ st.flavor.namedAll t.keyColumns ++ ")"]
    else [])

/-- The definitions of a table are its columns and its inline key. -/
theorem definitions_eq_tableLines (st : Style) (t : Table) :
    st.definitions t = st.tableLines t := by
  have hColumns : st.columnText = st.columnWords := funext st.columnText_eq_columnWords
  simp only [definitions, tableLines, hColumns, Table.keyInside_iff, Flavor.quoteAll_eq_namedAll,
    Bool.and_eq_true, decide_eq_true_eq]

/-- Lines with commas between them. -/
def block (st : Style) (lines : List String) : String :=
  if lines = [] then "" else ",\n".intercalate (lines.map (st.indent ++ ·)) ++ "\n"

/-- The storage engine of a table, which MySQL alone has. -/
def engineClause (st : Style) : String :=
  if st.flavor = .mysql ∧ st.engine ≠ "" then " ENGINE=" ++ st.engine else ""

/-- An action of a foreign key, in capitals. -/
def action (words value : String) : String :=
  if value = "" then "" else words ++ Text.upper value

/-! ## Sequences -/

/-- The creation of a sequence with a given name and increment. -/
def createSequenceText (st : Style) (name : String) (increment : Option Int) : String :=
  if st.flavor = .postgresql then st.sequenceText name increment
  else "CREATE SEQUENCE " ++ st.flavor.quote name ++
    (increment.map fun i => " INCREMENT BY " ++ toString i).getD ""

variable {table : String} {name : Formatted} {g : KeyGenerator} {increment : Option Int}

/-- A name can be put into a statement. PostgreSQL encodes the names of its sequences. -/
def Encodes (st : Style) (name : Formatted) : Prop :=
  st.flavor = .postgresql → name.isEncodable = true

instance (st : Style) (name : Formatted) : Decidable (st.Encodes name) :=
  inferInstanceAs (Decidable (_ → _))

/-- With a name and an increment that can be read, the creation of a sequence is written unless the
name has no encoding or the increment no numeral. -/
theorem renderSequence_of_read (hName : g.sequenceName table st.format = .ok name)
    (hIncrement : g.increment = .ok increment) :
    st.renderSequence table g =
      if st.Encodes name then
        if increment.all Text.Integer.isWritable then
          .ok (st.createSequenceText name.text increment)
        else .error
          ⟨if st.flavor = .postgresql then "" else "CREATE SEQUENCE " ++ st.flavor.quote name.text,
            .malformed⟩
      else .error ⟨"", .unencodable⟩ := by
  unfold renderSequence createSequenceText Encodes Formatted.encoded
  rw [hName, hIncrement]
  -- only PostgreSQL encodes the name before the text is written
  by_cases hFlavor : st.flavor = .postgresql
  · simp only [hFlavor, true_imp_iff]
    cases name.isEncodable <;> simp
  · simp only [hFlavor, if_false, false_imp_iff, if_true]
    cases increment with
    | none => simp
    | some i => simp only [Option.all_some, Option.map_some, Option.getD_some, String.append_assoc]

/-- The creation of a sequence can be written when its name and its increment can be read, the name
can be encoded and the increment has a numeral. -/
theorem renderSequence_eq_ok_iff {text : String} :
    st.renderSequence table g = .ok text ↔ ∃ name increment,
      g.sequenceName table st.format = .ok name ∧ g.increment = .ok increment ∧ st.Encodes name ∧
      increment.all Text.Integer.isWritable = true ∧
      text = st.createSequenceText name.text increment := by
  constructor
  · intro h
    -- no name, no text
    cases hName : g.sequenceName table st.format with
    | error f => simp [renderSequence, hName] at h
    | ok name =>
      -- no step, no text, though some of it may be there
      cases hIncrement : g.increment with
      | error f => by_cases hFlavor : st.flavor = .postgresql <;>
          simp [renderSequence, hName, hIncrement, hFlavor] at h
      -- with both, what is left to ask is whether they can be written
      | ok increment =>
        rw [renderSequence_of_read hName hIncrement] at h
        split at h
        · next hEncodes =>
          split at h
          · next hWritable =>
            exact ⟨name, increment, rfl, rfl, hEncodes, hWritable, (Except.ok.inj h).symm⟩
          · cases h
        · cases h
  · rintro ⟨name, increment, hName, hIncrement, hEncodes, hWritable, rfl⟩
    rw [renderSequence_of_read hName hIncrement, if_pos hEncodes, if_pos hWritable]

end Style

/-! ## Statements -/

/-- The text of a statement, one rule for each kind. -/
inductive Statement.Worded (st : Style) : Statement → String → Prop
  | createSchema (name : String) :
      Worded st (.createSchema name) ("CREATE SCHEMA IF NOT EXISTS " ++ st.flavor.named name)
  | setSearchPath (name : String) :
      Worded st (.setSearchPath name)
        ("SET search_path TO " ++ st.flavor.named name ++ ", public")
  /-- PostgreSQL and MySQL drop a table only if it is there, and PostgreSQL all that depends on
  it. -/
  | dropTable (table : String) :
      Worded st (.dropTable table)
        ((match st.flavor with
          | .standard => "DROP TABLE " ++ st.path table
          | .mysql => "DROP TABLE IF EXISTS " ++ st.path table
          | .postgresql => "DROP TABLE IF EXISTS " ++ st.path table ++ " CASCADE"))
  | createTable (t : Table) :
      Worded st (.createTable t)
        ("CREATE TABLE " ++ st.path t.name ++ " (\n" ++ st.block (st.tableLines t) ++ ")" ++
          st.engineClause)
  | addPrimaryKey (table : String) (key : PrimaryKey) :
      Worded st (.addPrimaryKey table key)
        ("ALTER TABLE " ++ st.path table ++ " ADD CONSTRAINT " ++ st.flavor.named key.name ++
          " PRIMARY KEY (" ++ st.flavor.namedAll key.columns ++ ")")
  | addForeignKey (table : String) (key : ForeignKey) :
      Worded st (.addForeignKey table key)
        ("ALTER TABLE " ++ st.path table ++ " ADD CONSTRAINT " ++ st.flavor.named key.name ++
          " FOREIGN KEY (" ++ st.flavor.namedAll key.columns ++ ") REFERENCES " ++
          st.path key.referenceTable ++ " (" ++ st.flavor.namedAll key.referenceColumns ++ ")" ++
          Style.action " ON DELETE " st.foreignKeys.onDelete ++
          Style.action " ON UPDATE " st.foreignKeys.onUpdate)
  | createIndex (table : String) (index : Index) :
      Worded st (.createIndex table index)
        ("CREATE " ++ (if index.unique then "UNIQUE INDEX " else "INDEX ") ++
          (if st.flavor = .postgresql then "IF NOT EXISTS " else "") ++
          st.flavor.named index.name ++ " ON " ++ st.path table ++ " (" ++
          st.flavor.namedAll index.columns ++ ")")
  /-- The name of a sequence comes from its pattern. In PostgreSQL the sequence may be there before,
  it is in the schema, and a blank stands before the sign of a negative increment. -/
  | createSequence {table : String} {g : KeyGenerator} {name : Formatted} {increment : Option Int}
      (hName : g.sequenceName table st.format = .ok name) (hIncrement : g.increment = .ok increment)
      (hEncodes : st.Encodes name) (hWritable : increment.all Text.Integer.isWritable = true) :
      Worded st (.createSequence table g)
        (if st.flavor = .postgresql then
          "CREATE SEQUENCE IF NOT EXISTS " ++ st.path name.text ++
            increment.elim "" fun i =>
              " INCREMENT BY " ++ (if i < 0 then " " else "") ++ toString i
        else
          "CREATE SEQUENCE " ++ st.flavor.named name.text ++
            increment.elim "" fun i => " INCREMENT BY " ++ toString i)
  /-- The default of a column names the sequence in a literal. -/
  | setDefault {table column : String} {g : KeyGenerator} {name : Formatted}
      (hName : g.sequenceName table st.format = .ok name) (hEncodable : name.isEncodable = true)
      (hFree : '\x00' ∉ (st.path name.text).toList) :
      Worded st (.setDefault table column g)
        ("ALTER TABLE " ++ st.path table ++ " ALTER COLUMN " ++ st.flavor.named column ++
          " SET DEFAULT nextval(" ++ apostrophized (st.path name.text) ++ ")")

namespace Style

/-- A sequence is created with the words of its rule. -/
theorem createSequenceText_eq (st : Style) (name : String) (increment : Option Int) :
    st.createSequenceText name increment =
      if st.flavor = .postgresql then
        "CREATE SEQUENCE IF NOT EXISTS " ++ st.path name ++
          increment.elim "" fun i => " INCREMENT BY " ++ (if i < 0 then " " else "") ++ toString i
      else
        "CREATE SEQUENCE " ++ st.flavor.named name ++
          increment.elim "" fun i => " INCREMENT BY " ++ toString i := by
  unfold createSequenceText sequenceText SqlLiteral.integer
  rw [qualified_eq_path, Flavor.quote_eq_named]
  cases increment with
  | none => rfl
  | some i => by_cases hSign : i < 0 <;> simp [hSign, String.append_assoc]

/-- The literal with the name of a sequence is there if a literal can hold the name. -/
theorem nextvalText_eq_ok_iff {st : Style} {name next : String} :
    st.nextvalText name = .ok next ↔ '\x00' ∉ (st.path name).toList ∧
      next = "nextval(" ++ apostrophized (st.path name) ++ ")" := by
  rw [← literal_eq_apostrophized, nextvalText, qualified_eq_path, SqlLiteral.string]
  split
  · simp_all [bind, Except.bind]
  · simp_all [bind, Except.bind, pure, Except.pure, eq_comm]

/-- The next value of a sequence can be asked for if the sequence has a name, which has an encoding
and fits into a literal. -/
theorem next_eq_ok_iff {st : Style} {g : KeyGenerator} {table next : String} :
    (g.sequenceName table st.format >>= Formatted.encoded >>= st.nextvalText) = .ok next ↔
      ∃ name, g.sequenceName table st.format = .ok name ∧ name.isEncodable = true ∧
        st.nextvalText name.text = .ok next := by
  cases g.sequenceName table st.format with
  | error f => simp [bind, Except.bind]
  | ok name => cases hEncodable : name.isEncodable <;>
      simp [bind, Except.bind, Formatted.encoded, hEncodable]

end Style

namespace Statement

variable {st : Style} {x : Statement} {text : String}

/-- What a rule says is what is written. -/
theorem render_of_worded (h : x.Worded st text) : x.render st = .ok text := by
  cases h with
  | createSchema name =>
    -- the texts are opened by hand: the equation of a long one is slow to make
    change Except.ok (st.createSchemaText name) = _
    delta Style.createSchemaText
    rw [Flavor.quote_eq_named]
  | setSearchPath name =>
    change Except.ok (st.searchPathText name true) = _
    delta Style.searchPathText
    rw [Flavor.quote_eq_named, if_pos rfl]
  | dropTable table =>
    change Except.ok (st.dropTableText table true) = _
    delta Style.dropTableText
    cases st.flavor <;> simp [st.qualified_eq_path]
  | createTable t =>
    change Except.ok (st.createTableText t.name (st.definitions t)) = _
    delta Style.createTableText
    rw [Style.qualified_eq_path, Style.definitions_eq_tableLines]
    simp [Style.block, Style.engineClause, Style.tableSuffix]
  | addPrimaryKey table key =>
    change Except.ok (st.primaryKeyText table key.name key.columns) = _
    delta Style.primaryKeyText
    rw [Style.qualified_eq_path, Flavor.quote_eq_named, Flavor.quoteAll_eq_namedAll]
  | addForeignKey table key =>
    change Except.ok (st.foreignKeyText table key.name key.columns key.referenceTable
      key.referenceColumns) = _
    delta Style.foreignKeyText
    rw [Style.qualified_eq_path, Style.qualified_eq_path, Flavor.quote_eq_named,
      Flavor.quoteAll_eq_namedAll, Flavor.quoteAll_eq_namedAll]
    simp only [Style.actionsText, Style.action, String.append_assoc]
  | createIndex table index =>
    change Except.ok (st.indexText table index.name index.unique index.columns) = _
    delta Style.indexText
    rw [Style.qualified_eq_path, Flavor.quote_eq_named, Flavor.quoteAll_eq_namedAll]
    cases index.unique <;> simp [String.append_assoc]
  -- a sequence has the conditions of its rule
  | createSequence hName hIncrement hEncodes hWritable =>
    exact Style.renderSequence_eq_ok_iff.2
      ⟨_, _, hName, hIncrement, hEncodes, hWritable, (st.createSequenceText_eq _ _).symm⟩
  -- so has a default, the name of whose sequence becomes a literal
  | setDefault hName hEncodable hFree =>
    have hNext := Style.next_eq_ok_iff.2
      ⟨_, hName, hEncodable, Style.nextvalText_eq_ok_iff.2 ⟨hFree, rfl⟩⟩
    simp only [render, hNext]
    delta Style.setDefaultText
    rw [Style.qualified_eq_path, Flavor.quote_eq_named]
    simp [← String.toList_inj]

/-- What is written is what a rule says. -/
theorem worded_of_render (h : x.render st = .ok text) : x.Worded st text := by
  -- where a rule has no condition, its text is the one that is written
  have hRule {t : String} (ht : x.Worded st t) : x.Worded st text :=
    Except.ok.inj ((render_of_worded ht).symm.trans h) ▸ ht
  cases x with
  | createSchema name => exact hRule (.createSchema name)
  | setSearchPath name => exact hRule (.setSearchPath name)
  | dropTable table => exact hRule (.dropTable table)
  | createTable t => exact hRule (.createTable t)
  | addPrimaryKey table key => exact hRule (.addPrimaryKey table key)
  | addForeignKey table key => exact hRule (.addForeignKey table key)
  | createIndex table index => exact hRule (.createIndex table index)
  | createSequence table g =>
    -- what was written had a name and a step
    obtain ⟨name, increment, hName, hIncrement, hEncodes, hWritable, -⟩ :=
      Style.renderSequence_eq_ok_iff.1 h
    exact hRule (.createSequence hName hIncrement hEncodes hWritable)
  | setDefault table column g =>
    simp only [render] at h
    split at h
    · cases h
    · next next hNext =>
      -- what was written had the name of a sequence, and no NUL character in it
      obtain ⟨name, hName, hEncodable, hLiteral⟩ := Style.next_eq_ok_iff.1 hNext
      exact hRule (.setDefault hName hEncodable (Style.nextvalText_eq_ok_iff.1 hLiteral).1)

/-- The words of a sequence come from the name and the increment that its key generator gives. -/
theorem exists_of_worded_createSequence {table : String} {g : KeyGenerator}
    (h : (createSequence table g).Worded st text) :
    ∃ name increment, g.sequenceName table st.format = .ok name ∧ g.increment = .ok increment ∧
      text = if st.flavor = .postgresql then
          "CREATE SEQUENCE IF NOT EXISTS " ++ st.path name.text ++
            increment.elim "" fun i => " INCREMENT BY " ++ (if i < 0 then " " else "") ++ toString i
        else
          "CREATE SEQUENCE " ++ st.flavor.named name.text ++
            increment.elim "" fun i => " INCREMENT BY " ++ toString i := by
  cases h with
  | createSequence hName hIncrement => exact ⟨_, _, hName, hIncrement, rfl⟩

/-- The words of a default name the sequence of the key generator. -/
theorem text_of_worded_setDefault {table column : String} {g : KeyGenerator} {name : Formatted}
    (hName : g.sequenceName table st.format = .ok name)
    (h : (setDefault table column g).Worded st text) :
    text = "ALTER TABLE " ++ st.path table ++ " ALTER COLUMN " ++ st.flavor.named column ++
      " SET DEFAULT nextval(" ++ apostrophized (st.path name.text) ++ ")" := by
  cases h with
  | setDefault hName' =>
    cases hName.symm.trans hName'
    rfl

/-- **Statements are written as the rules say.** A rule gives the text of a statement exactly if
this is the text that is written. -/
theorem render_eq_ok_iff : x.render st = .ok text ↔ x.Worded st text :=
  ⟨worded_of_render, render_of_worded⟩

end Statement

end MappingDdl
