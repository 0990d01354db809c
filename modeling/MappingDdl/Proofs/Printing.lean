import MappingDdl.Proofs.SequenceStatements
import MappingDdl.Proofs.Templates

/-!
# Printing — statements as they are handed to a script

A statement is handed to a script in a few prints. A print is a text that is taken as it is, or a
template with arguments: the names in a statement, already quoted. PostgreSQL composes the whole
text of a statement before; in the other dialects names are arguments. A template is expanded when
it is printed, so a name with braces would be in danger if it came into a template.

It never does. The templates are written by the program and have numbered places only, and their
arguments are put in as they are (`Text.Template.fill_source`). So the prints of a statement add up
to its text. What can fail is the increment of a sequence, the one argument that is not a text.

Main results:

* `Script.printAll_eq` — prints with good templates add their texts.
* `Statement.printAll_prints` — the prints of a statement add its text, whatever names are in it.
* `Script.printSequence_eq` — those of a sequence do too, unless its increment has no numeral.
* `Style.printsNames` — no name is read as a template.
-/

namespace MappingDdl

open Text.Template

/-! ## Prints -/

/-- What is printed at once: a text, or a template with texts as arguments. -/
inductive Print
  | plain (text : String)
  | template (segs : List Segment) (args : List String)

namespace Print

/-- Expands a print. -/
def expand : Print → Except Fault String
  | plain text => Script.expand text []
  | template segs args => Script.expand (source segs) (args.map .str)

/-- The text of a print. -/
def text : Print → String
  | plain text => text
  | template segs args => filled segs args

/-- The template has an argument for each of its places, and there is one at all. -/
def IsGood : Print → Prop
  | plain _ => True
  | template segs args => args ≠ [] ∧ ∀ s ∈ segs, s.Fits args.length

/-- A template is good as soon as its own texts and places are, whatever the arguments are. -/
theorem isGood_template {segs : List Segment} {args : List String} (count : Nat)
    (hCount : args.length = count + 1) (hFits : ∀ s ∈ segs, s.Fits (count + 1)) :
    (template segs args).IsGood :=
  ⟨fun hNone => by simp [hNone] at hCount, hCount ▸ hFits⟩

/-- A good print is expanded to its text. -/
theorem expand_eq {p : Print} (h : p.IsGood) : p.expand = .ok p.text := by
  cases p with
  | plain text => rfl
  | template segs args =>
    obtain ⟨hSome, hFits⟩ := h
    rw [expand, Script.expand, if_neg (by simpa using hSome), fill_source args hFits]
    rfl

end Print

/-- One text joined is this text. -/
theorem join_singleton (s : String) : String.join [s] = s := by
  simp [String.join]

/-- Prints one after the other. -/
def Script.printAll (sc : Script) : List Print → Except Fault Script
  | [] => .ok sc
  | p :: rest => p.expand.map sc.append >>= (·.printAll rest)

/-- Prints with good templates never fail, and add their texts. -/
theorem Script.printAll_eq {ps : List Print} (h : ∀ p ∈ ps, p.IsGood) (sc : Script) :
    sc.printAll ps = .ok (sc.append (String.join (ps.map (·.text)))) := by
  induction ps generalizing sc with
  | nil => simp [printAll, append]
  | cons p rest ih =>
    obtain ⟨hFirst, hRest⟩ := List.forall_mem_cons.1 h
    rw [printAll, Print.expand_eq hFirst]
    refine (ih hRest _).trans ?_
    simp [append, String.join_cons, String.append_assoc]

/-! ## The prints of a statement -/

/-- How a name is quoted: MySQL has a template for it. -/
def Flavor.quotePrint : Flavor → String → Print
  | .mysql, name =>
    .template [.text "\x60", .place 0, .text "\x60"]
      [String.ofList (Text.Quoted.double '\x60' name.toList)]
  | fl, name => .plain (fl.quote name)

/-- How the primary key is declared inside a table. -/
def Flavor.inlineKeyPrint (fl : Flavor) (columns : List String) : Print :=
  .template [.text "PRIMARY KEY (", .place 0, .text ")"] [fl.quoteAll columns]

namespace Style

/-- The prints of the creation of a table. Its definitions are one text, which is no template. -/
def tablePrints (st : Style) (t : Table) : List Print :=
  .template [.text "CREATE TABLE ", .place 0, .text " ("] [st.flavor.quote t.name] :: .plain "\n" ::
    (if (st.definitions t).isEmpty then []
      else [.plain (",\n".intercalate ((st.definitions t).map (st.indent ++ ·))), .plain "\n"]) ++
    [if st.flavor = .mysql && st.engine != "" then
      .template [.text ") ENGINE=", .place 0] [st.engine] else .plain ")"]

end Style

/-- The prints of a statement. PostgreSQL prints the whole text, and it alone has a named schema and
defaults. For a sequence see `Script.printSequence`. -/
def Statement.prints (st : Style) (x : Statement) : List Print :=
  if st.flavor = .postgresql then [.plain (x.text st)]
  else match x with
  | createSchema _ | setSearchPath _ | createSequence _ _ | setDefault _ _ _ => [.plain (x.text st)]
  | dropTable table =>
    [.template [.text (if st.flavor = .mysql then "DROP TABLE IF EXISTS " else "DROP TABLE "),
      .place 0] [st.flavor.quote table]]
  | createTable t => st.tablePrints t
  | addPrimaryKey table key =>
    [.template [.text "ALTER TABLE ", .place 0, .text " ADD CONSTRAINT ", .place 1,
      .text " PRIMARY KEY (", .place 2, .text ")"]
      [st.flavor.quote table, st.flavor.quote key.name, st.flavor.quoteAll key.columns]]
  | addForeignKey table key =>
    [.template [.text "ALTER TABLE ", .place 0, .text " ADD CONSTRAINT ", .place 1,
      .text " FOREIGN KEY (", .place 2, .text ") REFERENCES ", .place 3, .text " (", .place 4,
      .text ")", .place 5]
      [st.flavor.quote table, st.flavor.quote key.name, st.flavor.quoteAll key.columns,
        st.flavor.quote key.referenceTable, st.flavor.quoteAll key.referenceColumns,
        Style.actionsText st.foreignKeys]]
  | createIndex table index =>
    [.template [.text "CREATE ", .place 0, .text "INDEX ", .place 1, .text " ON ", .place 2,
      .text " (", .place 3, .text ")"]
      [if index.unique then "UNIQUE " else "", st.flavor.quote index.name, st.flavor.quote table,
        st.flavor.quoteAll index.columns]]

/-- The print of a name is expanded to the name in quotes. -/
theorem Flavor.expand_quotePrint (fl : Flavor) (name : String) :
    (fl.quotePrint name).expand = .ok (fl.quote name) := by
  cases fl with
  | standard => rfl
  | postgresql => rfl
  | mysql =>
    rw [quotePrint, Print.expand_eq (Print.isGood_template 0 rfl (by decide +kernel))]
    simp [Print.text, quote, Text.Quoted.encode]

/-- That of a key inside a table is expanded to the key. -/
theorem Flavor.expand_inlineKeyPrint (fl : Flavor) (columns : List String) :
    (fl.inlineKeyPrint columns).expand = .ok ("PRIMARY KEY (" ++ fl.quoteAll columns ++ ")") := by
  rw [inlineKeyPrint, Print.expand_eq (Print.isGood_template 0 rfl (by decide +kernel))]
  simp [Print.text, String.append_assoc]

/-- All prints of a table are good. -/
theorem Style.isGood_of_mem_tablePrints (st : Style) (t : Table) :
    ∀ p ∈ st.tablePrints t, p.IsGood := by
  unfold tablePrints
  refine List.forall_mem_append.2 ⟨?_, List.forall_mem_singleton.2 ?_⟩
  -- the opening line, the lines of the definitions, and the last one
  · refine List.forall_mem_cons.2 ⟨?_, List.forall_mem_cons.2 ⟨trivial, ?_⟩⟩
    · exact Print.isGood_template 0 rfl (by decide +kernel)
    · split
      · exact List.forall_mem_nil _
      · exact List.forall_mem_cons.2 ⟨trivial, List.forall_mem_singleton.2 trivial⟩
  -- the line that closes the table
  · split
    · exact Print.isGood_template 0 rfl (by decide +kernel)
    · trivial

/-- All templates of statements are good. -/
theorem Statement.isGood_of_mem_prints (st : Style) (x : Statement) :
    ∀ p ∈ x.prints st, p.IsGood := by
  unfold prints
  split
  -- a statement that is written as a whole is no template
  · exact List.forall_mem_singleton.2 trivial
  · cases x with
    -- in each dialect a template of its own
    | dropTable table =>
      refine List.forall_mem_singleton.2 (Print.isGood_template 0 rfl ?_)
      split <;> decide +kernel
    | createTable t => exact st.isGood_of_mem_tablePrints t
    | addPrimaryKey table key =>
      exact List.forall_mem_singleton.2 (Print.isGood_template 2 rfl (by decide +kernel))
    | addForeignKey table key =>
      exact List.forall_mem_singleton.2 (Print.isGood_template 5 rfl (by decide +kernel))
    | createIndex table index =>
      exact List.forall_mem_singleton.2 (Print.isGood_template 3 rfl (by decide +kernel))
    | _ => exact List.forall_mem_singleton.2 trivial

/-- Outside PostgreSQL no schema qualifies a name. -/
def Style.IsUnqualified (st : Style) : Prop :=
  st.flavor ≠ .postgresql → st.schemaName = none

/-- Only PostgreSQL has a schema in its names, -/
theorem Style.isUnqualified_ofSettings (fl : Flavor) (settings : Settings) (indent : String)
    (format : Formatting) : (Style.ofSettings fl settings indent format).IsUnqualified :=
  fun hFlavor => if_neg hFlavor

/-- so any other name stands alone. -/
theorem Style.IsUnqualified.qualified {st : Style} (h : st.IsUnqualified)
    (hFlavor : st.flavor ≠ .postgresql) (name : String) :
    st.qualified name = st.flavor.quote name := by
  rw [Style.qualified, h hFlavor]

variable {st : Style}

/-- The prints of the creation of a table make up its text. -/
theorem Style.join_tablePrints (h : st.IsUnqualified) (hFlavor : st.flavor ≠ .postgresql)
    (t : Table) :
    String.join ((st.tablePrints t).map (·.text)) =
      st.createTableText t.name (st.definitions t) := by
  unfold tablePrints createTableText tableSuffix
  rw [h.qualified hFlavor]
  generalize st.definitions t = definitions
  -- a table may have no definitions, and MySQL may have an engine for it
  cases definitions.isEmpty <;> by_cases hEngine : (st.flavor = .mysql && st.engine != "") = true
  all_goals simp [hEngine, Print.text, String.join_cons, ← String.toList_inj]

/-- The prints of a statement make up its text. -/
theorem Statement.join_prints (h : st.IsUnqualified) (x : Statement) :
    String.join ((x.prints st).map (·.text)) = x.text st := by
  unfold prints
  -- PostgreSQL writes its statements as wholes
  by_cases hFlavor : st.flavor = .postgresql
  · rw [if_pos hFlavor]
    exact join_singleton _
  · have hName := h.qualified hFlavor
    rw [if_neg hFlavor]
    -- in the other dialects, statement by statement
    cases x with
    | createTable t => exact Style.join_tablePrints h hFlavor t
    | dropTable table =>
      change String.join [_] = st.dropTableText table true
      delta Style.dropTableText
      rw [join_singleton, hName]
      cases hOther : st.flavor with
      | postgresql => exact absurd hOther hFlavor
      | standard => simp [Print.text]
      | mysql => simp [Print.text]
    | addPrimaryKey table key =>
      -- opened by hand: the equation of a long text is slow to make
      change String.join [_] = st.primaryKeyText table key.name key.columns
      delta Style.primaryKeyText
      rw [join_singleton, hName]
      simp [Print.text, String.append_assoc]
    | addForeignKey table key =>
      change String.join [_] = st.foreignKeyText table key.name key.columns key.referenceTable
        key.referenceColumns
      delta Style.foreignKeyText
      rw [join_singleton, hName, hName]
      simp [Print.text, String.append_assoc]
    | createIndex table index =>
      change String.join [_] = st.indexText table index.name index.unique index.columns
      delta Style.indexText
      rw [join_singleton, hName]
      simp [Print.text, String.append_assoc, hFlavor]
    | _ => exact join_singleton _

/-- The prints of a statement never fail and add its text, whatever names are in it. -/
theorem Statement.printAll_prints (x : Statement) (h : st.IsUnqualified) (sc : Script) :
    sc.printAll (x.prints st) = .ok (sc.append (x.text st)) := by
  rw [Script.printAll_eq (x.isGood_of_mem_prints st), join_prints h]

/-! ## Sequences and comments -/

/-- The prints of the creation of a sequence outside PostgreSQL. -/
def Script.printSequence (sc : Script) (fl : Flavor) (name : String) (increment : Option Int) :
    Except Fault Script := do
  let sc ← sc.print (source [.text "CREATE SEQUENCE ", .place 0]) [.str (fl.quote name)]
  match increment with
  | none => return sc
  | some i => sc.print (source [.text " INCREMENT BY ", .place 0]) [.int i]

/-- A place at the end is filled with the layout of its value. -/
theorem Script.print_text_place {s : String} (h : Segment.Fits 1 (.text s)) (v : Value)
    (sc : Script) :
    sc.print (source [.text s, .place 0]) [v] = (layout v []).map fun t => sc.append (s ++ t) := by
  rw [print, expand, if_neg (by simp), fill_text_place h]
  cases layout v [] <;> rfl

/-- The prints of a sequence add its text, unless its increment has no numeral. -/
theorem Script.printSequence_eq (sc : Script) (hFlavor : st.flavor ≠ .postgresql) (name : String)
    (increment : Option Int) :
    sc.printSequence st.flavor name increment =
      if increment.all Text.Integer.isWritable then
        .ok (sc.append (st.createSequenceText name increment))
      else .error .malformed := by
  rw [printSequence, print_text_place (by decide +kernel), layout_text, Style.createSequenceText,
    if_neg hFlavor]
  -- only a number can fail to have a numeral
  cases increment with
  | none => simp [Except.map, bind, Except.bind, pure, Except.pure]
  | some i =>
    simp only [Except.map, bind, Except.bind]
    rw [print_text_place (by decide +kernel), layout, Value.written, Value.isWritable]
    by_cases hWritable : Text.Integer.isWritable i = true
    · simp [hWritable, Except.map, append, String.append_assoc, Value.display, Value.literal]
    · simp [hWritable, Except.map]

/-- A comment is printed as it is. -/
theorem Script.printLine_comment (sc : Script) (line mark : String) :
    sc.printLine (source [.place 0, .text " ", .place 1]) [.str mark, .str line] =
      .ok (sc.comment line mark) := by
  have hGood : (Print.template [.place 0, .text " ", .place 1] [mark, line]).IsGood :=
    Print.isGood_template 1 rfl (by decide +kernel)
  have hExpand : Script.expand (source [.place 0, .text " ", .place 1]) [.str mark, .str line] =
      .ok (filled [.place 0, .text " ", .place 1] [mark, line]) := Print.expand_eq hGood
  rw [printLine, hExpand]
  simp [Except.map, comment, String.append_assoc]

/-- No name is read as a template, on none of the ways that names take into a script. -/
structure Style.PrintsNames (st : Style) : Prop where
  quoted     : ∀ name, (st.flavor.quotePrint name).expand = .ok (st.flavor.quote name)
  inlined    : ∀ columns, (st.flavor.inlineKeyPrint columns).expand =
    .ok ("PRIMARY KEY (" ++ st.flavor.quoteAll columns ++ ")")
  printed    : ∀ (x : Statement) (sc : Script), x.kind ≠ .keyGenerator →
    sc.printAll (x.prints st) = .ok (sc.append (x.text st))
  commented  : ∀ (sc : Script) (line mark : String),
    sc.printLine (source [.place 0, .text " ", .place 1]) [.str mark, .str line] =
      .ok (sc.comment line mark)
  /-- The name of a sequence is one of them, and its pattern the only template from outside. -/
  sequenced  : st.flavor ≠ .postgresql → ∀ (sc : Script) (name : String) (increment : Option Int),
    increment.all Text.Integer.isWritable = true →
      sc.printSequence st.flavor name increment =
        .ok (sc.append (st.createSequenceText name increment))
  named      : st.format.Lawful → ∀ (g : KeyGenerator) (segs : List Segment) (table : String),
    g.pattern = .str (source segs) → (∀ s ∈ segs, s.Fits 1) →
      g.sequenceName table st.format = .ok ⟨filled segs [table], true⟩

theorem Style.printsNames (h : st.IsUnqualified) : st.PrintsNames where
  quoted := st.flavor.expand_quotePrint
  inlined := st.flavor.expand_inlineKeyPrint
  printed x sc _ := x.printAll_prints h sc
  commented := Script.printLine_comment
  sequenced hFlavor sc name increment hWritable := by
    rw [sc.printSequence_eq hFlavor, if_pos hWritable]
  named hFormat _ _ table hPattern hFits :=
    KeyGenerator.sequenceName_of_source hFormat hPattern hFits table

end MappingDdl
