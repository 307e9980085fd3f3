import DataLayer.Document.Reading
import DataLayer.Proofs.NamedMap

/-!
# Values that stay

A TOML document is read statement by statement.  A statement may add to the tree of tables, but a
value that stands in the tree keeps its place and stays as it is.  So what a document assigns near
its beginning is what it says in the end.
-/

namespace DataLayer
namespace Toml

/-- The value at the end of a path of keys that leads through single tables. -/
def Node.valueAt? : List String → Node → Option Value
  | [], .value found => some found
  | key :: path, .table _ entries => (entries.lookup key).bind (Node.valueAt? path)
  | _, _ => none

/-- Every value of the first node stands at the same place of the second. -/
def Node.Extends (node later : Node) : Prop :=
  ∀ path value, node.valueAt? path = some value → later.valueAt? path = some value

theorem Node.Extends.refl (node : Node) : node.Extends node :=
  fun _ _ found => found

theorem Node.Extends.trans {first second third : Node} (before : first.Extends second)
    (after : second.Extends third) : first.Extends third :=
  fun path value found => after path value (before path value found)

theorem Node.tables_extends (items : List Entries) (later : Node) :
    (Node.tables items).Extends later := by
  intro path value found
  cases path <;> simp [Node.valueAt?] at found

theorem Node.table_extends {origin laterOrigin : TableOrigin} {entries later : Entries}
    (each : ∀ key node, entries.lookup key = some node →
      ∃ laterNode, later.lookup key = some laterNode ∧ node.Extends laterNode) :
    (Node.table origin entries).Extends (.table laterOrigin later) := by
  intro path value found
  cases path with
  | nil => simp [Node.valueAt?] at found
  | cons key path =>
      obtain ⟨node, under, inside⟩ := Option.bind_eq_some_iff.mp found
      obtain ⟨laterNode, laterUnder, extended⟩ := each key node under
      simpa [Node.valueAt?, laterUnder] using extended path value inside

/-- How a table came to be does not matter for its values. -/
theorem Node.table_extends_same (origin laterOrigin : TableOrigin) (entries : Entries) :
    (Node.table origin entries).Extends (.table laterOrigin entries) :=
  Node.table_extends fun _ node under => ⟨node, under, .refl node⟩

/-- An update puts a node under its key and leaves everything else. -/
theorem lookup_updateEntry {key : String} {change : Option Node → Option Node}
    {entries later : Entries} (updated : updateEntry key change entries = some later) :
    ∃ node, change (entries.lookup key) = some node ∧
      ∀ other, later.lookup other = if other = key then some node else entries.lookup other := by
  induction entries generalizing later with
  | nil =>
      obtain ⟨node, changed, rfl⟩ := Option.map_eq_some_iff.mp updated
      exact ⟨node, changed, fun other => NamedMap.lookup_entry_cons _ _ other⟩
  | cons entry rest ih =>
      rw [updateEntry] at updated
      split_ifs at updated with same
      · obtain ⟨node, changed, rfl⟩ := Option.map_eq_some_iff.mp updated
        refine ⟨node, by rwa [NamedMap.lookup_entry_cons, if_pos same.symm], fun other => ?_⟩
        rw [NamedMap.lookup_entry_cons, NamedMap.lookup_entry_cons, same]
        split_ifs <;> rfl
      · obtain ⟨laterRest, updated_rest, rfl⟩ := Option.map_eq_some_iff.mp updated
        obtain ⟨node, changed, found⟩ := ih updated_rest
        refine ⟨node, by rwa [NamedMap.lookup_entry_cons, if_neg (Ne.symm same)], fun other => ?_⟩
        rw [NamedMap.lookup_entry_cons, NamedMap.lookup_entry_cons, found]
        split_ifs with first second
        · exact absurd (first.symm.trans second) same
        all_goals rfl

/-- The change only adds to tables. -/
def Grows (change : TableOrigin → Entries → Option Entries) : Prop :=
  ∀ origin entries later, change origin entries = some later →
    (Node.table origin entries).Extends (.table origin later)

/-- A change that only adds does so as well when it takes every table for one with a header. -/
theorem Grows.underHeader {change : TableOrigin → Entries → Option Entries}
    (grows : Grows change) : Grows fun _ => change .header := by
  intro origin entries later changed
  exact ((Node.table_extends_same origin .header entries).trans
    (grows .header entries later changed)).trans (Node.table_extends_same .header origin later)

theorem extends_updateEntry {key : String} {change : Option Node → Option Node}
    {entries later : Entries} (origin : TableOrigin)
    (updated : updateEntry key change entries = some later)
    (extended : ∀ node laterNode, change (some node) = some laterNode → node.Extends laterNode) :
    (Node.table origin entries).Extends (.table origin later) := by
  obtain ⟨newNode, changed, found⟩ := lookup_updateEntry updated
  refine Node.table_extends fun other node under => ?_
  by_cases same : other = key
  · subst same
    rw [under] at changed
    exact ⟨newNode, by rw [found, if_pos rfl], extended node newNode changed⟩
  · exact ⟨node, by rw [found, if_neg same, under], .refl node⟩

/-- A change inside a table that only adds, wherever the path to it leads, only adds to the
whole. -/
theorem grows_descend (dotted : Bool) {change : TableOrigin → Entries → Option Entries}
    (grows : Grows change) (path : List String) : Grows (descend dotted change path) := by
  induction path with
  | nil => exact grows
  | cons key path ih =>
      intro origin entries later changed
      rw [descend] at changed
      refine extends_updateEntry origin changed fun node laterNode node_changed => ?_
      cases node with
      | value value => simp at node_changed
      | tables items => exact Node.tables_extends items laterNode
      | table inner content =>
          simp only at node_changed
          split_ifs at node_changed
          obtain ⟨laterContent, descended, rfl⟩ := Option.map_eq_some_iff.mp node_changed
          exact ih inner content laterContent descended

theorem grows_addValue (key : String) (value : Value) :
    Grows fun _ entries => addValue key value entries := by
  intro origin entries later added
  exact extends_updateEntry origin added fun node laterNode changed => by simp at changed

theorem grows_assign (path : List String) (key : String) (value : Value) :
    Grows fun _ => assign path key value := by
  have inside : Grows fun origin inner =>
      if (origin == .dotted) == path.isEmpty then none else addValue key value inner := by
    intro origin entries later added
    simp only at added
    split_ifs at added
    exact grows_addValue key value origin entries later added
  exact (grows_descend true inside path).underHeader

theorem grows_openTable (key : String) :
    Grows fun _ inner => updateEntry key
      (fun
        | none => some (.table .header [])
        | some (.table .implied content) => some (.table .header content)
        | some _ => none) inner := by
  intro origin entries later updated
  refine extends_updateEntry origin updated fun node laterNode changed => ?_
  split at changed
  case h_1 absent => simp at absent
  case h_2 content there =>
    obtain rfl := Option.some.inj there
    obtain rfl := Option.some.inj changed
    exact Node.table_extends_same .implied .header content
  case h_3 => simp at changed

theorem grows_defineTable (path : List String) (key : String) :
    Grows fun _ => defineTable path key :=
  (grows_descend false (grows_openTable key) path).underHeader

theorem grows_addItem (key : String) :
    Grows fun _ inner => updateEntry key
      (fun
        | none => some (.tables [[]])
        | some (.tables items) => some (.tables (items ++ [[]]))
        | some _ => none) inner := by
  intro origin entries later updated
  refine extends_updateEntry origin updated fun node laterNode changed => ?_
  split at changed
  case h_1 absent => simp at absent
  case h_2 items there =>
    obtain rfl := Option.some.inj there
    exact Node.tables_extends items laterNode
  case h_3 => simp at changed

theorem grows_appendTable (path : List String) (key : String) :
    Grows fun _ => appendTable path key :=
  (grows_descend false (grows_addItem key) path).underHeader

/-- The document as far as it is read, as one table. -/
def Outline.node (outline : Outline) : Node :=
  .table .header outline.entries

/-- A statement leaves every value that stands in the document. -/
theorem extends_add {outline later : Outline} {statement : Statement}
    (added : outline.add statement = some later) : outline.node.Extends later.node := by
  cases statement with
  | header path key =>
      obtain ⟨entries, defined, rfl⟩ := Option.map_eq_some_iff.mp added
      exact grows_defineTable path key .header _ entries defined
  | element path key =>
      obtain ⟨entries, appended, rfl⟩ := Option.map_eq_some_iff.mp added
      exact grows_appendTable path key .header _ entries appended
  | assignment path key value =>
      obtain ⟨entries, assigned, rfl⟩ := Option.map_eq_some_iff.mp added
      exact grows_descend false (grows_assign path key value) outline.current .header _ entries
        assigned

theorem extends_foldlM {statements : List Statement} {outline later : Outline}
    (added : statements.foldlM Outline.add outline = some later) :
    outline.node.Extends later.node := by
  induction statements generalizing outline with
  | nil =>
      obtain rfl := Option.some.inj added
      exact .refl _
  | cons statement rest ih =>
      rw [List.foldlM_cons] at added
      obtain ⟨next, first, others⟩ := Option.bind_eq_some_iff.mp added
      exact (extends_add first).trans (ih others)

/-! ## The finished document -/

theorem lookup_finishEntries (entries : Entries) (key : String) :
    (finishEntries entries).lookup key = (entries.lookup key).map Node.finish := by
  induction entries with
  | nil => rfl
  | cons entry rest ih =>
      rw [finishEntries, NamedMap.lookup_entry_cons, NamedMap.lookup_entry_cons, ih]
      split_ifs <;> rfl

/-- A value that stands in a table of the document is found in the record of this table. -/
theorem exists_record_of_valueAt? {origin : TableOrigin} {entries : Entries} {header key : String}
    {value : Value} (found : (Node.table origin entries).valueAt? [header, key] = some value) :
    ∃ settings, (finishEntries entries).lookup header = some (.record settings true) ∧
      settings.lookup key = some value := by
  obtain ⟨node, under_header, inside⟩ := Option.bind_eq_some_iff.mp found
  cases node with
  | value _ => simp [Node.valueAt?] at inside
  | tables _ => simp [Node.valueAt?] at inside
  | table inner content =>
      obtain ⟨last, under_key, at_end⟩ := Option.bind_eq_some_iff.mp inside
      refine ⟨finishEntries content, by rw [lookup_finishEntries, under_header]; rfl, ?_⟩
      cases last with
      | table _ _ => simp [Node.valueAt?] at at_end
      | tables _ => simp [Node.valueAt?] at at_end
      | value _ =>
          obtain rfl := Option.some.inj at_end
          rw [lookup_finishEntries, under_key]
          rfl

/-- What a document assigns first under its first header is what it says in the end. -/
theorem exists_record_of_first_assignment {header key : String} {value : Value}
    {below : List Statement} {document : Value}
    (read : valueOfStatements? (.header [] header :: .assignment [] key value :: below) =
      some document) :
    ∃ sections settings, document = .record sections true ∧
      sections.lookup header = some (.record settings true) ∧
      settings.lookup key = some value := by
  obtain ⟨outline, added, rfl⟩ := Option.map_eq_some_iff.mp read
  have first_eq : (⟨[], []⟩ : Outline).add (.header [] header) =
      some ⟨[(header, .table .header [])], [header]⟩ := rfl
  have second_eq : (⟨[(header, .table .header [])], [header]⟩ : Outline).add
      (.assignment [] key value) =
        some ⟨[(header, .table .header [(key, .value value)])], [header]⟩ := by
    simp [Outline.add, descend, assign, addValue, updateEntry]
  rw [List.foldlM_cons, first_eq, Option.bind_eq_bind, Option.bind_some, List.foldlM_cons,
    second_eq, Option.bind_eq_bind, Option.bind_some] at added
  have stays := extends_foldlM added [header, key] value (by simp [Outline.node, Node.valueAt?])
  obtain ⟨settings, under_header, under_key⟩ := exists_record_of_valueAt? stays
  exact ⟨_, settings, rfl, under_header, under_key⟩

theorem names_updateEntry {key : String} {change : Option Node → Option Node}
    {entries later : Entries} (updated : updateEntry key change entries = some later) :
    later.map Prod.fst =
      if key ∈ entries.map Prod.fst then entries.map Prod.fst
      else entries.map Prod.fst ++ [key] := by
  induction entries generalizing later with
  | nil =>
      obtain ⟨node, -, rfl⟩ := Option.map_eq_some_iff.mp updated
      rfl
  | cons entry rest ih =>
      rw [updateEntry] at updated
      split_ifs at updated with same
      · obtain ⟨node, -, rfl⟩ := Option.map_eq_some_iff.mp updated
        simp [same]
      · obtain ⟨laterRest, updated_rest, rfl⟩ := Option.map_eq_some_iff.mp updated
        rw [List.map_cons, List.map_cons, ih updated_rest]
        simp only [List.mem_cons, Ne.symm same, false_or]
        split_ifs <;> rfl

/-- The change keeps the names of a table distinct. -/
def KeepsDistinct (change : TableOrigin → Entries → Option Entries) : Prop :=
  ∀ origin entries later, change origin entries = some later →
    (entries.map Prod.fst).Nodup → (later.map Prod.fst).Nodup

theorem keepsDistinct_updateEntry (key : String) (change : Option Node → Option Node) :
    KeepsDistinct fun _ => updateEntry key change := by
  intro origin entries later updated distinct
  rw [names_updateEntry updated]
  split_ifs with there
  · exact distinct
  · rw [← List.concat_eq_append]
    exact distinct.concat there

theorem keepsDistinct_descend (dotted : Bool) {change : TableOrigin → Entries → Option Entries}
    (keeps : KeepsDistinct change) (path : List String) :
    KeepsDistinct (descend dotted change path) := by
  cases path with
  | nil => exact keeps
  | cons key path => exact fun origin => keepsDistinct_updateEntry key _ origin

theorem keepsDistinct_assign (path : List String) (key : String) (value : Value) :
    KeepsDistinct fun _ => assign path key value := by
  have inside : KeepsDistinct fun origin inner =>
      if (origin == .dotted) == path.isEmpty then none else addValue key value inner := by
    intro origin entries later added
    simp only at added
    split_ifs at added
    exact keepsDistinct_updateEntry key _ origin entries later added
  exact fun _ => keepsDistinct_descend true inside path .header

theorem nodup_names_add {outline later : Outline} {statement : Statement}
    (added : outline.add statement = some later)
    (distinct : (outline.entries.map Prod.fst).Nodup) : (later.entries.map Prod.fst).Nodup := by
  cases statement with
  | header path key =>
      obtain ⟨entries, defined, rfl⟩ := Option.map_eq_some_iff.mp added
      exact keepsDistinct_descend false (keepsDistinct_updateEntry key _) path .header _ _ defined
        distinct
  | element path key =>
      obtain ⟨entries, appended, rfl⟩ := Option.map_eq_some_iff.mp added
      exact keepsDistinct_descend false (keepsDistinct_updateEntry key _) path .header _ _ appended
        distinct
  | assignment path key value =>
      obtain ⟨entries, assigned, rfl⟩ := Option.map_eq_some_iff.mp added
      exact keepsDistinct_descend false (keepsDistinct_assign path key value) outline.current
        .header _ _ assigned distinct

theorem nodup_names_foldlM {statements : List Statement} {outline later : Outline}
    (added : statements.foldlM Outline.add outline = some later)
    (distinct : (outline.entries.map Prod.fst).Nodup) : (later.entries.map Prod.fst).Nodup := by
  induction statements generalizing outline with
  | nil =>
      obtain rfl := Option.some.inj added
      exact distinct
  | cons statement rest ih =>
      rw [List.foldlM_cons] at added
      obtain ⟨next, first, others⟩ := Option.bind_eq_some_iff.mp added
      exact ih others (nodup_names_add first distinct)

theorem names_finishEntries (entries : Entries) :
    (finishEntries entries).map Prod.fst = entries.map Prod.fst := by
  induction entries with
  | nil => rfl
  | cons entry rest ih => rw [finishEntries, List.map_cons, List.map_cons, ih]

/-- A document is a record, and no name comes twice in it. -/
theorem exists_record_of_document? {text : String} {document : Value}
    (read : document? text = some document) :
    ∃ entries, document = .record entries true ∧ (entries.map Prod.fst).Nodup := by
  obtain ⟨statements, -, document_eq⟩ := Option.bind_eq_some_iff.mp read
  obtain ⟨outline, added, rfl⟩ := Option.map_eq_some_iff.mp document_eq
  refine ⟨_, rfl, ?_⟩
  rw [names_finishEntries]
  exact nodup_names_foldlM added List.nodup_nil

end Toml
end DataLayer
