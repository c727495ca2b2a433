import ErdSql.Proofs.TableEdits

/-!
# Foreign keys of columns

A column calls for a foreign key if it has a name, names the column it refers to, and that
column, its table and its schema have names.  The references of a table put off exactly the
foreign keys that its columns call for, in the order of the columns; beyond that they only
report warnings.
-/

namespace ErdSql

/-- Whether an event reports a warning. -/
def Event.isWarning (event : Event) : Bool :=
  match event.action with
  | .report d => d.severity = .warning
  | _ => false

theorem Event.action_of_isWarning {event : Event} (h : event.isWarning = true) :
    ∃ d, event.action = .report d ∧ d.severity = .warning := by
  obtain ⟨context, action⟩ := event
  cases action with
  | report d => exact ⟨d, rfl, of_decide_eq_true h⟩
  | note level logger message cause => cases h
  | mark name data => cases h
  | assign tag => cases h
  | write path script => cases h
  | conclude step => cases h

theorem Event.isTalk_of_isWarning {event : Event} (h : event.isWarning = true) :
    event.isTalk = true := by
  obtain ⟨d, haction, -⟩ := action_of_isWarning h
  simp [isTalk, haction]

theorem Event.severity_of_isWarning {event : Event} (h : event.isWarning = true)
    {d : Diagnostic} (hreport : event.diagnostic? = some d) : d.severity = .warning := by
  obtain ⟨reported, haction, hseverity⟩ := action_of_isWarning h
  simp only [diagnostic?, haction, Option.some.injEq] at hreport
  rw [← hreport]
  exact hseverity

theorem Naming.severity_of_schemaName?_eq_error {dataModel : Option Element}
    {fault : Naming.NameFault} (h : Naming.schemaName? dataModel = .error fault) :
    fault.diagnostic.severity = .warning := by
  cases dataModel with
  | none => cases h
  | some dataModel =>
      simp only [Naming.schemaName?, Naming.schemaName] at h
      split at h
      · cases h
      · split at h
        · cases h
        · cases h
          rfl

namespace Table

/-- The foreign key that a column of the given table calls for. -/
def foreignKey? (index : Index) (table tableName : String) (column : Column) :
    Option Sql.ForeignKey := do
  let name ← (Naming.columnName column.toElement).toOption
  let target ← referenceTarget? column
  let referred ← index.column? (.named target)
  let owner ← index.owner? (.column referred)
  let refColumn ← (Naming.columnName referred.toElement).toOption
  let refTable ←
    (Naming.prefixedTableName (prefixOf (index.owner? owner)) owner.element).toOption
  let refSchema ←
    (Naming.schemaName? ((index.dataModelOf? owner).map (·.toElement))).toOption
  return {
    table := table, constraintTable := tableName, column := name,
    refSchema := refSchema, refTable := refTable, refColumn := refColumn }

/-- Whether the change is one that references make: a warning, or a foreign key put off. -/
def Edit.isOfReference : Edit → Bool
  | .event e => e.isWarning
  | .defer (.foreignKey _) => true
  | _ => false

theorem Edit.eq_of_isOfReference {edit : Edit} (h : edit.isOfReference = true) :
    (∃ event, edit = .event event ∧ event.isWarning = true) ∨
      ∃ key, edit = .defer (.foreignKey key) := by
  cases edit with
  | event event => exact Or.inl ⟨event, rfl, h⟩
  | create depth line => cases h
  | drop line => cases h
  | complete table => cases h
  | defer constraint =>
      cases constraint with
      | foreignKey key => exact Or.inr ⟨key, rfl⟩
      | verbatim text => cases h

theorem Edit.isWritable_of_isOfReference {edit : Edit} (h : edit.isOfReference = true) :
    edit.isWritable = true := by
  rcases eq_of_isOfReference h with ⟨event, rfl, -⟩ | ⟨key, rfl⟩
  · rfl
  · rfl

theorem Edit.items_of_isOfReference {edit : Edit} (h : edit.isOfReference = true) :
    edit.createItem? = none ∧ edit.dropItem? = none ∧ edit.table? = none := by
  rcases eq_of_isOfReference h with ⟨event, rfl, -⟩ | ⟨key, rfl⟩
  · exact ⟨rfl, rfl, rfl⟩
  · exact ⟨rfl, rfl, rfl⟩

/-- A reference gives the foreign key that its column calls for. -/
theorem resolveReference_key (index : Index) (table tableName : String) (column : Column)
    {name target : String} (hname : (Naming.columnName column.toElement).toOption = some name)
    (htarget : referenceTarget? column = some target) :
    (resolveReference index table tableName ⟨name, resolveColumn table column⟩ target).key =
      foreignKey? index table tableName column := by
  simp only [foreignKey?, hname, htarget, Option.bind_eq_bind, Option.bind_some]
  unfold resolveReference
  cases index.column? (.named target) with
  | none => rfl
  | some referred =>
      simp only [Option.bind_some]
      cases index.owner? (.column referred) with
      | none => rfl
      | some owner =>
          simp only [Option.bind_some]
          cases Naming.columnName referred.toElement <;>
            cases Naming.prefixedTableName (prefixOf (index.owner? owner)) owner.element <;>
              cases Naming.schemaName? ((index.dataModelOf? owner).map (·.toElement)) <;> rfl

theorem severity_of_mem_schemaReports {dataModel : Option Element} {d : Diagnostic}
    (hd : d ∈ match Naming.schemaName? dataModel with
      | .error fault => [fault.diagnostic]
      | .ok _ => []) :
    d.severity = .warning := by
  cases hschema : Naming.schemaName? dataModel with
  | error fault =>
      rw [hschema] at hd
      rw [List.mem_singleton.1 hd]
      exact Naming.severity_of_schemaName?_eq_error hschema
  | ok schema =>
      rw [hschema] at hd
      cases hd

theorem resolveReference_reports (index : Index) (table tableName : String)
    (column : NamedColumn) (target : String) {d : Diagnostic}
    (hd : d ∈ (resolveReference index table tableName column target).reports) :
    d.severity = .warning := by
  unfold resolveReference at hd
  split at hd
  · rw [List.mem_singleton.1 hd]
  · split at hd
    · rw [List.mem_singleton.1 hd]
    · rename_i owner howner
      simp only at hd
      split at hd
      · exact severity_of_mem_schemaReports hd
      · rcases List.mem_append.1 hd with hd | hd
        · exact severity_of_mem_schemaReports hd
        · rw [List.mem_singleton.1 hd]

theorem Reference.edits_isOfReference {reference : Reference}
    (h : ∀ d ∈ reference.reports, d.severity = .warning) :
    reference.edits.all Edit.isOfReference = true := by
  rw [Reference.edits, List.all_append, List.all_map]
  refine Bool.and_eq_true_iff.2 ⟨List.all_eq_true.2 fun d hd => ?_, ?_⟩
  · exact decide_eq_true (h d hd)
  · cases reference.key <;> rfl

/-- References report warnings and put off foreign keys, and do nothing else. -/
theorem referenceEdits_isOfReference (options : Options) (index : Index)
    (table tableName : String) (columns : List NamedColumn) :
    (referenceEdits options index table tableName columns).all Edit.isOfReference = true := by
  unfold referenceEdits
  split
  · rw [List.all_flatMap]
    refine List.all_eq_true.2 fun column _ => ?_
    split
    · rename_i target htarget
      exact Reference.edits_isOfReference fun d hd =>
        resolveReference_reports index table tableName column target hd
    · rfl
  · rfl

/-- What looks at no change of a reference sees none of the references of a table. -/
theorem filterMap_referenceEdits {β : Type} {f : Edit → Option β}
    (hf : ∀ edit : Edit, edit.isOfReference = true → f edit = none) (options : Options)
    (index : Index) (table tableName : String) (columns : List NamedColumn) :
    (referenceEdits options index table tableName columns).filterMap f = [] := by
  have hall := referenceEdits_isOfReference options index table tableName columns
  exact List.filterMap_eq_nil_iff.2 fun edit hedit =>
    hf edit (List.all_eq_true.1 hall edit hedit)

theorem createItems_referenceEdits (options : Options) (index : Index) (table tableName : String)
    (columns : List NamedColumn) :
    (referenceEdits options index table tableName columns).filterMap Edit.createItem? = [] :=
  filterMap_referenceEdits (fun _ hedit => (Edit.items_of_isOfReference hedit).1) ..

theorem dropItems_referenceEdits (options : Options) (index : Index) (table tableName : String)
    (columns : List NamedColumn) :
    (referenceEdits options index table tableName columns).filterMap Edit.dropItem? = [] :=
  filterMap_referenceEdits (fun _ hedit => (Edit.items_of_isOfReference hedit).2.1) ..

theorem Reference.edits_keys (reference : Reference) :
    reference.edits.filterMap Edit.key? =
      (reference.key.map Sql.Constraint.foreignKey).toList := by
  have hreports : (reference.reports.map reportEdit).filterMap Edit.key? = [] := by
    rw [List.filterMap_map]
    exact List.filterMap_eq_nil_iff.2 fun _ _ => rfl
  rw [Reference.edits, List.filterMap_append, hreports]
  cases reference.key <;> rfl

/-- The references of a table put off the foreign keys that its columns call for. -/
theorem referenceEdits_keys {options : Options} (hon : options.foreignKeys = true)
    (index : Index) (table tableName : String) (entity : Entity) :
    (referenceEdits options index table tableName (tableColumns table entity)).filterMap
        Edit.key? =
      (entity.columns.filterMap (foreignKey? index table tableName)).map .foreignKey := by
  rw [referenceEdits, if_pos hon, tableColumns, namedColumns]
  generalize entity.columns = columns
  induction columns with
  | nil => rfl
  | cons column columns ih =>
      have hresolved : (resolveColumn table column).name =
          (Naming.columnName column.toElement).toOption := rfl
      rw [List.map_cons, List.filterMap_cons, List.filterMap_cons, hresolved]
      cases hname : (Naming.columnName column.toElement).toOption with
      | none =>
          have hkey : foreignKey? index table tableName column = none := by
            rw [foreignKey?, hname]
            rfl
          rw [hkey]
          exact ih
      | some name =>
          simp only [Option.map_some, List.flatMap_cons, List.filterMap_append, ih]
          cases htarget : referenceTarget? (resolveColumn table column).column with
          | none =>
              have hkey : foreignKey? index table tableName column = none := by
                have htarget' : referenceTarget? column = none := htarget
                rw [foreignKey?, hname, htarget']
                rfl
              rw [hkey]
              rfl
          | some target =>
              have hkey := resolveReference_key index table tableName column hname htarget
              simp only [Reference.edits_keys]
              rw [hkey]
              cases foreignKey? index table tableName column <;> rfl

theorem referenceEdits_of_off {options : Options} (hoff : options.foreignKeys = false)
    (index : Index) (table tableName : String) (columns : List NamedColumn) :
    referenceEdits options index table tableName columns = [] := by
  rw [referenceEdits, hoff]
  rfl

end Table
end ErdSql
