import ErdSql.Proofs.References

/-!
# Entities in scripts

What all the changes of an entity add to the scripts of its group.  The lines that they add do
not depend on the choice to write foreign keys, and none of them adds a foreign key; with that
choice, the foreign keys that the columns call for are put off.  An entity whose table has a
name gets the lines of its table as one block, and one without a name adds no line at all.
-/

namespace ErdSql

/-- The same options with the choice to write foreign keys made. -/
def Options.withForeignKeys (options : Options) (write : Bool) : Options :=
  { options with foreignKeys := write }

namespace Table

/-- The foreign keys that the columns of an entity call for, if its table has a name. -/
def entityForeignKeys (index : Index) (schema tablePrefix : String) (entity : Entity) :
    List Sql.ForeignKey :=
  match Naming.prefixedTableName tablePrefix entity.toElement with
  | .error _ => []
  | .ok tableName =>
      entity.columns.filterMap (foreignKey? index (schema ++ "." ++ tableName) tableName)

/-- The lines that create a table with the given columns. -/
def tableItems (table : String) (columns : List NamedColumn) : List Sql.ScriptItem :=
  ⟨0, .statement (.createTable table)⟩ ::
    ((entryStatements (tableEntries columns)).map fun s => ⟨1, .statement s⟩) ++
      [⟨0, .text ");"⟩]

section

variable (options : Options) (index : Index) (schema tablePrefix : String) (entity : Entity)

theorem entityEdits_of_ok {tableName : String}
    (h : Naming.prefixedTableName tablePrefix entity.toElement = .ok tableName) :
    entityEdits options index schema tablePrefix entity =
      openingEdits (schema ++ "." ++ tableName) entity ++
        (referenceEdits options index (schema ++ "." ++ tableName) tableName
            (tableColumns (schema ++ "." ++ tableName) entity) ++
          closingEdits options (schema ++ "." ++ tableName) tableName entity) := by
  rw [entityEdits, h]
  exact tableEdits_eq options index schema tableName entity

theorem entityEdits_of_error {fault : Naming.NameFault}
    (h : Naming.prefixedTableName tablePrefix entity.toElement = .error fault) :
    entityEdits options index schema tablePrefix entity = [reportEdit fault.diagnostic] := by
  rw [entityEdits, h]

/-- What looks at no change of a reference sees the same whether foreign keys are written or
not. -/
theorem filterMap_entityEdits_withForeignKeys {β : Type} (f : Edit → Option β)
    (hf : ∀ edit : Edit, edit.isOfReference = true → f edit = none) (write : Bool) :
    (entityEdits (options.withForeignKeys write) index schema tablePrefix entity).filterMap f =
      (entityEdits options index schema tablePrefix entity).filterMap f := by
  cases hname : Naming.prefixedTableName tablePrefix entity.toElement with
  | error fault => rw [entityEdits_of_error _ _ _ _ _ hname, entityEdits_of_error _ _ _ _ _ hname]
  | ok tableName =>
      rw [entityEdits_of_ok _ _ _ _ _ hname, entityEdits_of_ok _ _ _ _ _ hname]
      simp only [List.filterMap_append, filterMap_referenceEdits hf]
      rfl

theorem all_isWritable_entityEdits_withForeignKeys (write : Bool) :
    (entityEdits (options.withForeignKeys write) index schema tablePrefix entity).all
        Edit.isWritable =
      (entityEdits options index schema tablePrefix entity).all Edit.isWritable := by
  have hwritable : ∀ (options : Options) (table tableName : String) (columns : List NamedColumn),
      (referenceEdits options index table tableName columns).all Edit.isWritable = true := by
    intro options table tableName columns
    have hall := referenceEdits_isOfReference options index table tableName columns
    exact List.all_eq_true.2 fun edit hedit =>
      Edit.isWritable_of_isOfReference (List.all_eq_true.1 hall edit hedit)
  cases hname : Naming.prefixedTableName tablePrefix entity.toElement with
  | error fault => rw [entityEdits_of_error _ _ _ _ _ hname, entityEdits_of_error _ _ _ _ _ hname]
  | ok tableName =>
      rw [entityEdits_of_ok _ _ _ _ _ hname, entityEdits_of_ok _ _ _ _ _ hname]
      simp only [List.all_append, hwritable]
      rfl

/-- A change of an entity is one of its references or has nothing to do with foreign keys. -/
theorem isPlain_or_isOfReference_of_mem_entityEdits {edit : Edit}
    (h : edit ∈ entityEdits options index schema tablePrefix entity) :
    edit.isPlain = true ∨ edit.isOfReference = true := by
  cases hname : Naming.prefixedTableName tablePrefix entity.toElement with
  | error fault =>
      rw [entityEdits_of_error _ _ _ _ _ hname, List.mem_singleton] at h
      rw [h]
      exact Or.inl rfl
  | ok tableName =>
      rw [entityEdits_of_ok _ _ _ _ _ hname, List.mem_append, List.mem_append] at h
      rcases h with h | h | h
      · exact Or.inl (List.all_eq_true.1 (openingEdits_isPlain _ entity) edit h)
      · exact Or.inr
          (List.all_eq_true.1 (referenceEdits_isOfReference options index _ _ _) edit h)
      · exact Or.inl (List.all_eq_true.1 (closingEdits_isPlain options _ _ entity) edit h)

theorem isTalk_of_mem_entityEdits {edit : Edit} {event : Event}
    (h : edit ∈ entityEdits options index schema tablePrefix entity)
    (hevent : edit.event? = some event) : event.isTalk = true := by
  obtain rfl := Edit.eq_of_event?_eq_some hevent
  rcases isPlain_or_isOfReference_of_mem_entityEdits options index schema tablePrefix entity h
    with hedit | hedit
  · exact hedit
  · exact Event.isTalk_of_isWarning hedit

theorem isForeignKey_of_mem_createItems {item : Sql.ScriptItem}
    (h : item ∈ (entityEdits options index schema tablePrefix entity).filterMap
      Edit.createItem?) : item.line.isForeignKey = false := by
  obtain ⟨edit, hedit, hitem⟩ := List.mem_filterMap.1 h
  rcases isPlain_or_isOfReference_of_mem_entityEdits options index schema tablePrefix entity
    hedit with hplain | hreference
  · exact Edit.isForeignKey_of_isPlain hplain (Or.inl hitem)
  · rw [(Edit.items_of_isOfReference hreference).1] at hitem
    cases hitem

theorem isForeignKey_of_mem_dropItems {item : Sql.ScriptItem}
    (h : item ∈ (entityEdits options index schema tablePrefix entity).filterMap
      Edit.dropItem?) : item.line.isForeignKey = false := by
  obtain ⟨edit, hedit, hitem⟩ := List.mem_filterMap.1 h
  rcases isPlain_or_isOfReference_of_mem_entityEdits options index schema tablePrefix entity
    hedit with hplain | hreference
  · exact Edit.isForeignKey_of_isPlain hplain (Or.inr hitem)
  · rw [(Edit.items_of_isOfReference hreference).2.1] at hitem
    cases hitem

theorem keys_eq_nil_of_isPlain {edits : List Edit} (h : edits.all Edit.isPlain = true) :
    edits.filterMap Edit.key? = [] := by
  refine List.filterMap_eq_nil_iff.2 fun edit hedit => ?_
  have hplain := List.all_eq_true.1 h edit hedit
  cases edit <;> first | rfl | cases hplain

theorem keys_eq_nil_of_prefix {edits all : List Edit} (h : edits <+: all)
    (hplain : all.all Edit.isPlain = true) : edits.filterMap Edit.key? = [] :=
  keys_eq_nil_of_isPlain (List.all_eq_true.2 fun edit hedit =>
    List.all_eq_true.1 hplain edit (h.subset hedit))

theorem keys_entityEdits (hon : options.foreignKeys = true) :
    (entityEdits options index schema tablePrefix entity).filterMap Edit.key? =
      (entityForeignKeys index schema tablePrefix entity).map .foreignKey := by
  cases hname : Naming.prefixedTableName tablePrefix entity.toElement with
  | error fault =>
      rw [entityEdits_of_error _ _ _ _ _ hname, entityForeignKeys, hname]
      rfl
  | ok tableName =>
      rw [entityEdits_of_ok _ _ _ _ _ hname, entityForeignKeys, hname]
      simp only [List.filterMap_append, keys_eq_nil_of_isPlain (openingEdits_isPlain _ entity),
        keys_eq_nil_of_isPlain (closingEdits_isPlain options _ _ entity),
        referenceEdits_keys hon, List.nil_append, List.append_nil]

theorem keys_entityEdits_of_off (hoff : options.foreignKeys = false) :
    (entityEdits options index schema tablePrefix entity).filterMap Edit.key? = [] := by
  cases hname : Naming.prefixedTableName tablePrefix entity.toElement with
  | error fault =>
      rw [entityEdits_of_error _ _ _ _ _ hname]
      rfl
  | ok tableName =>
      rw [entityEdits_of_ok _ _ _ _ _ hname]
      simp only [List.filterMap_append, keys_eq_nil_of_isPlain (openingEdits_isPlain _ entity),
        keys_eq_nil_of_isPlain (closingEdits_isPlain options _ _ entity),
        referenceEdits_of_off hoff, List.nil_append]

theorem createItems_bodyEdits (table : String) (columns : List NamedColumn) :
    (bodyEdits table columns).filterMap Edit.createItem? =
      tableItems table columns ++ [⟨0, .blank⟩] := by
  have hmap : ∀ statements : List Sql.Statement,
      (statements.map fun s => Edit.create 1 (.statement s)).filterMap Edit.createItem? =
        statements.map fun s => ⟨1, .statement s⟩ := by
    intro statements
    rw [List.filterMap_map]
    exact List.filterMap_eq_map (f := fun s => (⟨1, .statement s⟩ : Sql.ScriptItem)) ▸ rfl
  simp only [bodyEdits, List.filterMap_append, hmap, tableItems]
  simp [createStatement, createLine, blankLine, Edit.createItem?]

/-- An entity whose table has a name gets the lines of its table. -/
theorem tableItems_infix_createItems {tableName : String}
    (h : Naming.prefixedTableName tablePrefix entity.toElement = .ok tableName) :
    tableItems (schema ++ "." ++ tableName) (tableColumns (schema ++ "." ++ tableName) entity) <:+:
      (entityEdits options index schema tablePrefix entity).filterMap Edit.createItem? := by
  rw [entityEdits_of_ok _ _ _ _ _ h]
  simp only [closingEdits, List.filterMap_append, createItems_bodyEdits, tableColumns,
    List.append_assoc]
  refine List.infix_append_of_infix_right (List.infix_append_of_infix_right ?_)
  exact (List.prefix_append _ _).isInfix

theorem exists_of_mem_entityForeignKeys {index : Index} {schema tablePrefix : String}
    {entity : Entity} {key : Sql.ForeignKey}
    (h : key ∈ entityForeignKeys index schema tablePrefix entity) :
    ∃ tableName, Naming.prefixedTableName tablePrefix entity.toElement = .ok tableName ∧
      ∃ column ∈ entity.columns,
        foreignKey? index (schema ++ "." ++ tableName) tableName column = some key := by
  unfold entityForeignKeys at h
  cases hname : Naming.prefixedTableName tablePrefix entity.toElement with
  | error fault =>
      rw [hname] at h
      cases h
  | ok tableName =>
      rw [hname] at h
      obtain ⟨column, hcolumn, hkey⟩ := List.mem_filterMap.1 h
      exact ⟨tableName, rfl, column, hcolumn, hkey⟩

theorem exists_tableName {tablePrefix : String} {entity : Entity}
    (h : isGenerated tablePrefix entity = true) :
    ∃ tableName, Naming.prefixedTableName tablePrefix entity.toElement = .ok tableName := by
  unfold isGenerated at h
  cases hname : Naming.prefixedTableName tablePrefix entity.toElement with
  | error fault =>
      rw [hname] at h
      cases h
  | ok tableName => exact ⟨tableName, rfl⟩

/-- An entity that becomes no table only reports why. -/
theorem exists_entityEdits_eq_of_not_isGenerated (h : isGenerated tablePrefix entity = false) :
    ∃ d, entityEdits options index schema tablePrefix entity = [reportEdit d] := by
  cases hname : Naming.prefixedTableName tablePrefix entity.toElement with
  | error fault => exact ⟨_, entityEdits_of_error _ _ _ _ _ hname⟩
  | ok tableName =>
      rw [isGenerated, hname] at h
      cases h

end
end Table
end ErdSql
