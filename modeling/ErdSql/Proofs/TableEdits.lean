import ErdSql.Proofs.Groups
import ErdSql.Table.Layout

/-!
# What entities change

The changes that an entity makes to its group fall into three parts: what comes before its
foreign keys, the foreign keys, and what comes after them.  The outer parts do not depend on
the choice to write foreign keys and write none; the middle part puts off the foreign keys
that the columns of the entity call for, reports warnings, and does nothing else.
-/

namespace ErdSql

/-- Whether a line adds a foreign key. -/
def Sql.Line.isForeignKey : Sql.Line → Bool
  | .statement (.addForeignKey _) => true
  | _ => false

/-- Whether a line adds something to a table that is there: a constraint, an index, a comment, a
trigger or a row.  Texts and blank lines count as such. -/
def Sql.Line.isAddition : Sql.Line → Bool
  | .blank => true
  | .text _ => true
  | .statement (.addUnique _ _) => true
  | .statement (.createIndex _ _) => true
  | .statement (.comment _ _ _) => true
  | .statement (.createTrigger _ _ _) => true
  | .statement (.insert _ _ _) => true
  | .statement _ => false

/-- Whether an event only tells something, to the modeller or to the log. -/
def Event.isTalk (event : Event) : Bool :=
  match event.action with
  | .report _ => true
  | .note _ _ _ _ => true
  | _ => false

theorem Event.action_of_isTalk {event : Event} (h : event.isTalk = true) :
    (∃ d, event.action = .report d) ∨
      ∃ level logger message cause, event.action = .note level logger message cause := by
  obtain ⟨context, action⟩ := event
  cases action with
  | report d => exact Or.inl ⟨d, rfl⟩
  | note level logger message cause => exact Or.inr ⟨level, logger, message, cause, rfl⟩
  | mark name data => cases h
  | assign tag => cases h
  | write path script => cases h
  | conclude step => cases h

theorem Event.script?_of_isTalk {event : Event} (h : event.isTalk = true) :
    event.script? = none := by
  rcases action_of_isTalk h with ⟨d, haction⟩ | ⟨level, logger, message, cause, haction⟩
  · simp [script?, haction]
  · simp [script?, haction]

theorem Event.step?_of_isTalk {event : Event} (h : event.isTalk = true) :
    event.step? = none := by
  rcases action_of_isTalk h with ⟨d, haction⟩ | ⟨level, logger, message, cause, haction⟩
  · simp [step?, haction]
  · simp [step?, haction]

namespace Table

/-- Whether the change has nothing to do with foreign keys and writes no file. -/
def Edit.isPlain : Edit → Bool
  | .event e => e.isTalk
  | .create _ line => !line.isForeignKey
  | .drop line => !line.isForeignKey
  | .defer _ => false
  | .complete _ => true

/-- Whether the change adds to a table that is there. -/
def Edit.isAddition : Edit → Bool
  | .event e => e.isTalk
  | .create _ line => line.isAddition
  | .drop _ => false
  | .defer _ => false
  | .complete _ => true

theorem Edit.isPlain_of_isAddition {edit : Edit} (h : edit.isAddition = true) :
    edit.isPlain = true := by
  cases edit with
  | event e => exact h
  | create depth line =>
      cases line with
      | blank => rfl
      | text text => rfl
      | statement statement => cases statement <;> first | rfl | cases h
  | drop line => cases h
  | defer key => cases h
  | complete table => rfl

theorem Edit.isForeignKey_of_isPlain {edit : Edit} (h : edit.isPlain = true)
    {item : Sql.ScriptItem}
    (hitem : edit.createItem? = some item ∨ edit.dropItem? = some item) :
    item.line.isForeignKey = false := by
  cases edit with
  | create depth line =>
      rcases hitem with hitem | hitem
      · cases hitem
        simpa [isPlain] using h
      · cases hitem
  | drop line =>
      rcases hitem with hitem | hitem
      · cases hitem
      · cases hitem
        simpa [isPlain] using h
  | event e => rcases hitem with hitem | hitem <;> cases hitem
  | defer key => rcases hitem with hitem | hitem <;> cases hitem
  | complete table => rcases hitem with hitem | hitem <;> cases hitem

/-- The changes of a table that come before its foreign keys. -/
def openingEdits (table : String) (entity : Entity) : List Edit :=
  let columns := entity.columns.map (resolveColumn table)
  [.event (.note .debug loggerName
      ("Generating table " ++ table ++ " from entity " ++ entity.name))] ++
    (entity.columns.flatMap (columnDiagnostics table)).map reportEdit ++
    enumEdits columns ++ dropEdits table columns

/-- The changes of a table that come after its foreign keys. -/
def closingEdits (options : Options) (table tableName : String) (entity : Entity) :
    List Edit :=
  let columns := entity.columns.map (resolveColumn table)
  let named := namedColumns columns
  let mode := documentationMode options entity
  bodyEdits table named ++ uniqueEdits table named ++ foreignIndexEdits table named ++
    userIndexEdits table named ++ commentEdits mode table entity named ++
    triggerEdits options entity table tableName ++
    (if mode = .seedInserts then seedEdits table entity columns else []) ++ [.complete table]

/-- The changes of a table that come after its body. -/
def furtherEdits (options : Options) (table tableName : String) (entity : Entity) :
    List Edit :=
  let columns := entity.columns.map (resolveColumn table)
  let named := namedColumns columns
  let mode := documentationMode options entity
  uniqueEdits table named ++ foreignIndexEdits table named ++ userIndexEdits table named ++
    commentEdits mode table entity named ++ triggerEdits options entity table tableName ++
    (if mode = .seedInserts then seedEdits table entity columns else []) ++ [.complete table]

/-- The columns of an entity that have a name, as they appear in the given table. -/
def tableColumns (table : String) (entity : Entity) : List NamedColumn :=
  namedColumns (entity.columns.map (resolveColumn table))

theorem tableColumns_eq (table : String) (entity : Entity) :
    tableColumns table entity = entity.columns.filterMap fun column =>
      (Naming.columnName column.toElement).toOption.map fun name =>
        ⟨name, resolveColumn table column⟩ := by
  rw [tableColumns, namedColumns, List.filterMap_map]
  rfl

theorem tableEdits_eq (options : Options) (index : Index) (schema tableName : String)
    (entity : Entity) :
    tableEdits options index schema tableName entity =
      openingEdits (schema ++ "." ++ tableName) entity ++
        (referenceEdits options index (schema ++ "." ++ tableName) tableName
            (tableColumns (schema ++ "." ++ tableName) entity) ++
          closingEdits options (schema ++ "." ++ tableName) tableName entity) := by
  simp only [tableEdits, openingEdits, closingEdits, tableColumns, List.append_assoc]

theorem closingEdits_eq (options : Options) (table tableName : String) (entity : Entity) :
    closingEdits options table tableName entity =
      bodyEdits table (tableColumns table entity) ++
        furtherEdits options table tableName entity := by
  simp only [closingEdits, furtherEdits, tableColumns, List.append_assoc]

/-! What holds of the changes with the statements of a part of a table, and of the blank line after
them, holds of all changes that make the part. -/

section Parts

variable {p : Edit → Bool} (table : String) (hblank : p blankLine = true)

include hblank

theorem all_openingEdits
    (hnote : ∀ message : String, p (.event (.note .debug loggerName message)) = true)
    (hreport : ∀ d, p (reportEdit d) = true)
    (henum : ∀ type labels, p (createStatement (.createEnum type labels)) = true)
    (hcast : ∀ type, p (createStatement (.enumCast type)) = true)
    (hdropTable : p (.drop (.statement (.dropTable table))) = true)
    (hdropEnum : ∀ type, p (.drop (.statement (.dropEnum type))) = true) (entity : Entity) :
    (openingEdits table entity).all p = true := by
  have hreports : ∀ ds : List Diagnostic, (ds.map reportEdit).all p = true := by
    intro ds
    rw [List.all_map]
    exact List.all_eq_true.2 fun d _ => hreport d
  have henums : ∀ columns : List ResolvedColumn, (enumEdits columns).all p = true := by
    intro columns
    rw [enumEdits, List.all_flatMap]
    exact List.all_eq_true.2 fun new _ => by simp [henum, hcast, hblank]
  have hdrops : ∀ columns : List ResolvedColumn, (dropEdits table columns).all p = true := by
    intro columns
    rw [dropEdits, List.all_cons, List.all_map, hdropTable]
    exact List.all_eq_true.2 fun new _ => hdropEnum new.1
  simp only [openingEdits, List.all_append, List.all_cons, List.all_nil, hnote, hreports, henums,
    hdrops, Bool.and_true]

theorem all_bodyEdits (htable : p (createStatement (.createTable table)) = true)
    (hentry : ∀ entry last, p (.create 1 (.statement (.tableEntry entry last))) = true)
    (hend : p (createLine (.text ");")) = true) (columns : List NamedColumn) :
    (bodyEdits table columns).all p = true := by
  have hentries : ∀ entries : List Sql.TableEntry,
      ((entryStatements entries).map fun s => Edit.create 1 (.statement s)).all p = true := by
    intro entries
    induction entries using entryStatements.induct with
    | case1 => rfl
    | case2 entry => simp [entryStatements, hentry]
    | case3 entry next rest ih =>
        rw [entryStatements, List.map_cons, List.all_cons, ih, hentry, Bool.and_true]
  simp [bodyEdits, List.all_append, hentries, htable, hend, hblank]

theorem all_uniqueEdits (hunique : ∀ names, p (createStatement (.addUnique table names)) = true)
    (columns : List NamedColumn) : (uniqueEdits table columns).all p = true := by
  simp only [uniqueEdits]
  split
  · rfl
  · simp [hunique, hblank]

theorem all_foreignIndexEdits
    (hindex : ∀ members, p (createStatement (.createIndex table members)) = true)
    (columns : List NamedColumn) : (foreignIndexEdits table columns).all p = true := by
  simp only [foreignIndexEdits]
  split
  · rfl
  · simp [List.all_append, List.all_map, hindex, hblank]

theorem all_userIndexEdits
    (hheading : ∀ name : String, p (createLine (.text ("-- Index: " ++ name))) = true)
    (hindex : ∀ members, p (createStatement (.createIndex table members)) = true)
    (columns : List NamedColumn) : (userIndexEdits table columns).all p = true := by
  rw [userIndexEdits, List.all_flatMap]
  exact List.all_eq_true.2 fun name _ => by simp [hheading, hindex, hblank]

theorem all_commentEdits
    (hcomment : ∀ target name text, p (createStatement (.comment target name text)) = true)
    (mode : DocumentationMode) (entity : Entity) (columns : List NamedColumn) :
    (commentEdits mode table entity columns).all p = true := by
  have hlast : ∀ none : Bool, (if none then [] else [blankLine]).all p = true := by
    intro none
    cases none
    · simp [hblank]
    · rfl
  simp only [commentEdits, List.all_append, hlast, Bool.and_true]
  refine Bool.and_eq_true_iff.2 ⟨?_, ?_⟩
  · split
    · simp [hcomment]
    · rfl
  · refine List.all_eq_true.2 fun edit hedit => ?_
    obtain ⟨column, -, hcolumn⟩ := List.mem_filterMap.1 hedit
    split at hcolumn
    · cases hcolumn
    · cases hcolumn
      exact hcomment _ _ _

theorem all_triggerEdits (hreport : ∀ d, p (reportEdit d) = true)
    (htrigger : ∀ trigger event, p (createStatement (.createTrigger trigger event table)) = true)
    (htext : ∀ text, p (.create 1 (.text text)) = true) (options : Options) (entity : Entity)
    (tableName : String) : (triggerEdits options entity table tableName).all p = true := by
  rw [triggerEdits, List.all_flatMap]
  refine List.all_eq_true.2 fun tag _ => ?_
  split
  · simp [hreport]
  · simp [htrigger, htext, hblank]

theorem all_seedEdits
    (hinsert : ∀ columns values, p (createStatement (.insert table columns values)) = true)
    (entity : Entity) (columns : List ResolvedColumn) :
    (seedEdits table entity columns).all p = true := by
  simp only [seedEdits]
  split
  · rfl
  · simp [List.all_append, List.all_map, seedStatement, hinsert, hblank]

theorem all_furtherEdits (hreport : ∀ d, p (reportEdit d) = true)
    (hunique : ∀ names, p (createStatement (.addUnique table names)) = true)
    (hindex : ∀ members, p (createStatement (.createIndex table members)) = true)
    (hcomment : ∀ target name text, p (createStatement (.comment target name text)) = true)
    (htrigger : ∀ trigger event, p (createStatement (.createTrigger trigger event table)) = true)
    (hinsert : ∀ columns values, p (createStatement (.insert table columns values)) = true)
    (htext : ∀ depth text, p (.create depth (.text text)) = true)
    (hcomplete : p (.complete table) = true) (options : Options) (tableName : String)
    (entity : Entity) : (furtherEdits options table tableName entity).all p = true := by
  have hseeds : (if documentationMode options entity = .seedInserts then
      seedEdits table entity (entity.columns.map (resolveColumn table)) else []).all p = true := by
    split
    · exact all_seedEdits table hblank hinsert _ _
    · rfl
  simp only [furtherEdits, List.all_append, all_uniqueEdits table hblank hunique,
    all_foreignIndexEdits table hblank hindex,
    all_userIndexEdits table hblank (fun _ => htext 0 _) hindex,
    all_commentEdits table hblank hcomment,
    all_triggerEdits table hblank hreport htrigger (htext 1), hseeds, List.all_cons, List.all_nil,
    hcomplete, Bool.and_true]

end Parts

section Additions

theorem openingEdits_isPlain (table : String) (entity : Entity) :
    (openingEdits table entity).all Edit.isPlain = true :=
  all_openingEdits table rfl (fun _ => rfl) (fun _ => rfl) (fun _ _ => rfl) (fun _ => rfl) rfl
    (fun _ => rfl) entity

/-- After its body a table is only added to. -/
theorem furtherEdits_isAddition (options : Options) (table tableName : String)
    (entity : Entity) :
    (furtherEdits options table tableName entity).all Edit.isAddition = true :=
  all_furtherEdits table rfl (fun _ => rfl) (fun _ => rfl) (fun _ => rfl) (fun _ _ _ => rfl)
    (fun _ _ => rfl) (fun _ _ => rfl) (fun _ _ => rfl) rfl options tableName entity

theorem closingEdits_isPlain (options : Options) (table tableName : String) (entity : Entity) :
    (closingEdits options table tableName entity).all Edit.isPlain = true := by
  have hbody : (bodyEdits table (tableColumns table entity)).all Edit.isPlain = true :=
    all_bodyEdits table rfl rfl (fun _ _ => rfl) rfl _
  have hfurther := furtherEdits_isAddition options table tableName entity
  rw [closingEdits_eq, List.all_append, hbody, Bool.true_and]
  exact List.all_eq_true.2 fun edit hedit =>
    Edit.isPlain_of_isAddition (List.all_eq_true.1 hfurther edit hedit)

end Additions

end Table
end ErdSql
