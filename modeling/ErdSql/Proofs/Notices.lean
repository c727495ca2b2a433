import ErdSql.Proofs.RunSequences
import Mathlib.Data.List.Basic

/-!
# What a run tells

Apart from warnings, the diagnostics of a run are known from the model.  A name that cannot be used
is told where the thing with the name is generated, once; what refers to it tells a warning at
most.  Each entity of a data model whose schema has a name is announced once, whether it becomes a
table or not.
-/

namespace ErdSql

/-- What an event reports that is no warning. -/
def Event.notice? (event : Event) : Option Diagnostic :=
  event.diagnostic?.filter (·.severity ≠ .warning)

@[simp] theorem Event.notice?_within (context : Log.Context) (event : Event) :
    (event.within context).notice? = event.notice? := rfl

theorem Event.notice?_of_isWarning {event : Event} (h : event.isWarning = true) :
    event.notice? = none := by
  obtain ⟨d, haction, hseverity⟩ := action_of_isWarning h
  simp [notice?, diagnostic?, haction, Option.filter, hseverity]

theorem Event.notice?_report_of_warning {d : Diagnostic} (h : d.severity = .warning) :
    (Event.report d).notice? = none :=
  notice?_of_isWarning (decide_eq_true h)

theorem Event.filterMap_notice? (events : List Event) :
    events.filterMap Event.notice? =
      (Event.diagnostics events).filter (·.severity ≠ .warning) :=
  (List.filter_filterMap ..).symm

/-- The reports among these that are no warnings. -/
theorem Event.notices_reports (ds : List Diagnostic) :
    (ds.map Event.report).filterMap Event.notice? = ds.filter (·.severity ≠ .warning) := by
  rw [List.filterMap_map, ← List.filterMap_eq_filter]
  rfl

namespace Naming

theorem severity_of_columnName_eq_error {column : Element} {fault : NameFault}
    (h : columnName column = .error fault) : fault.diagnostic.severity = .error := by
  simp only [columnName] at h
  split at h
  · cases h
  · cases h
    rfl

theorem severity_of_routineName_eq_error {tag : Tag} {fault : NameFault}
    (h : routineName tag = .error fault) : fault.diagnostic.severity = .error := by
  simp only [routineName] at h
  split at h
  · cases h
  · cases h
    rfl

theorem severity_of_prefixedTableName_eq_error {tablePrefix : String} {entity : Element}
    {fault : NameFault} (h : prefixedTableName tablePrefix entity = .error fault) :
    fault.diagnostic.severity = .error := by
  simp only [prefixedTableName, tableName] at h
  split at h
  · rename_i base hbase
    split at hbase
    · cases hbase
    · cases hbase
      cases h
      rfl
  · split at h
    · cases h
    · cases h
      rfl

theorem severity_of_databaseName_fault {project : Element} {fault : NameFault}
    (h : (databaseName project).fault = some fault) : fault.diagnostic.severity = .warning := by
  simp only [databaseName] at h
  split at h
  · cases h
  · cases h
    rfl

end Naming

/-- What is reported about the name of a column, if it cannot be used. -/
def Column.fault? (column : Column) : Option Diagnostic :=
  match Naming.columnName column.toElement with
  | .error fault => some fault.diagnostic
  | .ok _ => none

/-- What is reported about the name of a routine or trigger, if it cannot be used. -/
def Tag.routineFault? (tag : Tag) : Option Diagnostic :=
  match Naming.routineName tag with
  | .error fault => some fault.diagnostic
  | .ok _ => none

theorem Column.severity_of_fault? {column : Column} {d : Diagnostic}
    (h : column.fault? = some d) : d.severity = .error := by
  unfold fault? at h
  cases hname : Naming.columnName column.toElement with
  | error fault =>
      rw [hname] at h
      cases h
      exact Naming.severity_of_columnName_eq_error hname
  | ok name =>
      rw [hname] at h
      cases h

theorem Tag.severity_of_routineFault? {tag : Tag} {d : Diagnostic}
    (h : tag.routineFault? = some d) : d.severity = .error := by
  unfold routineFault? at h
  cases hname : Naming.routineName tag with
  | error fault =>
      rw [hname] at h
      cases h
      exact Naming.severity_of_routineName_eq_error hname
  | ok name =>
      rw [hname] at h
      cases h

namespace Table

/-- The faults of names that are found when an entity is generated: that of its table, or else
those of its columns and of its triggers. -/
def entityFaults (options : Options) (tablePrefix : String) (entity : Entity) :
    List Diagnostic :=
  match Naming.prefixedTableName tablePrefix entity.toElement with
  | .error fault => [fault.diagnostic]
  | .ok _ =>
      entity.columns.filterMap Column.fault? ++
        (entity.tags.pointingThrough options.triggerMarker).filterMap Tag.routineFault?

section Events

theorem events_eq_nil {edits : List Edit} (h : (edits.all fun edit => edit.event?.isNone) = true) :
    edits.filterMap Edit.event? = [] :=
  List.filterMap_eq_nil_iff.2 fun edit hedit =>
    Option.isNone_iff_eq_none.1 (List.all_eq_true.1 h edit hedit)

theorem events_reports (ds : List Diagnostic) :
    (ds.map reportEdit).filterMap Edit.event? = ds.map Event.report := by
  rw [List.filterMap_map, ← List.filterMap_eq_map]
  rfl

/-- What happens before the foreign keys of a table: its columns are reported on. -/
theorem events_openingEdits (table : String) (entity : Entity) :
    (openingEdits table entity).filterMap Edit.event? =
      .note .debug loggerName ("Generating table " ++ table ++ " from entity " ++ entity.name) ::
        (entity.columns.flatMap (columnDiagnostics table)).map Event.report := by
  have henums : ∀ columns : List ResolvedColumn,
      (enumEdits columns).filterMap Edit.event? = [] := by
    intro columns
    rw [enumEdits, List.filterMap_flatMap]
    exact List.flatMap_eq_nil_iff.2 fun _ _ => rfl
  have hdrops : ∀ columns : List ResolvedColumn,
      (dropEdits table columns).filterMap Edit.event? = [] := by
    intro columns
    rw [dropEdits, List.filterMap_cons_none rfl, List.filterMap_map]
    exact List.filterMap_eq_nil_iff.2 fun _ _ => rfl
  simp only [openingEdits, List.filterMap_append, events_reports, henums, hdrops,
    List.append_nil]
  rfl

theorem events_triggerEdits (options : Options) (entity : Entity) (table tableName : String) :
    (triggerEdits options entity table tableName).filterMap Edit.event? =
      ((entity.tags.pointingThrough options.triggerMarker).filterMap
        Tag.routineFault?).map Event.report := by
  rw [triggerEdits, List.filterMap_flatMap, List.map_filterMap, List.filterMap_eq_flatMap_toList]
  refine List.flatMap_congr fun tag _ => ?_
  unfold Tag.routineFault?
  cases Naming.routineName tag <;> rfl

/-- What happens after the foreign keys of a table: its triggers are reported on. -/
theorem events_closingEdits (options : Options) (table tableName : String) (entity : Entity) :
    (closingEdits options table tableName entity).filterMap Edit.event? =
      ((entity.tags.pointingThrough options.triggerMarker).filterMap
        Tag.routineFault?).map Event.report := by
  have hblank : blankLine.event?.isNone = true := rfl
  have hseeds : (if documentationMode options entity = .seedInserts then
      seedEdits table entity (entity.columns.map (resolveColumn table)) else []).filterMap
        Edit.event? = [] := by
    split
    · exact events_eq_nil (all_seedEdits table hblank (fun _ _ => rfl) _ _)
    · rfl
  simp only [closingEdits, List.filterMap_append,
    events_eq_nil (all_bodyEdits table hblank rfl (fun _ _ => rfl) rfl _),
    events_eq_nil (all_uniqueEdits table hblank (fun _ => rfl) _),
    events_eq_nil (all_foreignIndexEdits table hblank (fun _ => rfl) _),
    events_eq_nil (all_userIndexEdits table hblank (fun _ => rfl) (fun _ => rfl) _),
    events_eq_nil (all_commentEdits table hblank (fun _ _ _ => rfl) _ _ _),
    events_triggerEdits, hseeds, List.nil_append, List.append_nil]
  exact List.append_nil _

end Events

section Notices

theorem notices_columnDiagnostics (table : String) (column : Column) :
    (columnDiagnostics table column).filter (·.severity ≠ .warning) = column.fault?.toList := by
  unfold columnDiagnostics Column.fault?
  cases hname : Naming.columnName column.toElement with
  | error fault => simp [Naming.severity_of_columnName_eq_error hname]
  | ok name =>
      simp only
      split <;> rfl

theorem notices_routineFaults (tags : List Tag) :
    (tags.filterMap Tag.routineFault?).filter (·.severity ≠ .warning) =
      tags.filterMap Tag.routineFault? := by
  refine List.filter_eq_self.2 fun d hd => ?_
  obtain ⟨tag, -, htag⟩ := List.mem_filterMap.1 hd
  simp [Tag.severity_of_routineFault? htag]

/-- Apart from warnings, an entity tells its own faults and none of what it refers to. -/
theorem notices_entityEdits (options : Options) (index : Index) (schema tablePrefix : String)
    (entity : Entity) :
    ((entityEdits options index schema tablePrefix entity).filterMap Edit.event?).filterMap
        Event.notice? = entityFaults options tablePrefix entity := by
  unfold entityFaults
  cases hname : Naming.prefixedTableName tablePrefix entity.toElement with
  | error fault =>
      have hevents := events_reports [fault.diagnostic]
      rw [List.map_singleton] at hevents
      rw [entityEdits_of_error _ _ _ _ _ hname, hevents, Event.notices_reports]
      simp [Naming.severity_of_prefixedTableName_eq_error hname]
  | ok tableName =>
      -- the references come between the columns and the triggers, and only they look at others
      have hreferences : ∀ columns : List NamedColumn,
          ((referenceEdits options index (schema ++ "." ++ tableName) tableName
            columns).filterMap Edit.event?).filterMap Event.notice? = [] := by
        intro columns
        rw [List.filterMap_filterMap]
        refine filterMap_referenceEdits (fun edit hedit => ?_) _ _ _ _ _
        rcases Edit.eq_of_isOfReference hedit with ⟨event, rfl, hwarning⟩ | ⟨key, rfl⟩
        · exact Event.notice?_of_isWarning hwarning
        · rfl
      rw [entityEdits_of_ok _ _ _ _ _ hname]
      simp only [List.filterMap_append, hreferences, events_openingEdits, events_closingEdits,
        Event.notices_reports, notices_routineFaults, List.nil_append]
      rw [List.filterMap_cons_none rfl, Event.notices_reports, List.filter_flatMap]
      congr 1
      rw [List.filterMap_eq_flatMap_toList]
      exact List.flatMap_congr fun column _ => notices_columnDiagnostics _ column

end Notices

end Table

/-- The entities of a member, each with the prefix of its table. -/
def Member.prefixedEntities : Member → List (String × Entity)
  | .diagram d => d.entities.map fun entity => (d.tags.valueOf "prefix", entity)
  | .entity e => [("", e)]

/-- The entities of a data model that tables are asked for, each with the prefix of its table:
all of them if the schema has a name that can be used, and none otherwise. -/
def DataModel.askedEntities (model : DataModel) : List (String × Entity) :=
  match Naming.schemaName model.toElement with
  | .error _ => []
  | .ok _ => model.members.flatMap Member.prefixedEntities

namespace Generation

open Plan

/-- What is told when the table of an entity is asked for. -/
def announcement (entity : Entity) : Diagnostic :=
  ⟨.info, "Generate table DDL for " ++ entity.name, some entity.name⟩

def isAnnouncement (d : Diagnostic) : Bool :=
  d.severity = .info && "Generate table DDL for ".toList.isPrefixOf d.message.toList

/-- The routines of a kind that a data model asks for. -/
def routineTags (options : Options) (kind : Sql.RoutineKind) (model : DataModel) : List Tag :=
  model.tags.pointingAt (routineMarker options kind)

/-- The faults of names in a data model, in the order in which they are found. -/
def modelFaults (options : Options) (model : DataModel) : List Diagnostic :=
  (routineTags options .function model).filterMap Tag.routineFault? ++
    (routineTags options .procedure model).filterMap Tag.routineFault? ++
    model.askedEntities.flatMap fun (tablePrefix, entity) =>
      Table.entityFaults options tablePrefix entity

/-- What is told about an entity. -/
def entityNotices (options : Options) (tablePrefix : String) (entity : Entity) :
    List Diagnostic :=
  announcement entity :: Table.entityFaults options tablePrefix entity

/-- What is told about a data model apart from warnings. -/
def modelNotices (options : Options) (model : DataModel) : List Diagnostic :=
  (routineTags options .function model).map (routineDiagnostic .function) ++
    (routineTags options .procedure model).map (routineDiagnostic .procedure) ++
    model.askedEntities.flatMap fun (tablePrefix, entity) =>
      entityNotices options tablePrefix entity

/-- What is told about a project apart from warnings. -/
def projectNotices (options : Options) (location : String) (project : Project) :
    List Diagnostic :=
  (if (Naming.databaseName project.toElement).isValid then
      [⟨.info, "Database creation files completed.", none⟩] else []) ++
    project.dataModels.flatMap (modelNotices options) ++
    [⟨.info, "Project DDL files generated in " ++ location, none⟩]

section Pairs

theorem silent_write (pair : ScriptPair) (options : Options) (stem : String) :
    Shows Event.notice? (pair.write options stem) [] fun _ => True :=
  shows_emit_map fun _ _ => rfl

theorem silent_writeIfAny (pair : ScriptPair) (options : Options) (stem : String) :
    Shows Event.notice? (pair.writeIfAny options stem) [] fun _ => True := by
  unfold ScriptPair.writeIfAny
  split
  · exact silent_write pair options stem
  · exact shows_pure trivial

theorem silent_ofExcept {α : Type} (outcome : Except Sql.BuildFault α) :
    Shows Event.notice? (.ofExcept outcome) [] fun _ => True :=
  shows_ofExcept fun _ _ => trivial

theorem notices_database (options : Options) (project : Project) :
    Shows Event.notice? (database options project) [] fun valid =>
      valid = (Naming.databaseName project.toElement).isValid := by
  have hnames : (databaseNameEvents project
      (Naming.databaseName project.toElement)).filterMap Event.notice? = [] := by
    unfold databaseNameEvents
    cases hfault : (Naming.databaseName project.toElement).fault with
    | none => cases (Naming.databaseName project.toElement).assignment <;> rfl
    | some fault =>
        have hreported := Event.notice?_report_of_warning
          (Naming.severity_of_databaseName_fault hfault)
        cases (Naming.databaseName project.toElement).assignment <;>
          exact List.filterMap_cons_none hreported
  refine shows_bind_silent (shows_emit_silent hnames) fun _ _ => ?_
  split
  · rename_i hvalid
    refine shows_bind_silent (silent_ofExcept _) fun pair _ => ?_
    refine shows_bind_silent (silent_ofExcept _) fun pair _ => ?_
    exact shows_bind_silent (silent_write _ _ _) fun _ _ => shows_pure hvalid.symm
  · rename_i hvalid
    exact shows_pure (Bool.eq_false_iff.2 hvalid).symm

theorem severity_routineDiagnostic (kind : Sql.RoutineKind) (tag : Tag) :
    (routineDiagnostic kind tag).severity ≠ .warning := by
  unfold routineDiagnostic
  cases hname : Naming.routineName tag with
  | error fault =>
      simp only [Naming.severity_of_routineName_eq_error hname]
      nofun
  | ok name => nofun

theorem notices_routines (options : Options) (kind : Sql.RoutineKind) (model : DataModel)
    (modelName : String) :
    Shows Event.notice? (routines options kind model modelName)
      ((routineTags options kind model).map (routineDiagnostic kind)) fun _ => True := by
  have htold : Shows Event.notice?
      (.emit ((routineTags options kind model).map fun tag =>
        .report (routineDiagnostic kind tag)))
      ((routineTags options kind model).map (routineDiagnostic kind)) fun _ => True := by
    have hreports := Event.notices_reports
      ((routineTags options kind model).map (routineDiagnostic kind))
    rw [List.map_map, List.filter_eq_self.2] at hreports
    · exact ⟨hreports, trivial⟩
    · intro d hd
      obtain ⟨tag, -, rfl⟩ := List.mem_map.1 hd
      simp [severity_routineDiagnostic]
  refine shows_bind_silent (silent_ofExcept _) fun pair _ => ?_
  refine shows_bind_last htold fun _ (_ : True) => ?_
  refine shows_bind_silent (silent_ofExcept _) fun pair _ => ?_
  exact shows_bind_silent (silent_writeIfAny _ _ _) fun _ _ => shows_pure trivial

end Pairs

section Tables

variable (setting : TableSetting)

theorem notices_entity (tablePrefix : String) {group : Table.Group} (hopen : group.IsOpen)
    (entity : Entity) :
    Shows Event.notice? (setting.entity tablePrefix group entity)
      (entityNotices setting.options tablePrefix entity) Table.Group.IsOpen := by
  have hannounced : Shows Event.notice?
      (.emit [progress ("Generate table DDL for " ++ entity.name) (some entity.name)])
      [announcement entity] fun _ => True := shows_emit _
  refine shows_bind hannounced fun _ _ => ?_
  refine shows_within _ (Event.notice?_within _) ?_
  have hedits : Shows Event.notice? (.ofEdits group (setting.edits tablePrefix entity)) _ _ :=
    shows_events_ofEdits hopen _
  rw [Table.notices_entityEdits] at hedits
  exact hedits.imp fun next hnext => hnext ▸ hopen.extended _

theorem notices_entities (tablePrefix : String) {group : Table.Group} (hopen : group.IsOpen)
    (entities : List Entity) :
    Shows Event.notice? (setting.entities tablePrefix group entities)
      (entities.flatMap (entityNotices setting.options tablePrefix)) Table.Group.IsOpen := by
  induction entities generalizing group with
  | nil => exact shows_pure hopen
  | cons entity entities ih =>
      exact shows_bind (notices_entity setting tablePrefix hopen entity) fun next hnext => ih hnext

theorem notices_emptyGroup :
    Shows Event.notice? setting.emptyGroup [] Table.Group.IsOpen :=
  (shows_emptyGroup setting).imp fun group hgroup => by
    obtain ⟨unit, -, rfl⟩ := hgroup
    exact Table.Group.isOpen_empty unit

theorem silent_finish (stem : String) (group : Table.Group) :
    Shows Event.notice? (setting.finish stem group) [] fun _ => True :=
  shows_bind_silent (silent_writeIfAny _ _ _) fun _ _ => shows_pure trivial

/-- Members are told about one after the other, and each of their entities once. -/
theorem notices_members {progress : TableSetting.Progress} (hopen : progress.loose.IsOpen)
    (members : List Member) :
    Shows Event.notice? (setting.members progress members)
      ((members.flatMap Member.prefixedEntities).flatMap fun (tablePrefix, entity) =>
        entityNotices setting.options tablePrefix entity)
      fun last => last.loose.IsOpen := by
  induction members generalizing progress with
  | nil => exact shows_pure hopen
  | cons member members ih =>
      rw [List.flatMap_cons, List.flatMap_append]
      cases member with
      | diagram diagram =>
          have hdiagram : Shows Event.notice? (setting.diagram diagram)
              ((Member.diagram diagram).prefixedEntities.flatMap fun (tablePrefix, entity) =>
                entityNotices setting.options tablePrefix entity) fun _ => True := by
            rw [Member.prefixedEntities, List.flatMap_map]
            refine shows_bind_silent (notices_emptyGroup setting) fun group hgroup => ?_
            refine shows_bind_last (shows_within _ (Event.notice?_within _)
              (notices_entities setting _ hgroup diagram.entities)) fun group _ => ?_
            exact silent_finish setting _ group
          refine shows_bind hdiagram fun count _ => ?_
          exact @ih { progress with inDiagrams := progress.inDiagrams + count } hopen
      | entity entity =>
          rw [Member.prefixedEntities, List.flatMap_singleton]
          refine shows_bind (notices_entity setting "" hopen entity) fun loose hloose => ?_
          exact @ih { progress with loose := loose } hloose

theorem notices_tables (model : DataModel) :
    Shows Event.notice? (setting.tables model)
      ((model.members.flatMap Member.prefixedEntities).flatMap fun (tablePrefix, entity) =>
        entityNotices setting.options tablePrefix entity)
      fun _ => True := by
  refine shows_bind_silent (notices_emptyGroup setting) fun group hgroup => ?_
  have hstart : (⟨group, 0⟩ : TableSetting.Progress).loose.IsOpen := hgroup
  refine shows_bind_last (notices_members setting hstart model.members) fun progress _ => ?_
  exact shows_bind_silent (silent_finish setting _ _) fun _ _ => shows_pure trivial

end Tables

section Schemas

variable (options : Options)

theorem notices_dataModel (index : Index) (model : DataModel) :
    Shows Event.notice? (dataModel options index model) (modelNotices options model)
      fun _ => True := by
  rw [modelNotices, List.append_assoc]
  refine shows_bind (notices_routines options .function model _) fun functions _ => ?_
  refine shows_bind (notices_routines options .procedure model _) fun procedures _ => ?_
  unfold DataModel.askedEntities
  cases hschema : Naming.schemaName model.toElement with
  | error fault =>
      have hmodel : Naming.schemaName? (some model.toElement) = .error fault := hschema
      have hseverity : fault.diagnostic.severity = .warning :=
        Naming.severity_of_schemaName?_eq_error hmodel
      have hwarning : [Event.report fault.diagnostic].filterMap Event.notice? = [] :=
        List.filterMap_cons_none (Event.notice?_report_of_warning hseverity)
      exact shows_bind_silent (shows_emit_silent hwarning) fun _ _ => shows_pure trivial
  | ok schema =>
      exact shows_bind_last (notices_tables ⟨options, index, schema, _⟩ model) fun _ _ =>
        shows_pure trivial

theorem notices_dataModels (index : Index) (run : SchemaRun) (models : List DataModel) :
    Shows Event.notice? (dataModels options index run models)
      (models.flatMap (modelNotices options)) fun _ => True := by
  induction models generalizing run with
  | nil => exact shows_pure trivial
  | cons model models ih =>
      rw [dataModels_cons, List.flatMap_cons]
      refine shows_bind (shows_within _ (Event.notice?_within _)
        (notices_dataModel options index model)) fun generated _ => ?_
      have hgathered : Shows Event.notice? (run.scripts.gather options model generated.schema) []
          fun _ => True := by
        cases generated.schema with
        | none => exact shows_pure trivial
        | some schema => exact silent_ofExcept _
      exact shows_bind_silent hgathered fun scripts _ => ih _

theorem notices_schemas (project : Project) :
    Shows Event.notice? (schemas options project)
      (project.dataModels.flatMap (modelNotices options)) fun _ => True := by
  refine shows_bind_silent (silent_ofExcept _) fun pair _ => ?_
  refine shows_bind_last (notices_dataModels options _ _ project.dataModels) fun run _ => ?_
  have hfinish : Shows Event.notice? (run.scripts.finish options) [] fun _ => True := by
    unfold SchemaScripts.finish
    split
    · exact shows_bind_silent (silent_write _ _ _) fun _ _ => shows_pure trivial
    · exact shows_pure trivial
  exact shows_bind_silent hfinish fun _ _ => shows_pure trivial

theorem notices_projectPlan (location : String) (project : Project) :
    Shows Event.notice? (projectPlan options location project)
      (projectNotices options location project) fun _ => True := by
  rw [projectPlan_eq, projectNotices, List.append_assoc]
  refine shows_bind_silent (notices_database options project) ?_
  rintro valid rfl
  have hconcluded : Shows Event.notice?
      (databaseConclusion (Naming.databaseName project.toElement).isValid)
      (if (Naming.databaseName project.toElement).isValid then
        [⟨.info, "Database creation files completed.", none⟩] else []) fun _ => True := by
    cases (Naming.databaseName project.toElement).isValid <;> exact shows_emit _
  refine shows_bind hconcluded fun _ _ => ?_
  refine shows_bind (notices_schemas options project) fun steps _ => ?_
  exact shows_bind_silent (shows_emit_map fun _ _ => rfl) fun _ _ => shows_emit _

end Schemas

section Selections

theorem severity_of_mem_entityFaults {options : Options} {tablePrefix : String} {entity : Entity}
    {d : Diagnostic} (h : d ∈ Table.entityFaults options tablePrefix entity) :
    d.severity = .error := by
  unfold Table.entityFaults at h
  cases hname : Naming.prefixedTableName tablePrefix entity.toElement with
  | error fault =>
      rw [hname] at h
      rw [List.mem_singleton.1 h]
      exact Naming.severity_of_prefixedTableName_eq_error hname
  | ok tableName =>
      rw [hname] at h
      rcases List.mem_append.1 h with h | h
      · obtain ⟨column, -, hcolumn⟩ := List.mem_filterMap.1 h
        exact Column.severity_of_fault? hcolumn
      · obtain ⟨tag, -, htag⟩ := List.mem_filterMap.1 h
        exact Tag.severity_of_routineFault? htag

theorem errors_entityNotices (options : Options) (tablePrefix : String) (entity : Entity) :
    (entityNotices options tablePrefix entity).filter (·.severity = .error) =
      Table.entityFaults options tablePrefix entity := by
  have hfaults : (Table.entityFaults options tablePrefix entity).filter (·.severity = .error) =
      Table.entityFaults options tablePrefix entity :=
    List.filter_eq_self.2 fun d hd => decide_eq_true (severity_of_mem_entityFaults hd)
  rw [entityNotices, List.filter_cons_of_neg (by simp [announcement]), hfaults]

theorem announcements_entityNotices (options : Options) (tablePrefix : String)
    (entity : Entity) :
    (entityNotices options tablePrefix entity).filter isAnnouncement = [announcement entity] := by
  have hannounced : isAnnouncement (announcement entity) = true := by
    simp [isAnnouncement, announcement, String.toList_append]
  have hfaults : (Table.entityFaults options tablePrefix entity).filter isAnnouncement = [] := by
    refine List.filter_eq_nil_iff.2 fun d hd => ?_
    simp [isAnnouncement, severity_of_mem_entityFaults hd]
  rw [entityNotices, List.filter_cons_of_pos hannounced, hfaults]

theorem errors_routineDiagnostics (kind : Sql.RoutineKind) (tags : List Tag) :
    (tags.map (routineDiagnostic kind)).filter (·.severity = .error) =
      tags.filterMap Tag.routineFault? := by
  rw [← List.filterMap_eq_filter, List.filterMap_map]
  refine List.filterMap_congr fun tag _ => ?_
  unfold routineDiagnostic Tag.routineFault?
  cases hname : Naming.routineName tag with
  | error fault =>
      simp [hname, Naming.severity_of_routineName_eq_error hname]
  | ok name => simp [hname]

theorem announcements_routineDiagnostics (kind : Sql.RoutineKind) (tags : List Tag) :
    (tags.map (routineDiagnostic kind)).filter isAnnouncement = [] := by
  refine List.filter_eq_nil_iff.2 fun d hd => ?_
  obtain ⟨tag, -, rfl⟩ := List.mem_map.1 hd
  unfold routineDiagnostic
  cases hname : Naming.routineName tag with
  | error fault => simp [isAnnouncement, Naming.severity_of_routineName_eq_error hname]
  | ok name => cases kind <;> simp [isAnnouncement, String.toList_append, Sql.RoutineKind.word]

theorem errors_projectNotices (options : Options) (location : String) (project : Project) :
    (projectNotices options location project).filter (·.severity = .error) =
      project.dataModels.flatMap (modelFaults options) := by
  have hmodel : ∀ model, (modelNotices options model).filter (·.severity = .error) =
      modelFaults options model := by
    intro model
    simp only [modelNotices, modelFaults, List.filter_append, List.filter_flatMap,
      errors_routineDiagnostics, errors_entityNotices]
  have hdatabase : (if (Naming.databaseName project.toElement).isValid then
      [(⟨.info, "Database creation files completed.", none⟩ : Diagnostic)] else []).filter
        (·.severity = .error) = [] := by
    split <;> rfl
  simp only [projectNotices, List.filter_append, List.filter_flatMap, hmodel, hdatabase,
    List.nil_append]
  exact List.append_nil _

theorem announcements_projectNotices (options : Options) (location : String)
    (project : Project) :
    (projectNotices options location project).filter isAnnouncement =
      (project.dataModels.flatMap DataModel.askedEntities).map fun (_, entity) =>
        announcement entity := by
  have hmodel : ∀ model, (modelNotices options model).filter isAnnouncement =
      model.askedEntities.map fun (_, entity) => announcement entity := by
    intro model
    simp only [modelNotices, List.filter_append, List.filter_flatMap,
      announcements_routineDiagnostics, announcements_entityNotices, List.nil_append]
    exact List.flatMap_pure_eq_map _ _
  have hdatabase : (if (Naming.databaseName project.toElement).isValid then
      [(⟨.info, "Database creation files completed.", none⟩ : Diagnostic)] else []).filter
        isAnnouncement = [] := by
    split <;> rfl
  have hlast : [(⟨.info, "Project DDL files generated in " ++ location, none⟩ :
      Diagnostic)].filter isAnnouncement = [] := by
    simp [isAnnouncement, String.toList_append]
  simp only [projectNotices, List.filter_append, List.filter_flatMap, hmodel, hdatabase, hlast,
    List.nil_append, List.append_nil, List.map_flatMap]

end Selections

namespace Generator

variable {σ : Type} [Storage.Sink σ] (generator : Generator σ) (moment : Log.Moment)
  (project : Project)

/-- What a run that succeeds tells apart from warnings. -/
theorem notices_of_success
    (h : (generator.generateProject moment project).result.success = true) :
    (Event.diagnostics (generator.generateProject moment project).events).filter
        (·.severity ≠ .warning) =
      projectNotices generator.options (Storage.Sink.location generator.sink) project := by
  rw [← Event.filterMap_notice?, filterMap_events_of_success generator moment project
    (fun _ _ => rfl) (fun _ _ => rfl) h]
  exact (notices_projectPlan _ _ _).eq_of_ok (outcome_of_success generator moment project h)

/-- A run that succeeds tells each name that cannot be used once, where the thing with the name is
generated, and announces once each entity that a table is asked for. -/
theorem generate_errors_and_announcements
    (h : (generator.generate moment (some (.project project))).result.success = true) :
    (Event.diagnostics (generator.generate moment (some (.project project))).events).filter
        (·.severity = .error) =
      project.dataModels.flatMap (modelFaults generator.options) ∧
    (Event.diagnostics (generator.generate moment (some (.project project))).events).filter
        isAnnouncement =
      (project.dataModels.flatMap DataModel.askedEntities).map fun (_, entity) =>
        announcement entity := by
  change (Event.diagnostics (generator.generateProject moment project).events).filter _ = _ ∧
    (Event.diagnostics (generator.generateProject moment project).events).filter _ = _
  have hnotices := notices_of_success generator moment project h
  constructor
  · rw [← errors_projectNotices, ← hnotices, List.filter_filter]
    refine List.filter_congr fun d _ => ?_
    cases d.severity <;> rfl
  · rw [← announcements_projectNotices, ← hnotices, List.filter_filter]
    refine List.filter_congr fun d _ => ?_
    unfold isAnnouncement
    cases d.severity <;> simp

/-- A project with a function, a column, a trigger and a table whose names cannot be used, and a
foreign key to the column. -/
def fourFaultsProject : Project :=
  let marker : Tag := .ofString "trigger" ""
  let timing : Tag :=
    { name := "timing", kind := .reference, value := "AFTER INSERT", reference := some marker }
  { name := "Shop", dataModels := [{
      name := "Sales"
      tags := [{ name := "1st", kind := .reference, reference := some (.ofString "function" "") }]
      members := [
        .entity {
          name := "Purchase"
          tags := [{ name := "2nd", kind := .reference, reference := some timing }]
          columns := [{ id := .named "c", name := "3rd" }] },
        .diagram {
          name := "Stock"
          entities := [
            { name := "Item", columns := [{ name := "purchase", referenceTo := some "c" }] },
            { name := "4th" }] }] }] }

/-- Each of the four names is told once, and the foreign key tells none of them. -/
theorem generate_errors_and_announcements_misnamed :
    Diagnostic.errors (Event.diagnostics
        (memoryGenerator.generate newYear (some (.project fourFaultsProject))).events) =
      ["Routine name is not valid: 1st, please edit the name for 1st",
        "Column name is not valid: 3rd, please edit the column tag for 3rd",
        "Routine name is not valid: 2nd, please edit the name for 2nd",
        "Table name is not valid: 4th, please edit the table tag for 4th"] ∧
      ((Event.diagnostics (memoryGenerator.generate newYear
          (some (.project fourFaultsProject))).events).filter isAnnouncement).map (·.element) =
        [some "Purchase", some "Item", some "4th"] := by
  obtain ⟨herrors, hannouncements⟩ := generate_errors_and_announcements memoryGenerator newYear
    fourFaultsProject (by decide +kernel)
  unfold Diagnostic.errors Diagnostic.messages
  rw [herrors, hannouncements]
  exact ⟨by decide +kernel, by decide +kernel⟩

end Generator

end Generation
end ErdSql
