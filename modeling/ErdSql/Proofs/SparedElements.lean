import ErdSql.Proofs.Referents
import ErdSql.Proofs.ReliableRuns

/-!
# Generating without elements that become nothing

An entity whose table has no name, and a column without a name, only lead to reports: what the
other elements change does not depend on them, be they referred to or not.  So a project has the
same output without them.
-/

namespace ErdSql
namespace Table

/-- Whether something is changed, and not only told. -/
def Edit.isChange : Edit → Bool
  | .event _ => false
  | _ => true

/-- What is told meanwhile does not count for what becomes of a group. -/
theorem Group.run_filter_isChange (group : Group) (edits : List Edit) :
    (group.run (edits.filter Edit.isChange)).group = (group.run edits).group ∧
      (group.run (edits.filter Edit.isChange)).fault = (group.run edits).fault := by
  have hstep : ∀ (group : Group) (edit : Edit) (edits edits' : List Edit),
      (∀ group : Group, (group.run edits).group = (group.run edits').group ∧
        (group.run edits).fault = (group.run edits').fault) →
        (group.run (edit :: edits)).group = (group.run (edit :: edits')).group ∧
          (group.run (edit :: edits)).fault = (group.run (edit :: edits')).fault := by
    intro group edit edits edits' h
    unfold run
    cases group.apply edit with
    | error fault => exact ⟨rfl, rfl⟩
    | ok next => exact h next
  induction edits generalizing group with
  | nil => exact ⟨rfl, rfl⟩
  | cons edit edits ih =>
      cases edit with
      | event event => exact ih group
      | create depth line => exact hstep group _ _ _ ih
      | drop line => exact hstep group _ _ _ ih
      | defer key => exact hstep group _ _ _ ih
      | complete table => exact hstep group _ _ _ ih

/-- References change nothing but the foreign keys that they put off. -/
theorem filter_isChange_of_isOfReference {edits : List Edit}
    (h : edits.all Edit.isOfReference = true) :
    edits.filter Edit.isChange = (edits.filterMap Edit.key?).map .defer := by
  induction edits with
  | nil => rfl
  | cons edit edits ih =>
      rw [List.all_cons, Bool.and_eq_true] at h
      obtain ⟨hedit, hedits⟩ := h
      rcases Edit.eq_of_isOfReference hedit with ⟨event, rfl, -⟩ | ⟨key, rfl⟩
      · exact ih hedits
      · exact congrArg (Edit.defer (.foreignKey key) :: ·) (ih hedits)

theorem filter_isChange_reports (ds : List Diagnostic) :
    (ds.map reportEdit).filter Edit.isChange = [] := by
  refine List.filter_eq_nil_iff.2 fun edit hedit => ?_
  obtain ⟨d, -, rfl⟩ := List.mem_map.1 hedit
  exact Bool.false_ne_true

section Entity

variable {gone : ElementId → Bool} {options : Options} {tablePrefix : String} {entity : Entity}

/-- A column that is gone has no name. -/
theorem toOption_columnName_of_gone (hspare : entity.CanSpare gone options tablePrefix)
    (hkept : gone entity.id = false) {column : Column} (hcolumn : column ∈ entity.columns)
    (hgone : gone column.id = true) : (Naming.columnName column.toElement).toOption = none := by
  have hnone := (hspare.columns hkept column hcolumn hgone).1
  cases hname : Naming.columnName column.toElement with
  | error fault => rfl
  | ok name =>
      rw [hname] at hnone
      cases hnone

theorem enumerations_without (hspare : entity.CanSpare gone options tablePrefix)
    (hkept : gone entity.id = false) (table : String) :
    enumerations ((entity.without gone).columns.map (resolveColumn table)) =
      enumerations (entity.columns.map (resolveColumn table)) := by
  unfold enumerations
  rw [List.filterMap_map, List.filterMap_map]
  refine Entity.filterMap_columns_without fun column hcolumn hgone => ?_
  have hname := toOption_columnName_of_gone hspare hkept hcolumn hgone
  simp only [Function.comp, resolveColumn, hname, Option.map_none, ite_self]

theorem tableColumns_without (hspare : entity.CanSpare gone options tablePrefix)
    (hkept : gone entity.id = false) (table : String) :
    tableColumns table (entity.without gone) = tableColumns table entity := by
  rw [tableColumns_eq, tableColumns_eq]
  refine Entity.filterMap_columns_without fun column hcolumn hgone => ?_
  rw [toOption_columnName_of_gone hspare hkept hcolumn hgone, Option.map_none]

theorem changes_openingEdits_without (hspare : entity.CanSpare gone options tablePrefix)
    (hkept : gone entity.id = false) (table : String) :
    (openingEdits table (entity.without gone)).filter Edit.isChange =
      (openingEdits table entity).filter Edit.isChange := by
  simp only [openingEdits, List.filter_append, filter_isChange_reports, enumEdits, dropEdits,
    enumerations_without hspare hkept]
  rfl

/-- The rows to insert count the columns without a name, but none of these is gone where there
are such rows. -/
theorem closingEdits_without (hspare : entity.CanSpare gone options tablePrefix)
    (hkept : gone entity.id = false) (table tableName : String) :
    closingEdits options table tableName (entity.without gone) =
      closingEdits options table tableName entity := by
  by_cases hseed : documentationMode options entity = .seedInserts
  · have hall : ∀ column ∈ entity.columns, (!gone column.id) = true := by
      intro column hcolumn
      by_contra hgone
      exact (hspare.columns hkept column hcolumn (by simpa using hgone)).2 hseed
    have hsame : entity.without gone = entity := by
      unfold Entity.without
      rw [List.filter_eq_self.2 hall]
    rw [hsame]
  · have hnamed := tableColumns_without hspare hkept table
    unfold tableColumns at hnamed
    have hmode : documentationMode options (entity.without gone) =
        documentationMode options entity := rfl
    simp only [closingEdits, hnamed, hmode, if_neg hseed]
    rfl

variable {index index' : Index}

theorem changes_referenceEdits_without (hspare : entity.CanSpare gone options tablePrefix)
    (hkept : gone entity.id = false)
    (hkeys : ∀ table tableName column,
      foreignKey? index' table tableName column = foreignKey? index table tableName column)
    (table tableName : String) :
    (referenceEdits options index' table tableName
        (tableColumns table (entity.without gone))).filter Edit.isChange =
      (referenceEdits options index table tableName
        (tableColumns table entity)).filter Edit.isChange := by
  rw [filter_isChange_of_isOfReference (referenceEdits_isOfReference ..),
    filter_isChange_of_isOfReference (referenceEdits_isOfReference ..)]
  cases hon : options.foreignKeys with
  | false => rw [referenceEdits_of_off hon, referenceEdits_of_off hon]
  | true =>
      rw [referenceEdits_keys hon, referenceEdits_keys hon, funext (hkeys table tableName)]
      have hnone : ∀ column ∈ entity.columns, gone column.id = true →
          foreignKey? index table tableName column = none := by
        intro column hcolumn hgone
        rw [foreignKey?, toOption_columnName_of_gone hspare hkept hcolumn hgone]
        rfl
      rw [Entity.filterMap_columns_without hnone]

/-- Without columns that become nothing, an entity changes the same. -/
theorem changes_entityEdits_without (hspare : entity.CanSpare gone options tablePrefix)
    (hkept : gone entity.id = false)
    (hkeys : ∀ table tableName column,
      foreignKey? index' table tableName column = foreignKey? index table tableName column)
    (schema : String) :
    (entityEdits options index' schema tablePrefix (entity.without gone)).filter Edit.isChange =
      (entityEdits options index schema tablePrefix entity).filter Edit.isChange := by
  have helement : (entity.without gone).toElement = entity.toElement := rfl
  cases hname : Naming.prefixedTableName tablePrefix entity.toElement with
  | error fault =>
      rw [entityEdits_of_error _ _ _ _ _ hname,
        entityEdits_of_error _ _ _ _ _ (helement ▸ hname)]
  | ok tableName =>
      rw [entityEdits_of_ok _ _ _ _ _ hname, entityEdits_of_ok _ _ _ _ _ (helement ▸ hname)]
      simp only [List.filter_append, changes_openingEdits_without hspare hkept,
        changes_referenceEdits_without hspare hkept hkeys, closingEdits_without hspare hkept]

end Entity

end Table

namespace Generation

open Plan

theorem agree_ofEdits {group : Table.Group} {edits edits' : List Table.Edit}
    (hchanges : edits.filter Table.Edit.isChange = edits'.filter Table.Edit.isChange)
    (htalk : ∀ edit ∈ edits, ∀ event, edit.event? = some event → event.isTalk = true)
    (htalk' : ∀ edit ∈ edits', ∀ event, edit.event? = some event → event.isTalk = true) :
    Agree Event.output? (ofEdits group edits) (ofEdits group edits') := by
  have hsilent : ∀ edits : List Table.Edit,
      (∀ edit ∈ edits, ∀ event, edit.event? = some event → event.isTalk = true) →
        (group.run edits).events.filterMap Event.output? = [] := by
    intro edits htalk
    refine List.filterMap_eq_nil_iff.2 fun event hevent => Event.output?_of_isTalk ?_
    obtain ⟨edit, hedit, hevent⟩ := Table.Group.exists_edit_of_mem_events_run hevent
    exact htalk edit hedit event hevent
  obtain ⟨hgroup, hfault⟩ := group.run_filter_isChange edits
  obtain ⟨hgroup', hfault'⟩ := group.run_filter_isChange edits'
  rw [hchanges] at hgroup hfault
  refine ⟨(hsilent edits htalk).trans (hsilent edits' htalk').symm, ?_⟩
  simp only [ofEdits, ← hgroup, ← hfault, hgroup', hfault']

section Tables

variable {gone : ElementId → Bool} {options : Options} {index index' : Index}
  (hkeys : ∀ table tableName column,
    Table.foreignKey? index' table tableName column = Table.foreignKey? index table tableName column)
  (schema modelName : String)

/-- An entity that becomes no table adds nothing to its group. -/
theorem agree_entity_of_not_isGenerated {tablePrefix : String} {entity : Entity}
    (h : Table.isGenerated tablePrefix entity = false) (setting : TableSetting)
    (group : Table.Group) :
    Agree Event.output? (setting.entity tablePrefix group entity) (.pure group) := by
  obtain ⟨d, hd⟩ := Table.exists_entityEdits_eq_of_not_isGenerated setting.options setting.index
    setting.schema tablePrefix entity h
  unfold TableSetting.entity
  rw [hd]
  exact ⟨rfl, rfl⟩

include hkeys

theorem agree_entity_without {tablePrefix : String} {entity : Entity}
    (hspare : entity.CanSpare gone options tablePrefix) (hkept : gone entity.id = false)
    (group : Table.Group) :
    Agree Event.output?
      (TableSetting.entity ⟨options, index, schema, modelName⟩ tablePrefix group entity)
      (TableSetting.entity ⟨options, index', schema, modelName⟩ tablePrefix group
        (entity.without gone)) := by
  refine agree_bind (agree_emit rfl) fun _ _ =>
    agree_within { entity := some entity.name } (Event.output?_within _) ?_
  refine agree_ofEdits (Table.changes_entityEdits_without hspare hkept hkeys schema).symm ?_ ?_
  · intro edit hedit event hevent
    exact Table.isTalk_of_mem_entityEdits _ _ _ _ _ hedit hevent
  · intro edit hedit event hevent
    exact Table.isTalk_of_mem_entityEdits _ _ _ _ _ hedit hevent

theorem agree_entities_left {tablePrefix : String} {entities : List Entity}
    (hspare : ∀ entity ∈ entities, entity.CanSpare gone options tablePrefix)
    (group : Table.Group) :
    Agree Event.output?
      (TableSetting.entities ⟨options, index, schema, modelName⟩ tablePrefix group entities)
      (TableSetting.entities ⟨options, index', schema, modelName⟩ tablePrefix group
        (Entity.left gone entities)) := by
  induction entities generalizing group with
  | nil => exact .refl _
  | cons entity entities ih =>
      obtain ⟨hentity, hentities⟩ := List.forall_mem_cons.1 hspare
      cases hgone : gone entity.id with
      | true =>
          rw [Entity.left_cons_of_gone hgone]
          exact agree_bind_left
            (agree_entity_of_not_isGenerated (hentity.table hgone) _ group) (ih hentities group)
      | false =>
          rw [Entity.left_cons_of_kept hgone]
          exact agree_bind (agree_entity_without hkeys schema modelName hentity hgone group)
            fun next _ => ih hentities next

theorem agree_diagram_without {diagram : Diagram}
    (hspare : ∀ entity ∈ diagram.entities,
      entity.CanSpare gone options (diagram.tags.valueOf "prefix")) :
    Agree Event.output?
      (TableSetting.diagram ⟨options, index, schema, modelName⟩ diagram)
      (TableSetting.diagram ⟨options, index', schema, modelName⟩ (diagram.without gone)) := by
  refine agree_bind (.refl _) fun group _ => ?_
  refine agree_bind (agree_within _ (fun _ => rfl) ?_) fun group _ => .refl _
  exact agree_entities_left hkeys schema modelName hspare group

theorem agree_members_without {members : List Member}
    (hdiagrams : ∀ diagram, .diagram diagram ∈ members → ∀ entity ∈ diagram.entities,
      entity.CanSpare gone options (diagram.tags.valueOf "prefix"))
    (hentities : ∀ entity, .entity entity ∈ members → entity.CanSpare gone options "")
    (progress : TableSetting.Progress) :
    Agree Event.output?
      (TableSetting.members ⟨options, index, schema, modelName⟩ progress members)
      (TableSetting.members ⟨options, index', schema, modelName⟩ progress
        (members.filterMap (Member.without? gone))) := by
  induction members generalizing progress with
  | nil => exact .refl _
  | cons member members ih =>
      have hrest := ih (fun diagram h => hdiagrams diagram (List.mem_cons_of_mem _ h))
        fun entity h => hentities entity (List.mem_cons_of_mem _ h)
      cases member with
      | diagram diagram =>
          have hdiagram := hdiagrams diagram (List.mem_cons_self ..)
          rw [List.filterMap_cons_some (Member.without?_diagram gone diagram)]
          exact agree_bind (agree_diagram_without hkeys schema modelName hdiagram)
            fun count _ => hrest _
      | entity entity =>
          have hentity := hentities entity (List.mem_cons_self ..)
          cases hgone : gone entity.id with
          | true =>
              rw [List.filterMap_cons_none (Member.without?_of_gone hgone)]
              exact agree_bind_left
                (agree_entity_of_not_isGenerated (hentity.table hgone) _ progress.loose)
                (hrest progress)
          | false =>
              rw [List.filterMap_cons_some (Member.without?_of_kept hgone)]
              exact agree_bind
                (agree_entity_without hkeys schema modelName hentity hgone progress.loose)
                fun loose _ => hrest _

theorem agree_tables_without {dataModel : DataModel}
    (hspare : ∀ file ∈ tableFiles dataModel, ∀ entity ∈ file.entities,
      entity.CanSpare gone options file.tablePrefix) :
    Agree Event.output?
      (TableSetting.tables ⟨options, index, schema, modelName⟩ dataModel)
      (TableSetting.tables ⟨options, index', schema, modelName⟩ (dataModel.without gone)) := by
  refine agree_bind (.refl _) fun group _ => ?_
  refine agree_bind (agree_members_without hkeys schema modelName ?_ ?_ _) fun progress _ =>
    .refl _
  · intro diagram hdiagram
    exact hspare _ (TableFile.mem_tableFiles_ofDiagram hdiagram)
  · intro entity hentity
    exact hspare _ (TableFile.mem_tableFiles_loose dataModel) entity
      (Index.mem_looseEntities.2 hentity)

theorem agree_dataModel_without {model : DataModel}
    (hspare : ∀ file ∈ tableFiles model, ∀ entity ∈ file.entities,
      entity.CanSpare gone options file.tablePrefix) :
    Agree Event.output? (dataModel options index model)
      (dataModel options index' (model.without gone)) := by
  refine agree_bind (.refl _) fun functions _ => agree_bind (.refl _) fun procedures _ => ?_
  have hname : Naming.schemaName (model.without gone).toElement =
      Naming.schemaName model.toElement := rfl
  rw [hname]
  cases Naming.schemaName model.toElement with
  | error fault => exact .refl _
  | ok schema =>
      exact agree_bind (agree_tables_without hkeys schema (Naming.normalize model.name) hspare)
        fun tables _ => .refl _

theorem agree_dataModels_without {models : List DataModel}
    (hspare : ∀ model ∈ models, ∀ file ∈ tableFiles model, ∀ entity ∈ file.entities,
      entity.CanSpare gone options file.tablePrefix) (run : SchemaRun) :
    Agree Event.output? (dataModels options index run models)
      (dataModels options index' run (models.map (DataModel.without gone))) := by
  induction models generalizing run with
  | nil => exact .refl _
  | cons model models ih =>
      obtain ⟨hmodel, hmodels⟩ := List.forall_mem_cons.1 hspare
      rw [List.map_cons, dataModels_cons, dataModels_cons]
      refine agree_bind (agree_within _ (fun _ => rfl) ?_) fun generated _ => ?_
      · exact agree_dataModel_without hkeys hmodel
      · exact agree_bind (.refl _) fun scripts _ => ih hmodels _

end Tables

section Project

variable {gone : ElementId → Bool} {options : Options} {project : Project}

/-- Without elements that become nothing, a project has the same output. -/
theorem sameOutput_projectPlan_without (hids : project.HasDistinctIds)
    (hspare : project.CanSpare gone options) (location : String) :
    SameOutput (projectPlan options location project)
      (projectPlan options location (project.without gone)) := by
  have hmodels := agree_dataModels_without (Table.foreignKey?_without hids hspare) hspare
  have hschemas : SameOutput (schemas options project)
      (schemas options (project.without gone)) :=
    agree_bind (.refl _) fun pair _ => agree_bind (hmodels _) fun run _ => .refl _
  rw [projectPlan_eq, projectPlan_eq]
  exact agree_bind (.refl _) fun valid _ => agree_bind (.refl _) fun _ _ =>
    agree_bind hschemas fun steps _ => .refl _

namespace Generator

open Storage

/-- On a sink that never fails, a project is written in the same way, and with the same result,
without any entities whose tables have no name and any columns that have none. -/
theorem generate_without {σ : Type} [Sink σ] (generator : Generator σ)
    (hsink : NeverFails generator.sink) (moment moment' : Log.Moment) (project : Project)
    (hids : project.HasDistinctIds) (gone : ElementId → Bool)
    (hspare : project.CanSpare gone generator.options) :
    (generator.generate moment (some (.project project))).Matches
      (generator.generate moment' (some (.project (project.without gone)))) :=
  matches_of_sameOutput hsink hsink (sameOutput_projectPlan_without hids hspare _) moment moment'

/-- A project with a table and a column whose names cannot be used, both referred to. -/
def misnamedProject : Project :=
  { id := .named "shop"
    name := "Shop"
    dataModels := [{
      id := .named "sales"
      name := "Sales"
      members := [
        .entity {
          id := .named "customers"
          name := "2nd hand"
          columns := [{ id := .named "number", name := "number", type := "INTEGER" }] },
        .entity {
          id := .named "purchases"
          name := "Purchase"
          columns := [
            { id := .named "customer", name := "customer", referenceTo := some "number" },
            { id := .named "date", name := "1st date" },
            { id := .named "due", name := "due", referenceTo := some "date" }] }] }] }

/-- The elements with names that cannot be used. -/
def misnamed (id : ElementId) : Bool :=
  id = .named "customers" || id = .named "date"

/-- Without the misnamed elements, one entity with two columns is left, and is written as
before. -/
theorem generate_without_misnamed :
    (misnamedProject.without misnamed).dataModels.map (·.looseEntities.map (·.columns.length)) =
        [[2]] ∧
      (memoryGenerator.generate newYear (some (.project misnamedProject))).Matches
        (memoryGenerator.generate newYear
          (some (.project (misnamedProject.without misnamed)))) := by
  have hids : misnamedProject.HasDistinctIds := by
    unfold Project.HasDistinctIds
    decide
  have hspare : misnamedProject.CanSpare misnamed memoryGenerator.options := by decide +kernel
  exact ⟨by decide, generate_without memoryGenerator (neverFails_memory _) newYear newYear
    misnamedProject hids misnamed hspare⟩

end Generator

end Project

end Generation
end ErdSql
