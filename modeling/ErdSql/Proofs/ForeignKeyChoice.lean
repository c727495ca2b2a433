import ErdSql.Proofs.Alignment
import ErdSql.Proofs.Runs

/-!
# The choice to write foreign keys

What the choice to write foreign keys changes: the script that creates a group of tables ends in
the foreign keys that its columns call for, and warnings may be reported.  Nothing else does;
the plans with and without foreign keys go side by side through the whole project.
-/

namespace ErdSql

namespace Table

section

variable (options : Options) (index : Index) (schema tablePrefix : String) (entity : Entity)

theorem closingEdits_withForeignKeys (write : Bool) (table tableName : String) :
    closingEdits (options.withForeignKeys write) table tableName entity =
      closingEdits options table tableName entity :=
  rfl

/-- With foreign keys, the changes of an entity that can be made report the same, and more
warnings. -/
theorem aligned_entityEdits :
    Aligned
      (((entityEdits (options.withForeignKeys false) index schema tablePrefix
        entity).takeWhile Edit.isWritable).filterMap Edit.event?)
      (((entityEdits (options.withForeignKeys true) index schema tablePrefix
        entity).takeWhile Edit.isWritable).filterMap Edit.event?) := by
  cases hname : Naming.prefixedTableName tablePrefix entity.toElement with
  | error fault =>
      rw [entityEdits_of_error _ _ _ _ _ hname, entityEdits_of_error _ _ _ _ _ hname]
      exact Aligned.refl _
  | ok tableName =>
      rw [entityEdits_of_ok _ _ _ _ _ hname, entityEdits_of_ok _ _ _ _ _ hname,
        referenceEdits_of_off rfl, List.nil_append, closingEdits_withForeignKeys,
        closingEdits_withForeignKeys]
      have hreferences := List.all_eq_true.1 (referenceEdits_isOfReference
        (options.withForeignKeys true) index (schema ++ "." ++ tableName) tableName
        (tableColumns (schema ++ "." ++ tableName) entity))
      have hwritable := fun edit hedit =>
        Edit.isWritable_of_isOfReference (hreferences edit hedit)
      -- a fault before the references ends both lists at the same change
      rw [List.takeWhile_append, List.takeWhile_append, List.takeWhile_append_of_pos hwritable]
      split
      · rw [List.filterMap_append, List.filterMap_append, List.filterMap_append]
        refine (Aligned.refl _).append (Aligned.append_left ?_ (Aligned.refl _))
        intro event hevent
        obtain ⟨edit, hedit, hevent⟩ := List.mem_filterMap.1 hevent
        obtain rfl := Edit.eq_of_event?_eq_some hevent
        exact hreferences _ hedit
      · exact Aligned.refl _

end

end Table

namespace Generation

open Plan

section Tables

variable (setting : TableSetting)

/-- The same setting with the choice to write foreign keys made. -/
def TableSetting.withForeignKeys (setting : TableSetting) (write : Bool) : TableSetting :=
  { setting with options := setting.options.withForeignKeys write }

/-- Groups that the same entities have changed, without and with foreign keys. -/
def SameEntities (tablePrefix : String) (left right : Table.Group) : Prop :=
  ∃ (unit : String) (entities : List Entity),
    left = (Table.Group.empty unit).extended
        (entities.flatMap ((setting.withForeignKeys false).edits tablePrefix)) ∧
      right = (Table.Group.empty unit).extended
        (entities.flatMap ((setting.withForeignKeys true).edits tablePrefix))

/-- Changes to two open groups are similar if they report similar things and can be made in both
groups or in neither. -/
theorem similar_ofEdits {left right : Table.Group} (hleft : left.IsOpen) (hright : right.IsOpen)
    {edits edits' : List Table.Edit} {Rel : Table.Group → Table.Group → Prop}
    (hevents : Aligned ((edits.takeWhile Table.Edit.isWritable).filterMap Table.Edit.event?)
      ((edits'.takeWhile Table.Edit.isWritable).filterMap Table.Edit.event?))
    (hall : edits.all Table.Edit.isWritable = edits'.all Table.Edit.isWritable)
    (hrel : Rel (left.extended edits) (right.extended edits')) :
    Similar (.ofEdits left edits) (.ofEdits right edits') Rel := by
  unfold Plan.ofEdits
  rw [Table.Group.run_eq hleft, Table.Group.run_eq hright]
  refine ⟨hevents, ?_⟩
  by_cases hwritable : edits'.all Table.Edit.isWritable = true
  · have hwritable' := hall.trans hwritable
    simp only [if_pos hwritable, if_pos hwritable', Table.Edit.takeWhile_isWritable hwritable,
      Table.Edit.takeWhile_isWritable hwritable']
    exact Or.inr ⟨_, _, rfl, rfl, hrel⟩
  · have hwritable' : ¬ edits.all Table.Edit.isWritable = true := hall ▸ hwritable
    simp only [if_neg hwritable, if_neg hwritable']
    exact Or.inl ⟨_, rfl, rfl⟩

theorem similar_entity {tablePrefix : String} {left right : Table.Group}
    (h : SameEntities setting tablePrefix left right) (entity : Entity) :
    Similar ((setting.withForeignKeys false).entity tablePrefix left entity)
      ((setting.withForeignKeys true).entity tablePrefix right entity)
      (SameEntities setting tablePrefix) := by
  obtain ⟨unit, entities, hleft, hright⟩ := h
  have hopenLeft : left.IsOpen := hleft ▸ (Table.Group.isOpen_empty unit).extended _
  have hopenRight : right.IsOpen := hright ▸ (Table.Group.isOpen_empty unit).extended _
  have hevents := Table.aligned_entityEdits setting.options setting.index setting.schema
    tablePrefix entity
  have hall := Table.all_isWritable_entityEdits_withForeignKeys setting.options setting.index
    setting.schema tablePrefix entity
  refine similar_bind_eq (similar_refl (.emit _)) fun _ => similar_within _ ?_
  refine similar_ofEdits hopenLeft hopenRight hevents ((hall false).trans (hall true).symm)
    ⟨unit, entities ++ [entity], ?_, ?_⟩
  · rw [hleft, List.flatMap_append, Table.Group.extended_append, List.flatMap_singleton]
  · rw [hright, List.flatMap_append, Table.Group.extended_append, List.flatMap_singleton]

theorem similar_entities {tablePrefix : String} {left right : Table.Group}
    (h : SameEntities setting tablePrefix left right) (entities : List Entity) :
    Similar ((setting.withForeignKeys false).entities tablePrefix left entities)
      ((setting.withForeignKeys true).entities tablePrefix right entities)
      (SameEntities setting tablePrefix) := by
  induction entities generalizing left right with
  | nil => exact similar_pure h
  | cons entity entities ih =>
      exact similar_bind (similar_entity setting h entity) fun _ _ hnext => ih hnext

theorem similar_emptyGroup (tablePrefix : String) :
    Similar (setting.withForeignKeys false).emptyGroup (setting.withForeignKeys true).emptyGroup
      (SameEntities setting tablePrefix) := by
  change Similar (.ofExcept (setting.options.indentUnit.map Table.Group.empty))
    (.ofExcept (setting.options.indentUnit.map Table.Group.empty)) _
  refine ⟨Aligned.nil, ?_⟩
  cases setting.options.indentUnit with
  | error fault => exact Or.inl ⟨fault, rfl, rfl⟩
  | ok unit =>
      refine Or.inr ⟨.empty unit, .empty unit, rfl, rfl, unit, [], ?_, ?_⟩
      · exact (Table.Group.extended_nil _).symm
      · exact (Table.Group.extended_nil _).symm

theorem similar_writeIfAny {pair pair' : ScriptPair}
    (h : pair.create.hasContent = pair'.create.hasContent) (options : Options) (stem : String) :
    Similar (pair.writeIfAny (options.withForeignKeys false) stem)
      (pair'.writeIfAny (options.withForeignKeys true) stem) Eq := by
  unfold ScriptPair.writeIfAny
  rw [h]
  split
  · refine ⟨?_, Or.inr ⟨(), (), rfl, rfl, rfl⟩⟩
    change Aligned ((pair.files options stem).map fun file => Event.write file.1 file.2)
      ((pair'.files options stem).map fun file => Event.write file.1 file.2)
    unfold ScriptPair.files
    split
    · exact Aligned.script _ _ _ _ (Aligned.script _ _ _ _ Aligned.nil)
    · exact Aligned.script _ _ _ _ Aligned.nil
  · exact similar_pure rfl

theorem SameEntities.tables_eq {tablePrefix : String} {left right : Table.Group}
    (h : SameEntities setting tablePrefix left right) : left.tables = right.tables := by
  obtain ⟨unit, entities, rfl, rfl⟩ := h
  have hentity : ∀ entity,
      ((setting.withForeignKeys false).edits tablePrefix entity).filterMap Table.Edit.table? =
        ((setting.withForeignKeys true).edits tablePrefix entity).filterMap
          Table.Edit.table? := by
    intro entity
    have htables := Table.filterMap_entityEdits_withForeignKeys setting.options setting.index
      setting.schema tablePrefix entity Table.Edit.table?
      fun _ hedit => (Table.Edit.items_of_isOfReference hedit).2.2
    exact (htables false).trans (htables true).symm
  simp only [Table.Group.extended, List.filterMap_flatMap, hentity]

theorem similar_finish {tablePrefix : String} {left right : Table.Group}
    (h : SameEntities setting tablePrefix left right) (stem : String) :
    Similar ((setting.withForeignKeys false).finish stem left)
      ((setting.withForeignKeys true).finish stem right) Eq := by
  have hcount : left.flush.1.tables.length = right.flush.1.tables.length := by
    rw [Table.Group.tables_flush, Table.Group.tables_flush, h.tables_eq]
  obtain ⟨unit, entities, hleft, hright⟩ := h
  have hscripts := flush_eq_scripts (setting.withForeignKeys false)
    (show left = (Table.Group.empty unit).extended
      ((⟨stem, tablePrefix, entities⟩ : TableFile).edits _ _ _) from hleft)
  have hscripts' := flush_eq_scripts (setting.withForeignKeys true)
    (show right = (Table.Group.empty unit).extended
      ((⟨stem, tablePrefix, entities⟩ : TableFile).edits _ _ _) from hright)
  have hwritten : Similar
      (ScriptPair.writeIfAny ⟨left.flush.1.create, left.flush.1.drop⟩
        (setting.options.withForeignKeys false) stem)
      (ScriptPair.writeIfAny ⟨right.flush.1.create, right.flush.1.drop⟩
        (setting.options.withForeignKeys true) stem) Eq := by
    rw [hscripts, hscripts']
    refine similar_writeIfAny ?_ setting.options stem
    rw [hasContent_tables, hasContent_tables]
    rfl
  exact similar_bind_eq hwritten fun _ => similar_pure hcount

theorem similar_diagram (diagram : Diagram) :
    Similar ((setting.withForeignKeys false).diagram diagram)
      ((setting.withForeignKeys true).diagram diagram) Eq := by
  refine similar_bind (similar_emptyGroup setting (diagram.tags.valueOf "prefix")) ?_
  intro left right hempty
  refine similar_bind (similar_within _ (similar_entities setting hempty diagram.entities)) ?_
  intro left right hgroups
  exact similar_finish setting hgroups _

/-- Members that have been gone through without and with foreign keys. -/
structure SameProgress (left right : TableSetting.Progress) : Prop where
  loose : SameEntities setting "" left.loose right.loose
  inDiagrams : left.inDiagrams = right.inDiagrams

theorem similar_members {left right : TableSetting.Progress}
    (h : SameProgress setting left right) (members : List Member) :
    Similar ((setting.withForeignKeys false).members left members)
      ((setting.withForeignKeys true).members right members) (SameProgress setting) := by
  induction members generalizing left right with
  | nil => exact similar_pure h
  | cons member members ih =>
      cases member with
      | diagram diagram =>
          refine similar_bind_eq (similar_diagram setting diagram) fun count => ih ?_
          exact ⟨h.loose, congrArg (· + count) h.inDiagrams⟩
      | entity entity =>
          refine similar_bind (similar_entity setting h.loose entity) ?_
          intro loose loose' hloose
          exact ih ⟨hloose, h.inDiagrams⟩

theorem similar_tables (dataModel : DataModel) :
    Similar ((setting.withForeignKeys false).tables dataModel)
      ((setting.withForeignKeys true).tables dataModel) Eq := by
  refine similar_bind (similar_emptyGroup setting "") ?_
  intro left right hempty
  have hstart : SameProgress setting ⟨left, 0⟩ ⟨right, 0⟩ := ⟨hempty, rfl⟩
  refine similar_bind (similar_members setting hstart dataModel.members) ?_
  intro left right hprogress
  refine similar_bind_eq (similar_finish setting hprogress.loose _) fun count => ?_
  exact similar_pure (congrArg (· + count) hprogress.inDiagrams)

end Tables

section Project

variable (options : Options)

theorem similar_dataModel (index : Index) (model : DataModel) :
    Similar (dataModel (options.withForeignKeys false) index model)
      (dataModel (options.withForeignKeys true) index model) Eq := by
  refine similar_bind_eq (similar_refl (routines options .function model _)) fun functions => ?_
  refine similar_bind_eq (similar_refl (routines options .procedure model _)) fun procedures => ?_
  cases Naming.schemaName model.toElement with
  | error fault => exact similar_refl _
  | ok schema =>
      refine similar_bind_eq (similar_tables ⟨options, index, schema, _⟩ model) fun tables => ?_
      exact similar_pure rfl

theorem similar_dataModels (index : Index) (run : SchemaRun) (models : List DataModel) :
    Similar (dataModels (options.withForeignKeys false) index run models)
      (dataModels (options.withForeignKeys true) index run models) Eq := by
  induction models generalizing run with
  | nil => exact similar_refl _
  | cons model models ih =>
      rw [dataModels_cons, dataModels_cons]
      refine similar_bind_eq (similar_within _ (similar_dataModel options index model))
        fun generated => ?_
      refine similar_bind_eq (similar_refl (run.scripts.gather options model generated.schema))
        fun scripts => ih _

theorem similar_schemas (project : Project) :
    Similar (schemas (options.withForeignKeys false) project)
      (schemas (options.withForeignKeys true) project) Eq := by
  refine similar_bind_eq (similar_refl (.ofExcept (ScriptPair.empty options))) fun pair => ?_
  refine similar_bind_eq (similar_dataModels options _ _ _) fun run => ?_
  exact similar_refl _

theorem similar_projectPlan (location : String) (project : Project) :
    Similar (projectPlan (options.withForeignKeys false) location project)
      (projectPlan (options.withForeignKeys true) location project) Eq := by
  rw [projectPlan_eq, projectPlan_eq]
  refine similar_bind_eq (similar_refl (database options project)) fun valid => ?_
  refine similar_bind_eq (similar_refl (databaseConclusion valid)) fun _ => ?_
  refine similar_bind_eq (similar_schemas options project) fun steps => ?_
  exact similar_refl _

end Project

end Generation
end ErdSql
