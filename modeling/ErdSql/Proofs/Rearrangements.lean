import ErdSql.Proofs.Referents
import Mathlib.Data.List.Perm.Basic

/-!
# Rearranged projects

A project is rearranged by giving its data models another order, and the members of each data
model another order that leaves the entities which are in no diagram one after the other as they
were.  A rearranged project has the same identities and declares the same columns, so that
references find the same in it.
-/

namespace ErdSql

open Generation

/-- The data models differ only in the order of their members, and their entities that are in no
diagram come in the same order. -/
structure DataModel.Rearranged (model other : DataModel) : Prop where
  element : model.toElement = other.toElement
  members : model.members.Perm other.members
  looseEntities : model.looseEntities = other.looseEntities

/-- The projects differ only in the order of their data models and of the members of these. -/
structure Project.Rearranged (project other : Project) : Prop where
  element : project.toElement = other.toElement
  author : project.author = other.author
  dataModels : ∃ models, project.dataModels.Perm models ∧
    List.Forall₂ DataModel.Rearranged models other.dataModels

theorem perm_flatMap_of_forall₂ {α β γ : Type} {R : α → β → Prop} {f : α → List γ}
    {g : β → List γ} (hfg : ∀ a b, R a b → (f a).Perm (g b)) {left : List α} {right : List β}
    (h : List.Forall₂ R left right) : (left.flatMap f).Perm (right.flatMap g) := by
  induction h with
  | nil => exact List.Perm.refl _
  | cons hrel _ ih =>
      rw [List.flatMap_cons, List.flatMap_cons]
      exact (hfg _ _ hrel).append ih

theorem exists_of_mem_forall₂ {α β : Type} {R : α → β → Prop} {left : List α} {right : List β}
    (h : List.Forall₂ R left right) {a : α} (ha : a ∈ left) : ∃ b ∈ right, R a b := by
  induction h with
  | nil => cases ha
  | cons hrel _ ih =>
      rcases List.mem_cons.1 ha with rfl | ha
      · exact ⟨_, List.mem_cons_self .., hrel⟩
      · obtain ⟨b, hb, hrest⟩ := ih ha
        exact ⟨b, List.mem_cons_of_mem _ hb, hrest⟩

namespace DataModel.Rearranged

variable {model other : DataModel} (h : model.Rearranged other)

include h

theorem symm : other.Rearranged model :=
  ⟨h.element.symm, h.members.symm, h.looseEntities.symm⟩

theorem tableFiles_perm : (tableFiles model).Perm (tableFiles other) := by
  have hmember : TableFile.ofMember? model = TableFile.ofMember? other := by
    funext member
    cases member with
    | diagram diagram => simp only [TableFile.ofMember?, TableFile.ofDiagram, h.element]
    | entity entity => rfl
  have hloose : TableFile.loose model = TableFile.loose other := by
    simp only [TableFile.loose, h.element, h.looseEntities]
  rw [tableFiles, tableFiles, hmember, hloose]
  exact (h.members.filterMap _).append_right _

/-- What is made of the artifacts of data models is the same up to order, if it is the same for
their routines. -/
theorem perm_artifacts {γ : Type} {φ : Artifact → List γ}
    (hφ : ∀ kind, φ (.routines kind model) = φ (.routines kind other)) :
    ((dataModelArtifacts model).flatMap φ).Perm ((dataModelArtifacts other).flatMap φ) := by
  simp only [dataModelArtifacts, List.flatMap_append, List.flatMap_cons, List.flatMap_nil, hφ,
    h.element]
  refine List.Perm.append_left _ ?_
  cases Naming.schemaName other.toElement with
  | error fault => exact List.Perm.refl _
  | ok schema => exact (h.tableFiles_perm.map _).flatMap_right φ

theorem ids_perm (owner owner' : Node) :
    (Index.idsOf (Index.ofDataModel owner model)).Perm
      (Index.idsOf (Index.ofDataModel owner' other)) := by
  have hmembers : ∀ (owner : Node) (members : List Member),
      Index.idsOf (members.flatMap (Index.ofMember owner)) =
        members.flatMap fun member => Index.idsOf (Index.ofMember (.dataModel model) member) := by
    intro owner members
    rw [Index.idsOf, List.map_flatMap]
    -- the identities of a member do not depend on its owner
    exact List.flatMap_congr fun member _ => by cases member <;> rfl
  have hid : model.id = other.id := congrArg (·.id) h.element
  change (model.id :: Index.idsOf (model.members.flatMap _)).Perm
    (other.id :: Index.idsOf (other.members.flatMap _))
  rw [hmembers, hmembers, hid]
  exact (h.members.flatMap_right _).cons _

end DataModel.Rearranged

namespace Project.Rearranged

variable {project other : Project} (h : project.Rearranged other)

include h

theorem symm : other.Rearranged project := by
  obtain ⟨models, hperm, hmodels⟩ := h.dataModels
  obtain ⟨models', hmodels', hperm'⟩ := List.perm_comp_forall₂ hperm hmodels
  exact ⟨h.element.symm, h.author.symm, models', hperm'.symm,
    hmodels'.flip.imp fun _ _ hmodel => hmodel.symm⟩

theorem perm_flatMap {γ : Type} {f g : DataModel → List γ}
    (hfg : ∀ model model', model.Rearranged model' → (f model).Perm (g model')) :
    (project.dataModels.flatMap f).Perm (other.dataModels.flatMap g) := by
  obtain ⟨models, hperm, hmodels⟩ := h.dataModels
  exact (hperm.flatMap_right f).trans (perm_flatMap_of_forall₂ hfg hmodels)

theorem exists_of_mem {model : DataModel} (hmodel : model ∈ project.dataModels) :
    ∃ model' ∈ other.dataModels, model.Rearranged model' := by
  obtain ⟨models, hperm, hmodels⟩ := h.dataModels
  exact exists_of_mem_forall₂ hmodels (hperm.subset hmodel)

theorem hasDistinctIds (hids : project.HasDistinctIds) : other.HasDistinctIds := by
  have hperm := h.perm_flatMap fun _ _ hmodel =>
    hmodel.ids_perm (.project project) (.project other)
  have hid : project.id = other.id := congrArg (·.id) h.element
  unfold HasDistinctIds Index.ofProject at *
  rw [List.map_cons, List.map_flatMap] at hids ⊢
  refine (List.Perm.nodup_iff ?_).1 hids
  exact (congrArg (· :: _) hid) ▸ hperm.cons _

/-- A rearranged project declares the same columns. -/
theorem declares {id : ElementId} {schema table column : String}
    (hdeclares : project.Declares id schema table column) :
    other.Declares id schema table column := by
  obtain ⟨model, hmodel, file, hfile, entity, hentity, found, hfound, hid, hcolumn, htable,
    hschema⟩ := hdeclares
  obtain ⟨model', hmodel', hrel⟩ := h.exists_of_mem hmodel
  refine ⟨model', hmodel', file, hrel.tableFiles_perm.subset hfile, entity, hentity, found, hfound,
    hid, hcolumn, htable, ?_⟩
  rw [← hrel.element]
  exact hschema

/-- Columns of a rearranged project call for the same foreign keys. -/
theorem foreignKey?_eq (hids : project.HasDistinctIds) (table tableName : String)
    (column : Column) :
    Table.foreignKey? (.ofProject other) table tableName column =
      Table.foreignKey? (.ofProject project) table tableName column := by
  have hdeclares : ∀ id schema table column,
      other.Declares id schema table column ↔ project.Declares id schema table column :=
    fun _ _ _ _ => ⟨h.symm.declares, h.declares⟩
  refine Option.ext fun key => ?_
  rw [Table.foreignKey?_eq_some_iff (h.hasDistinctIds hids),
    Table.foreignKey?_eq_some_iff hids]
  simp only [hdeclares]

end Project.Rearranged

end ErdSql
