import ErdSql.Proofs.FirstOccurrences
import ErdSql.Proofs.ForeignKeys
import ErdSql.Proofs.OrderIndependence
import ErdSql.Proofs.TypeNames

/-!
# Schemas that are used and schemas that are created

The scripts of a project create each schema of its data models once, apart from the public one, in
the order in which the data models bring them, and with the comment of the first data model.  What
tables, types and foreign keys name as their schema is the schema of some data model, so it is the
public one or among those created.  A data model whose schema has no name that can be used brings
its routines only.
-/

namespace ErdSql

/-- The schema of a data model, if it has a name that can be used. -/
def DataModel.schema? (model : DataModel) : Option String :=
  (Naming.schemaName model.toElement).toOption

/-- The first of the data models that use a schema. -/
def firstUser? (models : List DataModel) (schema : String) : Option DataModel :=
  models.find? fun model => model.schema? = some schema

/-- The schemas that a project needs, apart from the public one, each where it is first used. -/
def Project.neededSchemas (project : Project) : List String :=
  Table.firstOccurrences ((project.dataModels.filterMap DataModel.schema?).filter (· ≠ Naming.publicSchema))

namespace Generation

section NewSchemas

/-- The schemas among the accepted ones that data models use, each with its first user. -/
def firstUsers (accepts : String → Bool) (models : List DataModel) : List (DataModel × String) :=
  (Table.firstOccurrences ((models.filterMap DataModel.schema?).filter accepts)).filterMap
    fun schema => (firstUser? models schema).map fun model => (model, schema)

theorem firstUser?_cons_of_ne {model : DataModel} {schema : String}
    (h : model.schema? ≠ some schema) (models : List DataModel) :
    firstUser? (model :: models) schema = firstUser? models schema :=
  List.find?_cons_of_neg (by simpa using h)

theorem firstUsers_cons_of_not_accepted {accepts : String → Bool} {model : DataModel}
    (h : ∀ schema, model.schema? = some schema → accepts schema = false)
    (models : List DataModel) :
    firstUsers accepts (model :: models) = firstUsers accepts models := by
  unfold firstUsers
  have hsame : ((model :: models).filterMap DataModel.schema?).filter accepts =
      (models.filterMap DataModel.schema?).filter accepts := by
    cases hschema : model.schema? with
    | none => rw [List.filterMap_cons_none hschema]
    | some schema =>
        rw [List.filterMap_cons_some hschema, List.filter_cons_of_neg (by simp [h schema hschema])]
  rw [hsame]
  refine List.filterMap_congr fun schema hmem => ?_
  have haccepted := (List.mem_filter.1 (Table.mem_firstOccurrences.1 hmem)).2
  rw [firstUser?_cons_of_ne fun hschema => ?_]
  rw [h schema hschema] at haccepted
  cases haccepted

theorem firstUsers_cons_of_accepted {accepts : String → Bool} {model : DataModel} {schema : String}
    (hschema : model.schema? = some schema) (haccepted : accepts schema = true)
    (models : List DataModel) :
    firstUsers accepts (model :: models) =
      (model, schema) :: firstUsers (fun s => accepts s && s != schema) models := by
  have hrest : ((models.filterMap DataModel.schema?).filter fun s => accepts s && s != schema) =
      ((models.filterMap DataModel.schema?).filter accepts).filter (· != schema) := by
    rw [List.filter_filter]
    simp only [Bool.and_comm]
  unfold firstUsers
  rw [List.filterMap_cons_some hschema, List.filter_cons_of_pos haccepted, hrest,
    Table.firstOccurrences, ← Table.firstOccurrences_filter]
  have hfirst : firstUser? (model :: models) schema = some model :=
    List.find?_cons_of_pos (by simpa using hschema)
  rw [List.filterMap_cons_some (by rw [hfirst]; rfl)]
  congr 1
  refine List.filterMap_congr fun other hother => ?_
  have hne := (List.mem_filter.1 (Table.mem_firstOccurrences.1 hother)).2
  rw [firstUser?_cons_of_ne]
  rw [hschema, Ne, Option.some.injEq]
  rintro rfl
  simp at hne

/-- The schemas that are created when some are there already: those that are used and new. -/
theorem newSchemas_eq_firstUsers (seen : List String) (models : List DataModel) :
    newSchemas seen models =
      firstUsers (fun schema => schema ≠ Naming.publicSchema && !seen.contains schema) models := by
  induction models generalizing seen with
  | nil => rfl
  | cons model models ih =>
      rw [newSchemas]
      cases hname : Naming.schemaName model.toElement with
      | error fault =>
          rw [firstUsers_cons_of_not_accepted, ih]
          intro schema hschema
          rw [DataModel.schema?, hname] at hschema
          cases hschema
      | ok schema =>
          have hschema : model.schema? = some schema := by rw [DataModel.schema?, hname]; rfl
          simp only
          split
          · rename_i hold
            rw [firstUsers_cons_of_not_accepted, ih]
            intro other hother
            obtain rfl : schema = other := Option.some.inj (hschema.symm.trans hother)
            simpa [or_iff_not_imp_left] using hold
          · rename_i hnew
            rw [Bool.or_eq_true, not_or, decide_eq_true_eq] at hnew
            rw [firstUsers_cons_of_accepted hschema (by simpa using hnew), ih]
            congr 2
            funext other
            by_cases hother : other = schema <;> simp [hother]

end NewSchemas

/-- The schemas that are created are those that are needed, each with its first user. -/
theorem newSchemas_eq_neededSchemas (project : Project) :
    newSchemas [] project.dataModels =
      project.neededSchemas.filterMap fun schema =>
        (firstUser? project.dataModels schema).map fun model => (model, schema) := by
  rw [newSchemas_eq_firstUsers, firstUsers, Project.neededSchemas]
  simp

theorem map_snd_newSchemas (project : Project) :
    (newSchemas [] project.dataModels).map (·.2) = project.neededSchemas := by
  rw [newSchemas_eq_neededSchemas, List.map_filterMap]
  refine (List.filterMap_congr fun schema hschema => ?_).trans List.filterMap_some
  have hused := (List.mem_filter.1 (Table.mem_firstOccurrences.1 hschema)).1
  obtain ⟨model, hmodel, hname⟩ := List.mem_filterMap.1 hused
  cases hfirst : firstUser? project.dataModels schema with
  | some first => rfl
  | none => exact absurd (by simpa using hname) (List.find?_eq_none.1 hfirst model hmodel)

section Placed

variable {project : Project} {model : DataModel}

/-- A data model that owns something is one of the project. -/
theorem mem_dataModels_of_owner {placement : Placement}
    (h : placement ∈ (Index.ofProject project).placements)
    (howner : placement.owner = some (.dataModel model)) : model ∈ project.dataModels := by
  have hentity : ∀ {above : Node} {entity : Entity}, placement ∈ Index.ofEntity above entity →
      above = .dataModel model := by
    intro above entity h
    rcases List.mem_cons.1 h with rfl | h
    · exact Option.some.inj howner
    · obtain ⟨column, -, rfl⟩ := List.mem_map.1 h
      cases howner
  rcases List.mem_cons.1 h with rfl | h
  · cases howner
  · obtain ⟨dataModel, hmodel, h⟩ := List.mem_flatMap.1 h
    rcases List.mem_cons.1 h with rfl | h
    · cases howner
    · obtain ⟨member, -, h⟩ := List.mem_flatMap.1 h
      suffices Node.dataModel dataModel = .dataModel model by
        cases this
        exact hmodel
      cases member with
      | entity entity => exact hentity h
      | diagram diagram =>
          rcases List.mem_cons.1 h with rfl | h
          · exact Option.some.inj howner
          · obtain ⟨entity, -, h⟩ := List.mem_flatMap.1 h
            cases hentity h

theorem mem_dataModels_of_owner? {node : Node}
    (h : (Index.ofProject project).owner? node = some (.dataModel model)) :
    model ∈ project.dataModels := by
  obtain ⟨placement, hfound, howner⟩ := Option.bind_eq_some_iff.1 h
  exact mem_dataModels_of_owner (List.mem_reverse.1 (List.mem_of_find?_eq_some hfound)) howner

/-- Walking up from an element leads to a data model of the project, if it leads anywhere. -/
theorem mem_dataModels_of_walkUp {steps : Nat} {node : Node}
    (h : (Index.ofProject project).walkUp steps ((Index.ofProject project).owner? node) =
      some model) : model ∈ project.dataModels := by
  induction steps generalizing node with
  | zero =>
      cases howner : (Index.ofProject project).owner? node with
      | none =>
          rw [howner] at h
          cases h
      | some above =>
          rw [howner] at h
          cases above with
          | dataModel found =>
              cases h
              exact mem_dataModels_of_owner? howner
          | _ => cases h
  | succ steps ih =>
      cases howner : (Index.ofProject project).owner? node with
      | none =>
          rw [howner] at h
          cases h
      | some above =>
          rw [howner] at h
          cases above with
          | dataModel found =>
              cases h
              exact mem_dataModels_of_owner? howner
          | _ => exact ih h

/-- The schema of what a foreign key refers to is the public one or that of a data model. -/
theorem schema_of_schemaName? {node : Node} {schema : String}
    (h : Naming.schemaName? (((Index.ofProject project).dataModelOf? node).map (·.toElement)) =
      .ok schema) :
    schema = Naming.publicSchema ∨
      ∃ model ∈ project.dataModels, Naming.schemaName model.toElement = .ok schema := by
  cases hmodel : (Index.ofProject project).dataModelOf? node with
  | none =>
      rw [hmodel] at h
      exact Or.inl (Except.ok.inj h).symm
  | some found =>
      rw [hmodel] at h
      exact Or.inr ⟨found, mem_dataModels_of_walkUp hmodel, h⟩

end Placed

section Qualifiers

/-- What stands before the first point of a name. -/
def qualifierOf (name : String) : String :=
  String.ofList (name.toList.takeWhile (· ≠ '.'))

/-- The schemas that a line names where it creates a table or a type or adds a foreign key: those
of the table or the type, and of the table that the foreign key refers to. -/
def qualifiers : Sql.Line → List String
  | .statement (.createTable table) => [qualifierOf table]
  | .statement (.createEnum type _) => [qualifierOf type]
  | .statement (.addForeignKey key) => [qualifierOf key.table, key.refSchema]
  | _ => []

theorem qualifierOf_append {schema : String} (h : '.' ∉ schema.toList) (name : String) :
    qualifierOf (schema ++ "." ++ name) = schema := by
  have hplain : ∀ c ∈ schema.toList, decide (c ≠ '.') = true := by
    intro c hc
    refine decide_eq_true ?_
    rintro rfl
    exact h hc
  rw [qualifierOf, String.toList_append, String.toList_append, List.append_assoc,
    List.takeWhile_append_of_pos hplain]
  simp

/-- A schema has no point in its name. -/
theorem point_not_mem_schema {model : Element} {schema : String}
    (h : Naming.schemaName model = .ok schema) : '.' ∉ schema.toList := by
  have hsmall : ∀ {name : String}, Naming.IsSmallName name → '.' ∉ name.toList := by
    intro name hname
    refine hname.not_mem ?_ ?_
    · unfold Naming.IsSmallStart
      decide
    · unfold Naming.IsSmallPart Naming.IsSmallStart
      decide
  have hmodel : Naming.schemaName? (some model) = .ok schema := h
  have hresolved : Naming.Resolved schema := .schema hmodel
  obtain ⟨raw, rfl, hname⟩ := hresolved.exists_eq_lower
  rcases Naming.isSmallName_of_isIdentifier_lower hname with hname | ⟨t, ht, heq⟩
  · exact hsmall hname
  · rw [heq, String.toList_append]
    intro hmem
    rcases List.mem_append.1 hmem with hmem | hmem
    · exact hsmall ht hmem
    · exact absurd hmem (by decide)

/-- The schema of a table that is created is that of a data model. -/
theorem exists_schema_of_generatedTables {project : Project} {named : String × Entity}
    (h : named ∈ generatedTables project) :
    ∃ model ∈ project.dataModels, ∃ schema tableName,
      Naming.schemaName model.toElement = .ok schema ∧ named.1 = schema ++ "." ++ tableName := by
  obtain ⟨artifact, hartifact, hnamed⟩ := List.mem_flatMap.1 h
  cases artifact with
  | tables schema file =>
      obtain ⟨model, hmodel, hschema, -⟩ := Artifact.exists_dataModel_of_tables_mem hartifact
      obtain ⟨entity, -, hentity⟩ := List.mem_filterMap.1 hnamed
      cases hname : Naming.prefixedTableName file.tablePrefix entity.toElement with
      | error fault =>
          rw [hname] at hentity
          cases hentity
      | ok tableName =>
          rw [hname] at hentity
          cases hentity
          exact ⟨model, hmodel, schema, tableName, hschema, rfl⟩
  | _ => cases hnamed

variable {project : Project}

theorem schema_of_table {options : Options} {unit : String} (hunit : options.indentUnit = .ok unit)
    {table : String} (h : table ∈ tablesIn (projectFiles options project)) :
    ∃ model ∈ project.dataModels, Naming.schemaName model.toElement = .ok (qualifierOf table) := by
  rw [tablesIn_projectFiles hunit] at h
  obtain ⟨named, hnamed, rfl⟩ := List.mem_map.1 h
  obtain ⟨model, hmodel, schema, tableName, hschema, hname⟩ :=
    exists_schema_of_generatedTables hnamed
  refine ⟨model, hmodel, ?_⟩
  rw [hname, qualifierOf_append (point_not_mem_schema hschema)]
  exact hschema

/-- A type is named after its table, and so has the schema of its table. -/
theorem schema_of_type {options : Options} {unit : String} (hunit : options.indentUnit = .ok unit)
    {type : String} (h : type ∈ typesIn (projectFiles options project)) :
    ∃ model ∈ project.dataModels, Naming.schemaName model.toElement = .ok (qualifierOf type) := by
  rw [typesIn_projectFiles hunit] at h
  obtain ⟨named, hnamed, htype⟩ := List.mem_flatMap.1 h
  obtain ⟨column, -, rfl⟩ := List.mem_map.1 htype
  obtain ⟨model, hmodel, schema, tableName, hschema, hname⟩ :=
    exists_schema_of_generatedTables hnamed
  have hsplit : Table.typeName (schema ++ "." ++ tableName) column =
      schema ++ "." ++ (tableName ++ "_" ++ column) := by
    simp only [Table.typeName, String.append_assoc]
  refine ⟨model, hmodel, ?_⟩
  rw [hname, hsplit, qualifierOf_append (point_not_mem_schema hschema)]
  exact hschema

/-- A foreign key stands in a file only if the options ask for foreign keys. -/
theorem foreignKeys_of_addForeignKey {options : Options} {file : String × Sql.Script}
    (hfile : file ∈ projectFiles options project) {item : Sql.ScriptItem}
    (hitem : item ∈ file.2.items) (hline : item.line.isForeignKey = true) :
    options.foreignKeys = true := by
  obtain ⟨artifact, -, hfile⟩ := List.mem_flatMap.1 hfile
  obtain ⟨-, ⟨-, hitems⟩ | ⟨-, hitems⟩⟩ := Artifact.eq_of_mem_files hfile
  · rw [hitems] at hitem
    obtain ⟨schema, tables, -, hkey⟩ := exists_tables_of_mem_createItems hitem hline
    by_contra hoff
    rw [TableFile.keys_edits_of_off (by simpa using hoff)] at hkey
    cases hkey
  · have hnone := List.all_eq_true.1 (noForeignKeys_dropItems options _ artifact) item
      (hitems ▸ hitem)
    rw [hline] at hnone
    cases hnone

theorem schemas_of_foreignKey {options : Options} {file : String × Sql.Script}
    (hfile : file ∈ projectFiles options project) {item : Sql.ScriptItem}
    (hitem : item ∈ file.2.items) {key : Sql.ForeignKey}
    (hline : item.line = .statement (.addForeignKey key)) :
    (∃ model ∈ project.dataModels,
      Naming.schemaName model.toElement = .ok (qualifierOf key.table)) ∧
    (key.refSchema = Naming.publicSchema ∨
      ∃ model ∈ project.dataModels, Naming.schemaName model.toElement = .ok key.refSchema) := by
  have hon := foreignKeys_of_addForeignKey hfile hitem (by rw [hline]; rfl)
  obtain ⟨model, hmodel, schema, hschema, tables, -, entity, -, hkey, -⟩ :=
    exists_entity_of_addForeignKey hon hfile hitem hline
  obtain ⟨tableName, -, column, -, hkey⟩ := Table.exists_of_mem_entityForeignKeys hkey
  obtain ⟨htable, -, target, referred, owner, -, -, -, -, -, hrefSchema⟩ :=
    of_foreignKey?_eq_some hkey
  refine ⟨⟨model, hmodel, ?_⟩, schema_of_schemaName? hrefSchema⟩
  rw [htable, qualifierOf_append (point_not_mem_schema hschema)]
  exact hschema

/-- A schema that a line of a script names is the public one or that of a data model. -/
theorem schema_of_mem_qualifiers {options : Options} {unit : String}
    (hunit : options.indentUnit = .ok unit) {file : String × Sql.Script}
    (hfile : file ∈ projectFiles options project) {item : Sql.ScriptItem}
    (hitem : item ∈ file.2.items) {schema : String} (h : schema ∈ qualifiers item.line) :
    schema = Naming.publicSchema ∨
      ∃ model ∈ project.dataModels, Naming.schemaName model.toElement = .ok schema := by
  have hcreated : ∀ {creation : Sql.Creation}, item.line.created? = some creation →
      creation ∈ createdIn (projectFiles options project) := by
    intro creation hcreation
    exact List.mem_flatMap.2 ⟨file, hfile, List.mem_filterMap.2 ⟨item, hitem, hcreation⟩⟩
  unfold qualifiers at h
  split at h
  · rename_i table hline
    rw [List.mem_singleton.1 h]
    refine Or.inr (schema_of_table hunit (List.mem_filterMap.2 ⟨.table table, ?_, rfl⟩))
    exact hcreated (by rw [hline]; rfl)
  · rename_i type labels hline
    rw [List.mem_singleton.1 h]
    refine Or.inr (schema_of_type hunit (List.mem_filterMap.2 ⟨.enumeration type, ?_, rfl⟩))
    exact hcreated (by rw [hline]; rfl)
  · rename_i key hline
    obtain ⟨htable, hreferred⟩ := schemas_of_foreignKey hfile hitem hline
    rcases List.mem_cons.1 h with rfl | h
    · exact Or.inr htable
    · rw [List.mem_singleton.1 h]
      exact hreferred
  · cases h

end Qualifiers

section Scripts

/-- The files that create the schemas. -/
def schemaFiles (files : List (String × Sql.Script)) : List (String × Sql.Script) :=
  files.filter fun file => file.1 = "schema_create.sql"

/-- The schemas that these files create. -/
def schemasIn (files : List (String × Sql.Script)) : List String :=
  (createdIn (schemaFiles files)).filterMap Sql.Creation.schema?

/-- The schema that a line comments on, and the comment. -/
def schemaComment? : Sql.Line → Option (String × String)
  | .statement (.comment .schema schema text) => some (schema, text)
  | _ => none

/-- The comments on schemas in these files. -/
def schemaCommentsIn (files : List (String × Sql.Script)) : List (String × String) :=
  (schemaFiles files).flatMap fun file => file.2.items.filterMap (schemaComment? ·.line)

/-- The comment on a schema: the documentation of its first user, if there is any. -/
def schemaComment (models : List DataModel) (schema : String) : Option (String × String) :=
  (firstUser? models schema).bind fun model =>
    if model.documentation = "" then none else some (schema, model.documentation)

/-- The files are those of the routines of a data model, and nothing else. -/
structure OnlyRoutines (options : Options) (model : DataModel) (files : List (String × Sql.Script)) :
    Prop where
  paths : files.map (·.1) =
    pathsIf options (Naming.normalize model.name ++ "_function")
        (hasRoutine options.functionMarker model.tags) ++
      pathsIf options (Naming.normalize model.name ++ "_procedure")
        (hasRoutine options.procedureMarker model.tags)
  created : createdIn files =
    (namedRoutines (model.tags.pointingAt options.functionMarker)).map
        (fun routine => .routine .function routine.name) ++
      (namedRoutines (model.tags.pointingAt options.procedureMarker)).map
        (fun routine => .routine .procedure routine.name)

variable {options : Options} {unit : String} (hunit : options.indentUnit = .ok unit)
  (project : Project)

include hunit

/-- Only the artifact of the schemas has a file that creates them. -/
theorem schemaFiles_files_eq_nil (index : Index) {artifact : Artifact}
    (hstem : artifact.stem ≠ schemaStem) :
    schemaFiles (artifact.files options index) = [] := by
  refine List.filter_eq_nil_iff.2 fun file hfile => ?_
  have hpath := not_mem_stemPaths_schemas hunit index hstem hfile
  rw [decide_eq_true_eq]
  intro heq
  rw [heq] at hpath
  exact hpath (List.mem_cons_self ..)

/-- There is one file that creates schemas if any are needed, and none otherwise. -/
theorem schemaFiles_projectFiles :
    schemaFiles (projectFiles options project) =
      if project.neededSchemas = [] then []
      else [("schema_create.sql",
        ((Artifact.schemas project).scripts unit options (.ofProject project)).create)] := by
  have hmodels : (project.dataModels.flatMap dataModelArtifacts).flatMap (fun artifact =>
      schemaFiles (artifact.files options (.ofProject project))) = [] := by
    refine List.flatMap_eq_nil_iff.2 fun artifact hartifact => ?_
    obtain ⟨model, -, hmem⟩ := List.mem_flatMap.1 hartifact
    exact schemaFiles_files_eq_nil hunit _ (stem_ne_schemaStem hmem)
  have hschemas : schemaFiles ((Artifact.schemas project).files options (.ofProject project)) =
      if project.neededSchemas = [] then []
      else [("schema_create.sql",
        ((Artifact.schemas project).scripts unit options (.ofProject project)).create)] := by
    rw [Artifact.files_of_indentUnit hunit, ← map_snd_newSchemas, Artifact.isWritten]
    cases newSchemas [] project.dataModels with
    | nil => rfl
    | cons new rest =>
        simp only [List.isEmpty_cons, Bool.not_false, if_true, ScriptPair.files, schemaFiles]
        split <;> rfl
  have hsplit : ∀ list : List Artifact,
      schemaFiles (list.flatMap (Artifact.files options (.ofProject project))) =
        list.flatMap fun artifact =>
          schemaFiles (artifact.files options (.ofProject project)) :=
    fun _ => List.filter_flatMap
  have hdatabase : (Artifact.database project).stem ≠ schemaStem := by
    change databaseStem ≠ schemaStem
    decide
  rw [projectFiles, hsplit, artifacts, List.flatMap_append, List.flatMap_cons, hmodels,
    List.flatMap_singleton, hschemas, schemaFiles_files_eq_nil hunit _ hdatabase]
  rfl

theorem schemasIn_projectFiles :
    schemasIn (projectFiles options project) = project.neededSchemas := by
  rw [schemasIn, schemaFiles_projectFiles hunit]
  split
  · rename_i hnone
    rw [hnone]
    rfl
  · have hcreated := created_schemaLines options (newSchemas [] project.dataModels)
    rw [createdIn, List.flatMap_singleton]
    refine (congrArg (List.filterMap Sql.Creation.schema?) hcreated).trans ?_
    rw [List.filterMap_map, ← map_snd_newSchemas]
    exact congrFun List.filterMap_eq_map _

omit hunit in
theorem schemaComments_schemaLines (new : List (DataModel × String)) :
    ((new.flatMap fun (dataModel, schema) => schemaLines options dataModel schema).map
        (·.item)).filterMap (schemaComment? ·.line) =
      new.filterMap fun (model, schema) =>
        if model.documentation = "" then none else some (schema, model.documentation) := by
  induction new with
  | nil => rfl
  | cons entry new ih =>
      obtain ⟨model, schema⟩ := entry
      rw [List.flatMap_cons, List.map_append, List.filterMap_append, ih, List.filterMap_cons]
      simp only [schemaLines]
      split <;> rfl

theorem schemaCommentsIn_projectFiles :
    schemaCommentsIn (projectFiles options project) =
      project.neededSchemas.filterMap (schemaComment project.dataModels) := by
  rw [schemaCommentsIn, schemaFiles_projectFiles hunit]
  split
  · rename_i hnone
    rw [hnone]
    rfl
  · rw [List.flatMap_singleton]
    have hcomments := @schemaComments_schemaLines options (newSchemas [] project.dataModels)
    refine hcomments.trans ?_
    rw [newSchemas_eq_neededSchemas, List.filterMap_filterMap]
    refine List.filterMap_congr fun schema _ => ?_
    rw [schemaComment]
    cases firstUser? project.dataModels schema <;> rfl

theorem onlyRoutines_dataModelArtifacts {model : DataModel} {fault : Naming.NameFault}
    (h : Naming.schemaName model.toElement = .error fault) :
    OnlyRoutines options model
      ((dataModelArtifacts model).flatMap (Artifact.files options (.ofProject project))) := by
  have hartifacts : dataModelArtifacts model =
      [.routines .function model, .routines .procedure model] := by
    rw [dataModelArtifacts, h]
    rfl
  constructor
  · rw [map_fst_flatMap_files hunit, flatMap_stemPaths_writtenStems,
      flatMap_pathsIf_dataModelArtifacts, modelManifest, h]
    exact List.append_nil _
  · rw [hartifacts, List.flatMap_cons, List.flatMap_singleton, createdIn_append,
      createdIn_routines _ hunit, createdIn_routines _ hunit]
    rfl

end Scripts

/-- The files of a project create the schemas that are needed and name no others. -/
structure CoversSchemas (options : Options) (project : Project)
    (files : List (String × Sql.Script)) : Prop where
  /-- One file creates schemas if any are needed, and none otherwise. -/
  file : (schemaFiles files).length = if project.neededSchemas = [] then 0 else 1
  created : schemasIn files = project.neededSchemas
  once : project.neededSchemas.Nodup
  /-- No other file creates a schema. -/
  elsewhere : (createdIn files).filterMap Sql.Creation.schema? = project.neededSchemas
  comments : schemaCommentsIn files =
    project.neededSchemas.filterMap (schemaComment project.dataModels)
  /-- A name that can be used counts in lower case. -/
  folded : ∀ model ∈ project.dataModels, ∀ name, model.tags.valueOf "schema" = name →
    Naming.isIdentifier name = true →
      Text.lower name = "public" ∨ (schemasIn files).count (Text.lower name) = 1
  /-- Tables, types and foreign keys name the public schema or one that is created once. -/
  covered : ∀ file ∈ files, ∀ item ∈ file.2.items, ∀ schema ∈ qualifiers item.line,
    schema = "public" ∨ (schemasIn files).count schema = 1
  /-- Between the files of the database and of the schemas come those of the data models; without
  a name for its schema, a data model has those of its routines only. -/
  misnamed : ∃ (first last : List (String × Sql.Script)) (parts : List (List (String × Sql.Script))),
    files = first ++ parts.flatten ++ last ∧
      first.map (·.1) =
        pathsIf options "db" (Naming.databaseName project.toElement).isValid ∧
      last.map (·.1) = pathsIf options "schema" (!project.neededSchemas.isEmpty) ∧
      List.Forall₂ (fun model part => ∀ fault, Naming.schemaName model.toElement = .error fault →
        OnlyRoutines options model part) project.dataModels parts

theorem mem_neededSchemas {project : Project} {schema : String} :
    schema ∈ project.neededSchemas ↔ schema ≠ Naming.publicSchema ∧
      ∃ model ∈ project.dataModels, Naming.schemaName model.toElement = .ok schema := by
  rw [← map_snd_newSchemas, mem_newSchemas_iff]
  simp

theorem coversSchemas_projectFiles {options : Options} {unit : String}
    (hunit : options.indentUnit = .ok unit) (project : Project) :
    CoversSchemas options project (projectFiles options project) := by
  have hcreated := schemasIn_projectFiles hunit project
  have honce : project.neededSchemas.Nodup := Table.nodup_firstOccurrences _
  have hcount : ∀ schema, (schema = Naming.publicSchema ∨
      ∃ model ∈ project.dataModels, Naming.schemaName model.toElement = .ok schema) →
        schema = "public" ∨ (schemasIn (projectFiles options project)).count schema = 1 := by
    rintro schema (hpublic | hused)
    · exact Or.inl hpublic
    · rw [hcreated]
      by_cases hpublic : schema = Naming.publicSchema
      · exact Or.inl hpublic
      · exact Or.inr (List.count_eq_one_of_mem honce
          (mem_neededSchemas.2 ⟨hpublic, hused⟩))
  constructor
  · rw [schemaFiles_projectFiles hunit]
    split <;> rfl
  · exact hcreated
  · exact honce
  · rw [createdSchemas_projectFiles options hunit, map_snd_newSchemas]
  · exact schemaCommentsIn_projectFiles hunit project
  · intro model hmodel name hname hvalid
    refine hcount _ (Or.inr ⟨model, hmodel, ?_⟩)
    have hne : name ≠ "" := by
      rintro rfl
      cases hvalid
    simp only [Naming.schemaName, hname, if_neg hne, if_pos hvalid]
  · intro file hfile item hitem schema hschema
    exact hcount schema (schema_of_mem_qualifiers hunit hfile hitem hschema)
  · refine ⟨(Artifact.database project).files options (.ofProject project),
      (Artifact.schemas project).files options (.ofProject project),
      project.dataModels.map fun model =>
        (dataModelArtifacts model).flatMap (Artifact.files options (.ofProject project)),
      ?_, ?_, ?_, ?_⟩
    · rw [projectFiles, artifacts, List.flatMap_append, List.flatMap_cons,
        List.flatMap_singleton, List.flatMap_assoc, ← List.flatMap_def]
    · exact map_fst_files hunit _ (.database project)
    · rw [map_fst_files hunit, ← map_snd_newSchemas, List.isEmpty_map]
      rfl
    · rw [List.forall₂_map_right_iff, List.forall₂_same]
      exact fun model _ fault h => onlyRoutines_dataModelArtifacts hunit project h

namespace Generator

/-- A run that succeeds creates each schema that the project needs once, in the order of first
use, and names no other schema but the public one. -/
theorem generate_coversSchemas {σ : Type} [Storage.Sink σ] (generator : Generator σ)
    (moment : Log.Moment) (project : Project)
    (hsuccess :
      (generator.generate moment (some (.project project))).result.success = true) :
    CoversSchemas generator.options project
      (Event.scripts (generator.generate moment (some (.project project))).events) := by
  obtain ⟨unit, hunit⟩ := exists_indentUnit_of_success generator moment project hsuccess
  have hscripts : Event.scripts (generator.generate moment (some (.project project))).events =
      projectFiles generator.options project :=
    scripts_of_success generator moment project hsuccess
  rw [hscripts]
  exact coversSchemas_projectFiles hunit project

/-- Two data models share a schema up to case; a third one, in the public schema, refers to a
table of the first; the schema of the last has no name. -/
def sharedSchemaProject : Project :=
  { name := "Shop"
    dataModels := [
      { name := "Sales", documentation := "Orders", tags := [.ofString "schema" "Sales"]
        members := [.entity {
          id := .named "customer"
          name := "Customer"
          columns := [{ id := .named "c", name := "id" },
            { name := "state", type := "enum", tags := [.ofString "enum" "new,old"] }] }] },
      { name := "Stock", documentation := "Goods", tags := [.ofString "schema" "sales"]
        members := [.entity { name := "Item" }] },
      { name := "Mail"
        members := [.entity {
          name := "Letter", columns := [{ name := "customer", referenceTo := some "c" }] }] },
      { name := "Archive"
        tags := [.ofString "schema" "old-1",
          { name := "sweep", kind := .reference, reference := some (.ofString "function" "") }]
        members := [.entity { name := "Shelf" }] }] }

/-- The shared schema is created once with the comment of the first data model, and tables, types
and the foreign key name it or the public one. -/
theorem generate_coversSchemas_shared :
    CoversSchemas {} sharedSchemaProject (Event.scripts
        (memoryGenerator.generate newYear (some (.project sharedSchemaProject))).events) ∧
      sharedSchemaProject.neededSchemas = ["sales"] ∧
      sharedSchemaProject.neededSchemas.filterMap
          (schemaComment sharedSchemaProject.dataModels) = [("sales", "Orders")] ∧
      (Event.scripts (memoryGenerator.generate newYear
          (some (.project sharedSchemaProject))).events).flatMap
            (fun file => file.2.items.flatMap (qualifiers ·.line)) =
        ["sales", "sales", "sales", "public", "public", "sales"] :=
  ⟨generate_coversSchemas memoryGenerator newYear sharedSchemaProject (by decide +kernel),
    by decide +kernel, by decide +kernel, by decide +kernel⟩

end Generator

end Generation
end ErdSql
