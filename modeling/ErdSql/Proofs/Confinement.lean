import ErdSql.Proofs.ForeignKeyFiles
import ErdSql.Proofs.Identifiers
import ErdSql.Proofs.Paths
import ErdSql.Proofs.Pieces
import ErdSql.Proofs.Places

/-!
# Confinement

Where the files of a run go.  A stem is made of names that the modeller chooses, so it may hold
slashes: the pieces before the last one are directories on the way to the file.  A file goes below
every directory exactly if its stem names no root and its directories never climb above where they
start; names without slashes are always fine.  A run all of whose stems are of this kind leaves
everything outside its directory as it was.
-/

namespace ErdSql

namespace Text

theorem eq_slash_of_mem_lowerChar {c : Char} (h : '/' ∈ lowerChar c) : c = '/' := by
  unfold lowerChar at h
  split at h
  · have hlower : '/' = c.toLower := List.mem_singleton.1 h
    by_cases hcapital : IsCapital c
    · have hnumber := toNat_toLower_of_isCapital hcapital
      rw [← hlower] at hnumber
      have hslash : '/'.toNat = 47 := rfl
      rw [isCapital_iff] at hcapital
      omega
    · rw [hlower, toLower_of_not_isCapital hcapital]
  · split at h
    · exact absurd h (by decide)
    · split at h
      · rename_i n hfound
        obtain ⟨run, hrun, hn⟩ := List.exists_of_findSome?_eq_some hfound
        have hnumber := toNat_ofNat_of_lowerOf? hrun hn
        rw [← List.mem_singleton.1 h] at hnumber
        have hslash : '/'.toNat = 47 := rfl
        omega
      · exact (List.mem_singleton.1 h).symm

theorem slash_mem_of_mem_lowerChars {letterBefore : Bool} {cs : List Char}
    (h : '/' ∈ lowerChars letterBefore cs) : '/' ∈ cs := by
  induction cs generalizing letterBefore with
  | nil => exact h
  | cons c cs ih =>
      simp only [lowerChars] at h
      split at h
      · rcases List.mem_cons.1 h with h | h
        · split at h <;> exact absurd h (by decide)
        · exact List.mem_cons_of_mem _ (ih h)
      · rcases List.mem_append.1 h with h | h
        · exact eq_slash_of_mem_lowerChar h ▸ List.mem_cons_self ..
        · exact List.mem_cons_of_mem _ (ih h)

end Text

/-- Putting a name into the form of a stem brings no slashes into it. -/
theorem Naming.slash_mem_of_mem_normalize {name : String}
    (h : '/' ∈ (normalize name).toList) : '/' ∈ name.toList := by
  rw [normalize, Text.lower, String.toList_ofList] at h
  have hreplaced := Text.slash_mem_of_mem_lowerChars h
  rw [Text.replaceChar, String.toList_ofList, List.mem_map] at hreplaced
  obtain ⟨c, hc, hslash⟩ := hreplaced
  split at hslash
  · exact absurd hslash (by decide)
  · exact hslash ▸ hc

namespace Storage.Path

theorem startOf_eq_here_iff {cs : List Char} : startOf cs = .here ↔ cs.head? ≠ some '/' := by
  cases cs with
  | nil => simp [startOf]
  | cons c cs =>
      unfold startOf
      split <;> simp_all

theorem not_slash_mem_of_mem_steps {s step : String} (h : step ∈ (ofString s).steps) :
    '/' ∉ step.toList := by
  obtain ⟨piece, hpiece, rfl⟩ := List.mem_map.1 (List.mem_filter.1 h).1
  intro hslash
  rw [String.toList_ofList] at hslash
  exact absurd (Text.not_sep_of_mem_splitChars hpiece hslash) (by decide)

theorem rootName_not_mem_steps (s : String) : Place.rootName ∉ (ofString s).steps :=
  fun h => not_slash_mem_of_mem_steps h (by decide)

/-- The directories that a stem names on the way to its files. -/
def directoriesOf (stem : String) : List String :=
  (Text.splitAt '/' stem).dropLast.filter isStep

/-- Whether a stem names no root, and its directories never climb above where they start. -/
def StaysInside (stem : String) : Prop :=
  stem.toList.head? ≠ some '/' ∧ (Place.descend [] (directoriesOf stem)).isSome = true

instance : DecidablePred StaysInside := fun _ => inferInstanceAs (Decidable (_ ∧ _))

theorem staysInside_of_not_slash_mem {stem : String} (h : '/' ∉ stem.toList) :
    StaysInside stem := by
  have hpieces := Text.splitChars_of_not_sep (Text.beq_eq_false_of_not_mem h)
  refine ⟨fun hhead => h (List.mem_of_head? hhead), ?_⟩
  rw [directoriesOf, Text.splitAt, Text.splitAtAny, hpieces]
  rfl

/-- The last step of a file is its name, the steps before it the directories of its stem. -/
theorem steps_ofString_append (stem : String) {ending : String} (hslash : '/' ∉ ending.toList)
    (hunderscore : '_' ∈ ending.toList) :
    ∃ name, '_' ∈ name.toList ∧
      (ofString (stem ++ ending)).steps = directoriesOf stem ++ [name] := by
  obtain ⟨before, last, hsplit⟩ : ∃ before last,
      Text.splitChars (· == '/') stem.toList = before ++ [last] :=
    (List.eq_nil_or_concat' _).resolve_left (Text.splitChars_ne_nil _ _)
  have hsep := Text.beq_eq_false_of_not_mem hslash
  have hname : '_' ∈ (String.ofList (last ++ ending.toList)).toList := by
    rw [String.toList_ofList]
    exact List.mem_append_right last hunderscore
  have hstep : isStep (String.ofList (last ++ ending.toList)) = true := by
    unfold isStep
    rw [Bool.and_eq_true, bne_iff_ne, bne_iff_ne]
    constructor
    · intro hempty
      rw [hempty] at hname
      exact absurd hname (by decide)
    · intro hdot
      rw [hdot] at hname
      exact absurd hname (by decide)
  refine ⟨_, hname, ?_⟩
  rw [ofString, directoriesOf, Text.splitAt, Text.splitAt, Text.splitAtAny, Text.splitAtAny,
    String.toList_append, Text.splitChars_append hsep hsplit, hsplit]
  simp only [List.map_append, List.map_singleton, List.filter_append, List.dropLast_concat]
  rw [List.filter_singleton, hstep]
  rfl

theorem descends_append_iff {stem ending : String} (hslash : '/' ∉ ending.toList)
    (hunderscore : '_' ∈ ending.toList) :
    (ofString (stem ++ ending)).Descends ↔ StaysInside stem := by
  obtain ⟨name, hname, hsteps⟩ := steps_ofString_append stem hslash hunderscore
  have hback : name ≠ Place.back := by
    rintro rfl
    exact absurd hname (by decide)
  have hstart : (ofString (stem ++ ending)).start = .here ↔ stem.toList.head? ≠ some '/' := by
    rw [ofString, startOf_eq_here_iff, String.toList_append]
    cases hchars : stem.toList with
    | nil =>
        have hhead : ending.toList.head? ≠ some '/' := fun h => hslash (List.mem_of_head? h)
        simp [hhead]
    | cons c cs => rfl
  unfold Descends StaysInside
  rw [hstart, hsteps, Place.descend_append, Option.isSome_iff_exists]
  refine and_congr_right fun _ => ⟨?_, ?_⟩
  · rintro ⟨names, -, hdescend⟩
    obtain ⟨reached, hreached, -⟩ := Option.bind_eq_some_iff.1 hdescend
    exact ⟨reached, hreached⟩
  · rintro ⟨reached, hreached⟩
    refine ⟨reached ++ [name], List.append_ne_nil_of_right_ne_nil _ (List.cons_ne_nil _ _), ?_⟩
    rw [hreached, Option.bind_some, Place.descend, if_neg hback]
    rfl

end Storage.Path

namespace Generation

open Storage

/-- The files with a stem descend exactly if the stem stays inside. -/
theorem descends_iff_of_mem_stemPaths {options : Options} {stem path : String}
    (h : path ∈ stemPaths options stem) :
    (Path.ofString path).Descends ↔ Path.StaysInside stem := by
  have hcreate : (Path.ofString (createPath stem)).Descends ↔ Path.StaysInside stem :=
    Path.descends_append_iff (by decide) (by decide)
  have hdrop : (Path.ofString (dropPath stem)).Descends ↔ Path.StaysInside stem :=
    Path.descends_append_iff (by decide) (by decide)
  unfold stemPaths at h
  rcases List.mem_cons.1 h with rfl | h
  · exact hcreate
  · split at h
    · rw [List.mem_singleton.1 h]
      exact hdrop
    · cases h

/-- Whether no name that stems are made of has a slash. -/
def HasPlainNames (project : Project) : Prop :=
  ∀ dataModel ∈ project.dataModels, '/' ∉ dataModel.name.toList ∧
    ∀ diagram, .diagram diagram ∈ dataModel.members → '/' ∉ diagram.name.toList

theorem staysInside_of_hasPlainNames {project : Project} (h : HasPlainNames project)
    {options : Options} {stem : String} (hstem : stem ∈ writtenStems options (artifacts project)) :
    Path.StaysInside stem := by
  obtain ⟨artifact, hartifact, rfl⟩ := List.mem_map.1 hstem
  refine Path.staysInside_of_not_slash_mem ?_
  have hjoin : ∀ {s t : String}, '/' ∉ s.toList → '/' ∉ t.toList →
      '/' ∉ (s ++ "_" ++ t).toList := by
    intro s t hs ht hslash
    simp only [String.toList_append, List.mem_append] at hslash
    rcases hslash with (hslash | hslash) | hslash
    · exact hs hslash
    · exact absurd hslash (by decide)
    · exact ht hslash
  have hnormal : ∀ {name : String}, '/' ∉ name.toList → '/' ∉ (Naming.normalize name).toList :=
    fun hname hslash => hname (Naming.slash_mem_of_mem_normalize hslash)
  rcases List.mem_append.1 (List.mem_filter.1 hartifact).1 with hmem | hmem
  · rcases List.mem_cons.1 hmem with rfl | hmem
    · exact show '/' ∉ databaseStem.toList by decide
    · obtain ⟨dataModel, hmodel, hmem⟩ := List.mem_flatMap.1 hmem
      obtain ⟨hname, hdiagrams⟩ := h dataModel hmodel
      rcases List.mem_append.1 hmem with hmem | hmem
      · rcases List.mem_cons.1 hmem with rfl | hmem
        · exact hjoin (hnormal hname) (by decide)
        · rw [List.mem_singleton.1 hmem]
          exact hjoin (hnormal hname) (by decide)
      · split at hmem
        · cases hmem
        · obtain ⟨file, hfile, rfl⟩ := List.mem_map.1 hmem
          rcases TableFile.mem_tableFiles hfile with ⟨diagram, hdiagram, rfl⟩ | rfl
          · exact hjoin (hnormal hname) (hnormal (hdiagrams diagram hdiagram))
          · have hloose := hjoin (hnormal hname) (t := "table") (by decide)
            rw [String.append_assoc] at hloose
            exact hloose
  · rw [List.mem_singleton.1 hmem]
    exact show '/' ∉ schemaStem.toList by decide

/-- What becomes of a tree in a run that hands the given scripts to a sink below a directory. -/
structure Run.Confines (run : Run Local) (generator : Generator Local) (project : Project)
    (handed : List (String × Sql.Script)) : Prop where
  sink : run.sink = written generator.sink
    (handed.map fun (path, script) => (path, script.text))
  /-- A file is handed over for a stem, and goes below every directory exactly if the stem stays
  inside. -/
  isBelow_iff : ∀ file ∈ handed, ∃ stem ∈ writtenStems generator.options (artifacts project),
    file.1 ∈ stemPaths generator.options stem ∧
      ((∀ base : Path, (base.join (.ofString file.1)).place.IsBelow base.place) ↔
        Path.StaysInside stem)
  /-- Every file of the result is where its path leads. -/
  files : ∀ path ∈ run.result.files, ∃ contents,
    run.sink.tree.get? (generator.sink.target path).place = some (.file contents)
  /-- Nothing else has changed but for directories on the way to files. -/
  grown : Tree.GrownAt (fun place => ∃ file ∈ handed, place = (generator.sink.target file.1).place)
    (fun place => ∃ file ∈ handed, (generator.sink.target file.1).parent.Passes place)
    generator.sink.tree run.sink.tree
  /-- If all stems stay inside, nothing outside the directory has changed but for directories on
  the way to it. -/
  outside : (∀ stem ∈ writtenStems generator.options (artifacts project), Path.StaysInside stem) →
    ∀ place : Place, ¬ place.IsBelow generator.sink.base.place →
      run.sink.tree.get? place = generator.sink.tree.get? place ∨
        generator.sink.base.Passes place ∧ generator.sink.tree.get? place = none ∧
          run.sink.tree.get? place = some .directory
  plain : HasPlainNames project →
    ∀ stem ∈ writtenStems generator.options (artifacts project), Path.StaysInside stem

/-- Every file that is delivered is where its path leads. -/
theorem exists_file_of_mem_deliver {sink : Local} {events : List Event} {file : String × String}
    (hfile : file ∈ Event.files (deliver sink events).done) :
    ∃ contents, (deliver sink events).sink.tree.get? (sink.target file.1).place =
      some (.file contents) := by
  induction events generalizing sink with
  | nil => cases hfile
  | cons event events ih =>
      cases hevent : event.file? with
      | none =>
          rw [deliver_cons_of_file?_eq_none hevent, files_cons_of_none hevent] at hfile
          rw [deliver_cons_of_file?_eq_none hevent]
          exact ih hfile
      | some written =>
          obtain ⟨path, text⟩ := written
          cases hwrite : (Sink.write sink path text).2 with
          | some fault =>
              rw [deliver_cons_of_fault hevent hwrite] at hfile
              cases hfile
          | none =>
              rw [deliver_cons_of_written hevent hwrite, files_cons_of_some hevent] at hfile
              rw [deliver_cons_of_written hevent hwrite]
              have hbase := Local.base_write sink path text
              rcases List.mem_cons.1 hfile with rfl | hfile
              · -- later writes may replace the file, but not take it away
                simp only [sink_deliver]
                exact (grownAt_written _ _).2.exists_file (Local.exists_file_of_write hwrite)
              · have hlater := ih hfile
                rwa [Local.target, hbase] at hlater

namespace Generator

theorem exists_stem_of_mem_attempts {σ : Type} [Sink σ] (generator : Generator σ)
    (project : Project) {file : String × Sql.Script} (h : file ∈ generator.attempts project) :
    ∃ stem ∈ writtenStems generator.options (artifacts project),
      file.1 ∈ stemPaths generator.options stem := by
  obtain ⟨unit, hunit⟩ : ∃ unit, generator.options.indentUnit = .ok unit := by
    obtain ⟨artifact, -, hfile⟩ :=
      List.mem_flatMap.1 ((attempts_isPrefix generator project).subset h)
    cases hunit : generator.options.indentUnit with
    | ok unit => exact ⟨unit, rfl⟩
    | error fault =>
        rw [Artifact.files, hunit] at hfile
        cases hfile
  have hpath := List.mem_map_of_mem (f := (·.1)) ((attempts_isPrefix generator project).subset h)
  rw [projectFiles, map_fst_flatMap_files hunit] at hpath
  exact List.mem_flatMap.1 hpath

/-- A run stays below its directory, whichever it is, exactly where its stems stay inside. -/
theorem generate_confines (generator : Generator Local) (moment : Log.Moment)
    (project : Project) :
    (generator.generate moment (some (.project project))).Confines generator project
      (generator.attempts project) := by
  change (generator.generateProject moment project).Confines generator project
    (generator.attempts project)
  have hsink := sink_generateProject generator moment project
  have hgrown := (grownAt_written generator.sink
    ((generator.attempts project).map fun (path, script) => (path, script.text))).2
  rw [← hsink] at hgrown
  simp only [List.mem_map, exists_exists_and_eq_and] at hgrown
  have hplain : HasPlainNames project →
      ∀ stem ∈ writtenStems generator.options (artifacts project), Path.StaysInside stem :=
    fun h stem hstem => staysInside_of_hasPlainNames h hstem
  refine ⟨hsink, ?_, ?_, hgrown, ?_, hplain⟩
  · intro file hfile
    obtain ⟨stem, hstem, hpath⟩ := exists_stem_of_mem_attempts generator project hfile
    refine ⟨stem, hstem, hpath, ?_⟩
    rw [Path.isBelow_place_join_iff (Path.rootName_not_mem_steps file.1)]
    exact descends_iff_of_mem_stemPaths hpath
  · intro path hpath
    rw [files_result] at hpath
    obtain ⟨file, hfile, rfl⟩ := List.mem_map.1 hpath
    exact exists_file_of_mem_deliver hfile
  · intro hstems place hplace
    have hdescends : ∀ file ∈ generator.attempts project, (Path.ofString file.1).Descends := by
      intro file hfile
      obtain ⟨stem, hstem, hpath⟩ := exists_stem_of_mem_attempts generator project hfile
      exact (descends_iff_of_mem_stemPaths hpath).2 (hstems stem hstem)
    rcases hgrown place with hkept | ⟨⟨file, hfile, rfl⟩, -⟩ | ⟨⟨file, hfile, hpasses⟩, hmade⟩
    · exact Or.inl hkept
    · have hbelow := (Path.isBelow_place_join_iff (Path.rootName_not_mem_steps file.1)).2
        (hdescends file hfile) generator.sink.base
      exact absurd hbelow hplace
    · rcases Path.passes_parent_join (Path.rootName_not_mem_steps file.1)
        (hdescends file hfile) hpasses with hway | hbelow
      · exact Or.inr ⟨hway, hmade⟩
      · exact absurd hbelow hplace

/-- A project with a data model whose name leads to the directory above. -/
def aboveProject : Project :=
  { name := "Shop", dataModels := [{
      name := "../Sales"
      members := [.entity { name := "Purchase" }] }] }

def outGenerator : Generator Local :=
  { sink := { base := .ofString "out" } }

/-- The run of the project below a directory. -/
def aboveRun : Run Local :=
  outGenerator.generate ⟨2024, 1, 1, 0, 0, 0, 0⟩ (some (.project aboveProject))

/-- The run succeeds, and its tables are beside the directory. -/
theorem generate_confines_above :
    aboveRun.result.success = true ∧
      aboveRun.result.files =
        ["db_create.sql", "db_drop.sql", "../sales_table_create.sql",
          "../sales_table_drop.sql"] ∧
      ¬ Path.StaysInside "../sales_table" ∧
      (∃ contents,
        aboveRun.sink.tree.get? ["sales_table_create.sql"] = some (.file contents)) ∧
      ¬ Place.IsBelow ["sales_table_create.sql"] outGenerator.sink.base.place := by
  have hfiles : aboveRun.result.files =
      ["db_create.sql", "db_drop.sql", "../sales_table_create.sql",
        "../sales_table_drop.sql"] := by decide +kernel
  have hmem : "../sales_table_create.sql" ∈ aboveRun.result.files := by
    rw [hfiles]
    decide
  have hplace : (outGenerator.sink.target "../sales_table_create.sql").place =
      ["sales_table_create.sql"] := by decide +kernel
  have hfile := (generate_confines outGenerator ⟨2024, 1, 1, 0, 0, 0, 0⟩ aboveProject).files
    _ hmem
  rw [hplace] at hfile
  refine ⟨by decide +kernel, hfiles, by decide, hfile, ?_⟩
  rintro ⟨names, -, -, -, hbelow⟩
  have hbase : outGenerator.sink.base.place = ["out"] := by decide +kernel
  rw [hbase] at hbelow
  exact absurd (List.cons.inj hbelow).1 (by decide)

end Generator

end Generation
end ErdSql
