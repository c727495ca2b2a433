import ErdSql.Proofs.Identifiers
import ErdSql.Proofs.ReliableRuns
import ErdSql.Proofs.Retagging

/-!
# Generating a project again

A run may give its project a tag with the name of the database.  The name that is kept in this
way is found again by the next run, and nothing else of what is generated depends on the tags of
the project; so the next run does the same and changes the project no more.
-/

namespace ErdSql

/-- What an event shows to the modeller; the log and the tags of the project are not among
it. -/
def Event.shown? (event : Event) : Option Action :=
  match event.action with
  | .report diagnostic => some (.report diagnostic)
  | .write path script => some (.write path script)
  | .conclude step => some (.conclude step)
  | _ => none

theorem Event.output?_eq_shown? (event : Event) :
    event.output? =
      event.shown?.bind fun action => { action := action : Event }.output? := by
  obtain ⟨context, action⟩ := event
  cases action <;> rfl

theorem Event.diagnostic?_eq_shown? (event : Event) :
    event.diagnostic? =
      event.shown?.bind fun action => { action := action : Event }.diagnostic? := by
  obtain ⟨context, action⟩ := event
  cases action <;> rfl

/-- The tags that a project is given for the name of its database: one, unless it has such a tag
or its normalised name cannot be used. -/
def Project.databaseTags (project : Project) : Tags :=
  if project.tags.find? "database" = none ∧
      Naming.isIdentifier (Naming.normalize project.name) = true then
    [.ofString "database" (Naming.normalize project.name)]
  else []

namespace Naming

variable {project : Element}

/-- The name of the database of a project without a tag for it. -/
theorem databaseName_of_find?_eq_none (h : project.tags.find? "database" = none) :
    databaseName project =
      if isIdentifier (normalize project.name) then
        ⟨normalize project.name, none, some (.ofString "database" (normalize project.name))⟩
      else
        ⟨Text.lower (normalize project.name),
          some (.database (normalize project.name) project.name), none⟩ := by
  have hcandidate : candidate "database" project = normalize project.name := by
    unfold candidate Tags.valueOf
    rw [h]
    rfl
  unfold databaseName
  simp only [hcandidate, h, Option.isSome_none]
  by_cases hname : isIdentifier (normalize project.name) = true
  · have hlower : Text.lower (normalize project.name) = normalize project.name :=
      lower_lower hname
    rw [if_pos hname, if_pos hname, hlower]
    rfl
  · rw [if_neg hname, if_neg hname]

/-- A project with a tag for the name of its database is assigned none. -/
theorem assignment_of_find?_isSome (h : (project.tags.find? "database").isSome = true) :
    (databaseName project).assignment = none := by
  unfold databaseName
  simp only [h]
  split <;> rfl

theorem assignment_databaseName (project : Project) :
    (databaseName project.toElement).assignment.toList = project.databaseTags := by
  unfold Project.databaseTags
  cases htag : project.tags.find? "database" with
  | some tag =>
      have hsome : (project.tags.find? "database").isSome = true := by rw [htag]; rfl
      rw [assignment_of_find?_isSome hsome, if_neg (by simp)]
      rfl
  | none =>
      rw [databaseName_of_find?_eq_none htag]
      by_cases hname : isIdentifier (normalize project.name) = true
      · simp [hname]
      · simp [hname]

/-- The name that is kept is found again, and nothing is assigned then. -/
theorem databaseName_tagged (project : Project) :
    databaseName (project.tagged project.databaseTags).toElement =
      { databaseName project.toElement with assignment := none } := by
  unfold Project.databaseTags
  by_cases hkept : project.tags.find? "database" = none ∧
      isIdentifier (normalize project.name) = true
  · obtain ⟨hnone, hname⟩ := hkept
    rw [if_pos ⟨hnone, hname⟩, databaseName_of_find?_eq_none hnone, if_pos hname]
    have hlower : Text.lower (normalize project.name) = normalize project.name :=
      lower_lower hname
    have hfind : (project.tagged
        [.ofString "database" (normalize project.name)]).tags.find? "database" =
          some (.ofString "database" (normalize project.name)) := by
      unfold Project.tagged Tags.find? at *
      rw [List.find?_append, hnone]
      rfl
    have hempty : normalize project.name ≠ "" := by
      intro hempty
      rw [hempty] at hname
      exact absurd hname (by decide)
    have hcandidate : candidate "database"
        (project.tagged [.ofString "database" (normalize project.name)]).toElement =
          normalize project.name := by
      unfold candidate Tags.valueOf
      rw [hfind]
      exact if_neg hempty
    unfold databaseName
    simp only [hcandidate, hfind, hname, hlower, if_true, Option.isSome_some]
  · rw [if_neg hkept]
    have hsame : project.tagged [] = project := by
      unfold Project.tagged
      rw [List.append_nil]
    have hassignment : (databaseName project.toElement).assignment = none := by
      refine Option.toList_eq_nil_iff.1 ?_
      rw [assignment_databaseName, Project.databaseTags, if_neg hkept]
    rw [hsame, ← hassignment]

end Naming

namespace Generation

open Plan Storage

section Plans

variable (options : Options) (location : String) (project : Project)

theorem agree_database_tagged :
    Agree Event.shown? (database options (project.tagged project.databaseTags))
      (database options project) := by
  unfold database
  simp only [Naming.databaseName_tagged]
  refine agree_bind (agree_emit ?_) fun _ _ => .refl _
  unfold databaseNameEvents
  cases (Naming.databaseName project.toElement).fault <;>
    cases (Naming.databaseName project.toElement).assignment <;> rfl

theorem schemas_tagged :
    schemas options (project.tagged project.databaseTags) = schemas options project := by
  have htable : project.databaseTags.find? "table" = none := by
    unfold Project.databaseTags
    split <;> rfl
  unfold schemas
  rw [Index.ofProject_tagged]
  simp only [dataModels_of_resolvesAlike (Index.resolvesAlike_tagged htable _)]
  rfl

/-- The plan of a project shows the same once the project has its tag. -/
theorem agree_projectPlan_tagged :
    Agree Event.shown? (projectPlan options location (project.tagged project.databaseTags))
      (projectPlan options location project) := by
  rw [projectPlan_eq, projectPlan_eq, schemas_tagged]
  exact agree_bind (agree_database_tagged options project) fun _ _ => .refl _

end Plans

namespace Generator

variable {σ : Type} [Sink σ] {generator : Generator σ}

/-- A run changes its project by the tag for the name of its database only. -/
theorem after_generateProject (hsink : NeverFails generator.sink) (moment : Log.Moment)
    (project : Project) :
    project.after (generator.generateProject moment project).events =
      project.tagged project.databaseTags := by
  unfold Project.after
  rw [assignedTags_of_neverFails hsink, Naming.assignment_databaseName]
  rfl

theorem neverFails_after (hsink : NeverFails generator.sink) (moment : Log.Moment)
    (project : Project) :
    NeverFails (generator.after (generator.generateProject moment project)).sink := by
  change NeverFails (generator.generateProject moment project).sink
  rw [sink_of_neverFails hsink]
  exact NeverFails.written hsink _

/-- The next run names the place that the first one names. -/
theorem location_after [LawfulSink σ] (hsink : NeverFails generator.sink) (moment : Log.Moment)
    (project : Project) :
    Sink.location (generator.after (generator.generateProject moment project)).sink =
      Sink.location generator.sink := by
  change Sink.location (generator.generateProject moment project).sink = _
  rw [sink_of_neverFails hsink, location_written]

end Generator

end Generation
end ErdSql
