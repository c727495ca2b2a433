import ErdSql.Proofs.FirstOccurrences
import ErdSql.Proofs.NumberOrder
import ErdSql.Proofs.TableScripts

/-!
# Indexes that the modeller asked for

Each `index` tag makes its column a member of the index that its value names.  There is one index
for each of these names, in the order in which the names first occur, and every membership that a
column with a name declares is in the index that it names, once.  The members of an index stand in
the order of their numbers; where these tie, in the order in which they are declared.
-/

namespace ErdSql

/-- Sorting leaves what ties in its order. -/
theorem pairwise_mergeSort_of_pairwise {α : Type} {le : α → α → Bool} {r : α → α → Prop}
    (trans : ∀ a b c, le a b = true → le b c = true → le a c = true)
    (total : ∀ a b, (le a b || le b a) = true) {l : List α} (h : l.Pairwise r) :
    (l.mergeSort le).Pairwise fun a b => le a b = true ∧ (le b a = true → r a b) := by
  induction l with
  | nil => simp
  | cons a l ih =>
      obtain ⟨hfirst, hrest⟩ := List.pairwise_cons.1 h
      obtain ⟨before, after, hsort, hsorted, hbefore⟩ := List.mergeSort_cons trans total a l
      have hle := List.pairwise_mergeSort trans total (a :: l)
      have hpairs := ih hrest
      rw [hsorted] at hpairs
      rw [hsort] at hle ⊢
      obtain ⟨hbefores, hafters, hacross⟩ := List.pairwise_append.1 hpairs
      obtain ⟨-, hlast, hmiddle⟩ := List.pairwise_append.1 hle
      refine List.pairwise_append.2 ⟨hbefores, List.pairwise_cons.2 ⟨fun b hb => ?_, hafters⟩,
        fun b hb c hc => ?_⟩
      · have hmem : b ∈ l.mergeSort le := by
          rw [hsorted]
          exact List.mem_append_right _ hb
        exact ⟨List.rel_of_pairwise_cons hlast hb,
          fun _ => hfirst b (List.mem_mergeSort.1 hmem)⟩
      · rcases List.mem_cons.1 hc with rfl | hc
        · -- what stands before the first one is not tied with it
          have hnot := hbefore b hb
          exact ⟨hmiddle b hb _ (List.mem_cons_self ..), fun hle => by simp [hle] at hnot⟩
        · exact hacross b hb c hc

namespace Binary64

theorem le_trans (x y z : Binary64) (hxy : x.le y = true) (hyz : y.le z = true) :
    x.le z = true := by
  simp only [le, decide_eq_true_eq] at *
  omega

theorem le_total (x y : Binary64) : (x.le y || y.le x) = true := by
  simp only [le, Bool.or_eq_true, decide_eq_true_eq]
  omega

end Binary64

namespace Table

/-- The membership in an index that a tag gives to a column: the places of the column and of the
tag on it, the name of the column, and the tag. -/
structure Membership where
  column : Nat
  place : Nat
  name : String
  tag : Tag

namespace Membership

def member (m : Membership) : Sql.IndexMember :=
  ⟨m.name, m.tag.checked⟩

/-- The member as it is written: a checked tag turns its order around. -/
def text (m : Membership) : String :=
  if m.tag.checked = true then m.name ++ " DESC" else m.name

/-- Whether a membership is declared before another: by an earlier column, or by an earlier tag
of the same column. -/
def DeclaredBefore (m n : Membership) : Prop :=
  m.column < n.column ∨ m.column = n.column ∧ m.place < n.place

/-- Whether a member comes before another one in their index: by its number, or by its
declaration if the numbers tie. -/
def Precedes (m n : Membership) : Prop :=
  m.tag.number.value < n.tag.number.value ∨
    m.tag.number.value = n.tag.number.value ∧ m.DeclaredBefore n

end Membership

/-- The memberships that a column at the given place declares, if it has a name. -/
def columnMemberships (column : Column) (place : Nat) : List Membership :=
  match Naming.columnName column.toElement with
  | .error _ => []
  | .ok name =>
      (column.tags.zipIdx.filter fun (tag, _) => tag.name = "index").map fun (tag, tagPlace) =>
        ⟨place, tagPlace, name, tag⟩

/-- The memberships that the columns of an entity declare, in order. -/
def memberships (entity : Entity) : List Membership :=
  entity.columns.zipIdx.flatMap fun (column, place) => columnMemberships column place

/-- Indexes with their members, each of which has the memberships that name it. -/
structure IsGrouping (entity : Entity) (groups : List (String × List Membership)) : Prop where
  nodup : (groups.map (·.1)).Nodup
  mem_iff : ∀ index, index ∈ groups.map (·.1) ↔ ∃ m ∈ memberships entity, m.tag.value = index
  /-- What is named first comes first. -/
  ordered : (groups.map (·.1)).Pairwise fun first second =>
    ((memberships entity).map (·.tag.value)).idxOf first <
      ((memberships entity).map (·.tag.value)).idxOf second
  members : ∀ group ∈ groups,
    group.2.Perm ((memberships entity).filter fun m => m.tag.value = group.1)
  sorted : ∀ group ∈ groups, group.2.Pairwise Membership.Precedes
  /-- No membership is lost or counted twice. -/
  complete : (groups.flatMap (·.2)).Perm (memberships entity)

/-- The lines that make the indexes of the groups. -/
def indexItems (table : String) (groups : List (String × List Membership)) :
    List Sql.ScriptItem :=
  groups.flatMap fun (index, members) =>
    [⟨0, .text ("-- Index: " ++ index)⟩,
      ⟨0, .statement (.createIndex table (members.map (·.member)))⟩, ⟨0, .blank⟩]

/-- Lines that make one index for each group of memberships. -/
def MakesIndexes (table : String) (entity : Entity) (items : List Sql.ScriptItem) : Prop :=
  ∃ groups, IsGrouping entity groups ∧ items = indexItems table groups ∧
    ∀ group ∈ groups, (Sql.Statement.createIndex table (group.2.map (·.member))).text =
      "CREATE INDEX ON " ++ table ++ " (" ++ String.intercalate ", " (group.2.map (·.text)) ++ ");"

section Memberships

variable (table : String) (entity : Entity)

theorem pairwise_zipIdx {α : Type} (l : List α) (start : Nat) :
    (l.zipIdx start).Pairwise fun a b => a.2 < b.2 := by
  rw [← List.pairwise_map (f := Prod.snd), List.zipIdx_map_snd]
  exact List.pairwise_lt_range'

/-- The memberships stand in the order in which they are declared. -/
theorem pairwise_memberships : (memberships entity).Pairwise Membership.DeclaredBefore := by
  have hcolumn : ∀ (column : Column) (place : Nat) (m : Membership),
      m ∈ columnMemberships column place → m.column = place := by
    intro column place m hm
    unfold columnMemberships at hm
    split at hm
    · cases hm
    · obtain ⟨tag, -, rfl⟩ := List.mem_map.1 hm
      rfl
  refine List.pairwise_flatMap.2 ⟨fun (column, place) _ => ?_, ?_⟩
  · dsimp only
    unfold columnMemberships
    split
    · exact List.Pairwise.nil
    · rw [List.pairwise_map]
      exact ((pairwise_zipIdx column.tags 0).filter _).imp fun hlt => Or.inr ⟨rfl, hlt⟩
  · refine (pairwise_zipIdx entity.columns 0).imp fun hlt m hm n hn => Or.inl ?_
    rw [hcolumn _ _ m hm, hcolumn _ _ n hn]
    exact hlt

/-- A membership is declared by an `index` tag of a column. -/
theorem exists_of_mem_memberships {m : Membership} (h : m ∈ memberships entity) :
    ∃ column ∈ entity.columns, ∃ tag ∈ column.tags, tag.name = "index" ∧ m.tag = tag := by
  obtain ⟨⟨column, place⟩, hcolumn, hm⟩ := List.mem_flatMap.1 h
  dsimp only at hm
  unfold columnMemberships at hm
  split at hm
  · cases hm
  · obtain ⟨⟨tag, tagPlace⟩, htag, rfl⟩ := List.mem_map.1 hm
    obtain ⟨htag, hname⟩ := List.mem_filter.1 htag
    exact ⟨column, List.fst_mem_of_mem_zipIdx hcolumn, tag, List.fst_mem_of_mem_zipIdx htag,
      by simpa using hname, rfl⟩

/-- The entry that a membership makes. -/
def Membership.entry (m : Membership) : IndexEntry :=
  ⟨m.tag.value, m.tag.number, m.member⟩

theorem map_entry_columnMemberships (column : Column) (place : Nat) :
    (columnMemberships column place).map (·.entry) =
      match Naming.columnName column.toElement with
      | .error _ => []
      | .ok name => (column.tags.named "index").map fun tag =>
          ⟨tag.value, tag.number, ⟨name, tag.checked⟩⟩ := by
  unfold columnMemberships
  cases Naming.columnName column.toElement with
  | error fault => rfl
  | ok name =>
      have htags : column.tags.named "index" =
          (column.tags.zipIdx.filter fun (tag, _) => tag.name = "index").map (·.1) := by
        have hplain := List.zipIdx_map_fst 0 column.tags
        conv_lhs => rw [Tags.named, ← hplain, List.filter_map]
        rfl
      simp only [htags, List.map_map]
      rfl

theorem indexEntries_tableColumns :
    indexEntries (tableColumns table entity) = (memberships entity).map (·.entry) := by
  have hplain := List.zipIdx_map_fst 0 entity.columns
  rw [memberships, List.map_flatMap]
  simp only [map_entry_columnMemberships]
  rw [← List.flatMap_map (f := Prod.fst) (g := fun column : Column =>
    match Naming.columnName column.toElement with
    | .error _ => []
    | .ok name => (column.tags.named "index").map fun tag =>
        (⟨tag.value, tag.number, ⟨name, tag.checked⟩⟩ : IndexEntry)), hplain, indexEntries,
    tableColumns_eq, List.filterMap_eq_flatMap_toList, List.flatMap_assoc]
  refine List.flatMap_congr fun column _ => ?_
  cases Naming.columnName column.toElement with
  | error fault => rfl
  | ok name => exact List.append_nil _

end Memberships

section Groups

variable (table : String) (entity : Entity)

/-- The members of the index with the given name. -/
def groupMembers (index : String) : List Membership :=
  ((memberships entity).filter fun m => m.tag.value = index).mergeSort
    fun m n => m.tag.number.le n.tag.number

/-- The indexes that the columns of an entity ask for, with their members. -/
def indexGroups : List (String × List Membership) :=
  (firstOccurrences ((memberships entity).map (·.tag.value))).map fun index =>
    (index, groupMembers entity index)

theorem map_fst_indexGroups :
    (indexGroups entity).map (·.1) = firstOccurrences ((memberships entity).map (·.tag.value)) := by
  rw [indexGroups, List.map_map]
  exact List.map_id _

theorem groupMembers_perm (index : String) :
    (groupMembers entity index).Perm ((memberships entity).filter fun m => m.tag.value = index) :=
  List.mergeSort_perm _ _

theorem indexMembers_eq (index : String) :
    indexMembers index ((memberships entity).map (·.entry)) =
      (groupMembers entity index).map (·.member) := by
  have hfilter : ((memberships entity).map (·.entry)).filter (fun e => e.index == index) =
      ((memberships entity).filter fun m => m.tag.value = index).map (·.entry) := by
    rw [List.filter_map]
    rfl
  rw [indexMembers, hfilter, groupMembers,
    ← List.map_mergeSort (f := Membership.entry) (r := fun m n => m.tag.number.le n.tag.number)
      fun _ _ _ _ => rfl, List.map_map]
  rfl

theorem createItems_userIndexEdits :
    (userIndexEdits table (tableColumns table entity)).filterMap Edit.createItem? =
      indexItems table (indexGroups entity) := by
  rw [userIndexEdits, indexEntries_tableColumns, indexItems, indexGroups, List.map_map,
    List.filterMap_flatMap, List.flatMap_map]
  simp only [indexMembers_eq]
  rfl

theorem text_createIndex (members : List Membership) :
    (Sql.Statement.createIndex table (members.map (·.member))).text =
      "CREATE INDEX ON " ++ table ++ " (" ++ String.intercalate ", " (members.map (·.text)) ++
        ");" := by
  have htexts : (members.map (·.member)).map (·.text) = members.map (·.text) := by
    rw [List.map_map]
    rfl
  change "CREATE INDEX ON " ++ table ++ " (" ++
    String.intercalate ", " ((members.map (·.member)).map (·.text)) ++ ");" = _
  rw [htexts]

/-- Grouping by all the keys there are loses nothing. -/
theorem flatMap_filter_perm {α : Type} (key : α → String) (l : List α) {keys : List String}
    (hnodup : keys.Nodup) (hall : ∀ a ∈ l, key a ∈ keys) :
    (keys.flatMap fun k => l.filter fun a => key a = k).Perm l := by
  induction keys generalizing l with
  | nil =>
      cases l with
      | nil => exact List.Perm.refl _
      | cons a l => exact absurd (hall a (List.mem_cons_self ..)) List.not_mem_nil
  | cons k keys ih =>
      obtain ⟨hk, hkeys⟩ := List.nodup_cons.1 hnodup
      have hrest := ih (l.filter fun a => !decide (key a = k)) hkeys fun a ha => by
        obtain ⟨ha, hne⟩ := List.mem_filter.1 ha
        exact (List.mem_cons.1 (hall a ha)).resolve_left (by simpa using hne)
      have hsame : (keys.flatMap fun k' => (l.filter fun a => !decide (key a = k)).filter
          fun a => key a = k') = keys.flatMap fun k' => l.filter fun a => key a = k' := by
        refine List.flatMap_congr fun k' hk' => ?_
        rw [List.filter_filter]
        refine List.filter_congr fun a _ => ?_
        by_cases ha : key a = k'
        · have hne : k' ≠ k := fun heq => hk (heq ▸ hk')
          simp [ha, hne]
        · simp [ha]
      rw [hsame] at hrest
      exact (hrest.append_left _).trans (List.filter_append_perm _ l)

/-- The indexes group the memberships. -/
theorem isGrouping_indexGroups
    (hnumbers : ∀ m ∈ memberships entity, m.tag.number.isNaN = false) :
    IsGrouping entity (indexGroups entity) := by
  have hgroup : ∀ {group}, group ∈ indexGroups entity →
      group.2 = groupMembers entity group.1 := by
    intro group hgroup
    obtain ⟨index, -, rfl⟩ := List.mem_map.1 hgroup
    rfl
  constructor
  · rw [map_fst_indexGroups]
    exact nodup_firstOccurrences _
  · intro index
    rw [map_fst_indexGroups, mem_firstOccurrences, List.mem_map]
  · rw [map_fst_indexGroups]
    exact pairwise_firstOccurrences _
  · intro group hmem
    rw [hgroup hmem]
    exact groupMembers_perm entity _
  · intro group hmem
    rw [hgroup hmem]
    have hnumber : ∀ m ∈ groupMembers entity group.1, m.tag.number.isNaN = false := fun m hm =>
      hnumbers m (List.mem_filter.1 ((groupMembers_perm entity _).mem_iff.1 hm)).1
    have hsorted : (groupMembers entity group.1).Pairwise fun m n =>
        m.tag.number.le n.tag.number = true ∧
          (n.tag.number.le m.tag.number = true → m.DeclaredBefore n) := by
      refine pairwise_mergeSort_of_pairwise (fun m n o => ?_) (fun m n => ?_)
        ((pairwise_memberships entity).filter _)
      · exact Binary64.le_trans m.tag.number n.tag.number o.tag.number
      · exact Binary64.le_total m.tag.number n.tag.number
    refine hsorted.imp_of_mem fun {m n} hm hn hpair => ?_
    have hle := (Binary64.le_iff_value_le (hnumber m hm) (hnumber n hn)).1 hpair.1
    rcases hle.lt_or_eq with hlt | heq
    · exact Or.inl hlt
    · exact Or.inr ⟨heq, hpair.2
        ((Binary64.le_iff_value_le (hnumber n hn) (hnumber m hm)).2 heq.ge)⟩
  · have hperm := flatMap_filter_perm (fun m => m.tag.value) (memberships entity)
      (nodup_firstOccurrences ((memberships entity).map (·.tag.value)))
      fun m hm => mem_firstOccurrences.2 (List.mem_map_of_mem hm)
    rw [indexGroups, List.flatMap_map]
    exact (List.Perm.flatMap_left _ fun index _ => groupMembers_perm entity index).trans hperm

/-- The changes that make the indexes can always be made. -/
theorem all_isAccepted_userIndexEdits (flushed : Bool) :
    (userIndexEdits table (tableColumns table entity)).all (Edit.isAccepted flushed) = true :=
  all_userIndexEdits table rfl (fun _ => rfl) (fun _ => rfl) _

end Groups

section Runs

variable (options : Options) (index : Index) (schema tablePrefix : String) (entity : Entity)

/-- After its layout, generating a table makes one index for each name that an `index` tag of a
column with a name gives, and nothing that is written after them makes another one.  Each index has
the memberships that name it as its members, by number and then in the order in which they are
declared.  A run that comes to the table has written all of them. -/
theorem run_entityEdits_indexes {tableName : String}
    (h : Naming.prefixedTableName tablePrefix entity.toElement = .ok tableName)
    (hnumbers : ∀ column ∈ entity.columns, ∀ tag ∈ column.tags, tag.name = "index" →
      tag.number.isNaN = false)
    (group : Group) :
    let table := schema ++ "." ++ tableName
    let edits := entityEdits options index schema tablePrefix entity
    ∃ layout indexes others written : List Sql.ScriptItem,
      LaysOut table entity layout ∧ MakesIndexes table entity indexes ∧
      (∀ item ∈ others, item.line.isLayout = false) ∧
      edits.filterMap Edit.createItem? = layout ++ (indexes ++ others) ∧
      (group.run edits).group.create.items =
        group.create.items ++ written.map (·.below group.create.level) ∧
      written <+: edits.filterMap Edit.createItem? ∧
      ((group.run edits).fault = none → written = edits.filterMap Edit.createItem?) ∧
      (ComesToTable options index schema tablePrefix entity table group.flushed →
        layout ++ indexes <+: written) ∧
      (¬ ComesToTable options index schema tablePrefix entity table group.flushed →
        written <+: typeItems (enumsOf table entity)) := by
  intro table edits
  obtain ⟨entries, hlayout, htexts⟩ := createItems_layoutEdits table entity
  have hdeclared : ∀ m ∈ memberships entity, m.tag.number.isNaN = false := fun m hm => by
    obtain ⟨column, hcolumn, tag, htag, hname, rfl⟩ := exists_of_mem_memberships entity hm
    exact hnumbers column hcolumn _ htag hname
  have hmakes : MakesIndexes table entity (indexItems table (indexGroups entity)) :=
    ⟨_, isGrouping_indexGroups entity hdeclared, rfl, fun group _ => text_createIndex table _⟩
  have hindexes := createItems_userIndexEdits table entity
  refine ⟨_, _, _, writtenItems group.flushed edits, ⟨entries, rfl, htexts⟩, hmakes,
    fun item => isLayout_of_mem_remainingEdits options table tableName entity, ?_,
    group.items_run edits, writtenItems_isPrefix _ _, Group.writtenItems_of_fault_eq_none,
    fun hcomes => ?_,
    writtenItems_of_not_comesToTable options index schema tablePrefix entity h table group.flushed
      rfl⟩
  · rw [createItems_entityEdits options index schema tablePrefix entity h table rfl,
      closingEdits_eq_layout, List.filterMap_append, List.filterMap_append, hlayout, hindexes]
    simp only [List.append_assoc]
  · rw [writtenItems_of_comesToTable options index schema tablePrefix entity h table group.flushed
      rfl hcomes, closingEdits_eq_layout, writtenItems_append (all_isAccepted_layoutEdits ..),
      writtenItems_append (all_isAccepted_userIndexEdits ..), hlayout, hindexes]
    simp only [List.append_assoc, List.prefix_append_right_inj]
    exact List.prefix_append _ _

/-- An entity with two indexes: one with ties between columns and between the zeros, and a member
that a column without a name would be. -/
def shipmentEntity : Entity :=
  { name := "Shipment"
    columns := [
      { name := "code", tags := [{ name := "index", value := "by_code", number := .one }] },
      { name := "sent", tags := [
          { name := "index", value := "by_day", number := .ofParts true 0, checked := true },
          { name := "index", value := "by_code" }] },
      { name := "sent-by", tags := [{ name := "index", value := "by_clerk" }] },
      { name := "carrier", tags := [
          { name := "index", value := "by_day" },
          { name := "index", value := "by_day", number := .ofParts true (1023 * 2 ^ 52) }] }] }

/-- The run for the entity makes its two indexes. -/
theorem run_entityEdits_indexes_shipment :
    ∃ before indexes after : List Sql.ScriptItem,
      MakesIndexes "public.shipment" shipmentEntity indexes ∧
        ((Group.empty "    ").run
          (entityEdits {} ⟨[]⟩ "public" "" shipmentEntity)).group.create.items =
            before ++ indexes ++ after ∧
        (memberships shipmentEntity).map (fun m => (m.tag.value, m.text)) =
          [("by_code", "code"), ("by_day", "sent DESC"), ("by_code", "sent"),
            ("by_day", "carrier"), ("by_day", "carrier")] := by
  have hname : Naming.prefixedTableName "" shipmentEntity.toElement = .ok "shipment" := by
    decide +kernel
  have hnumbers : ∀ column ∈ shipmentEntity.columns, ∀ tag ∈ column.tags, tag.name = "index" →
      tag.number.isNaN = false := by
    decide +kernel
  obtain ⟨layout, indexes, others, written, -, hmakes, -, -, hitems, -, -, hcomes, -⟩ :=
    run_entityEdits_indexes {} ⟨[]⟩ "public" "" shipmentEntity hname hnumbers (Group.empty "    ")
  have hreached : ComesToTable {} ⟨[]⟩ "public" "" shipmentEntity "public.shipment" false :=
    ⟨by decide +kernel, nofun⟩
  obtain ⟨after, hafter⟩ := hcomes hreached
  refine ⟨layout, indexes, after, hmakes, ?_, by decide +kernel⟩
  rw [hitems, hafter]
  exact Sql.ScriptItem.map_below_zero written

end Runs

end Table
end ErdSql
