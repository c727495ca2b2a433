import ErdSql.Proofs.Defaults

/-!
# Columns that number themselves

A column of an integer type asks to number itself by the length -1, which is given as a number or
as a text with blanks around it.  Its type then has a spelling of its own, and its line ends
without a default whatever the column says.  Any other length, or none, leaves the plain spelling
and the default.
-/

namespace ErdSql

namespace Text

theorem trimChars_of_forall {p : Char → Bool} {cs : List Char} (h : ∀ c ∈ cs, p c = false) :
    trimChars p cs = cs := by
  have hdrop : ∀ ds : List Char, (∀ c ∈ ds, p c = false) → ds.dropWhile p = ds := by
    intro ds hds
    cases ds with
    | nil => rfl
    | cons d ds => rw [List.dropWhile_cons_of_neg (by simp [hds d])]
  rw [trimChars, hdrop cs h, hdrop cs.reverse fun c hc => h c (List.mem_reverse.1 hc),
    List.reverse_reverse]

theorem isBlank_of_isDigit {c : Char} (h : c.isDigit = true) : isBlank c = false := by
  obtain ⟨hlow, hhigh⟩ := (Naming.between_iff '0' '9').1 h
  have hlow' : 48 ≤ c.toNat := hlow
  have hhigh' : c.toNat ≤ 57 := hhigh
  simp only [isBlank, isWhiteSpace, Bool.or_eq_false_iff, Bool.and_eq_false_iff,
    decide_eq_false_iff_not, beq_eq_false_iff_ne]
  omega

theorem isDigit_of_mem_repr {m : Nat} {c : Char} (h : c ∈ m.repr.toList) : c.isDigit = true := by
  rw [Nat.toList_repr] at h
  exact Nat.isDigit_of_mem_toDigits (by decide) le_rfl h

theorem toString_negSucc (m : Nat) : toString (Int.negSucc m) = "-" ++ m.succ.repr := rfl

/-- A number is written without blanks. -/
theorem trim_toString (n : Int) : trim (toString n) = toString n := by
  have hdigits : ∀ m : Nat, ∀ c ∈ m.repr.toList, isBlank c = false :=
    fun m c hc => isBlank_of_isDigit (isDigit_of_mem_repr hc)
  have hnone : ∀ c ∈ (toString n).toList, isBlank c = false := by
    cases n with
    | ofNat m => exact hdigits m
    | negSucc m =>
        intro c hc
        rw [toString_negSucc, String.toList_append, List.mem_append] at hc
        rcases hc with hsign | hc
        · rw [List.mem_singleton.1 hsign]
          decide
        · exact hdigits m.succ c hc
  rw [trim, trimChars_of_forall hnone, String.ofList_toList]

theorem toString_eq_minusOne_iff (n : Int) : toString n = "-1" ↔ n = -1 := by
  refine ⟨fun h => ?_, fun h => h ▸ rfl⟩
  cases n with
  | ofNat m =>
      -- what is written without a sign has only digits
      have hsign : '-' ∈ m.repr.toList := by
        change m.repr = "-1" at h
        rw [h]
        decide
      exact absurd (isDigit_of_mem_repr hsign) (by decide)
  | negSucc m =>
      have hone : m.succ.repr = "1" := (String.append_right_inj "-").1 h
      have hdigits : Nat.toDigits 10 m.succ = Nat.toDigits 10 1 := by
        rw [← Nat.toList_repr, hone]
        rfl
      have hread := congrArg (fun digits => Nat.ofDigitChars 10 digits 0) hdigits
      have hm : m.succ = 1 := by simpa using hread
      rw [Nat.succ.inj hm]
      rfl

end Text

namespace Sql

/-- The integer types with their two spellings: the plain one, and that of the columns that number
themselves. -/
def integerSpellings : List (String × String × String) :=
  [("INTEGER", "integer", "serial"), ("SMALLINT", "smallint", "smallserial"),
    ("BIGINT", "bigint", "bigserial")]

/-- Whether the length is -1, as a number or as a text with blanks around it. -/
def IsSentinel (length : Option Length) : Prop :=
  length = some (.number (-1)) ∨ ∃ s, length = some (.text s) ∧ Text.trim s = "-1"

theorem requestsAutoIncrement_iff (column : Column) :
    requestsAutoIncrement column = true ↔ IsSentinel column.length := by
  unfold requestsAutoIncrement lengthText IsSentinel
  rw [decide_eq_true_eq]
  cases column.length with
  | none => simp
  | some length =>
      cases length with
      | number n =>
          have hshown : (Length.number n).shown = toString n := rfl
          simp only [hshown, Text.trim_toString, Text.toString_eq_minusOne_iff, Option.some.injEq,
            Length.number.injEq, reduceCtorEq, false_and, exists_false, or_false]
      | text s => simp [Length.shown]

section Spellings

variable {column : Column} {plain serial : String}
  (h : (column.type, plain, serial) ∈ integerSpellings)

include h

theorem dataType_of_mem_integerSpellings :
    dataType column = if requestsAutoIncrement column then serial else plain := by
  have hspelling : typeSpelling? column.type =
      some { name := plain, autoIncrement := some serial } := by
    simp only [integerSpellings, List.mem_cons, Prod.mk.injEq, List.not_mem_nil, or_false] at h
    rcases h with ⟨htype, rfl, rfl⟩ | ⟨htype, rfl, rfl⟩ | ⟨htype, rfl, rfl⟩ <;> rw [htype] <;> rfl
  rw [dataType, hspelling]

omit h in
/-- The mark tells the two spellings of an integer type apart, and neither is the abstract type of
columns whose values are listed. -/
theorem forall_integerSpellings : ∀ spelling ∈ integerSpellings,
    isAutoIncrementType spelling.2.1 = false ∧ isAutoIncrementType spelling.2.2 = true ∧
      Text.lower spelling.2.1 ≠ "enum" ∧ Text.lower spelling.2.2 ≠ "enum" := by
  decide +kernel

theorem plain_ne_serial : plain ≠ serial := by
  obtain ⟨hplain, hserial, -⟩ := forall_integerSpellings _ h
  rintro rfl
  exact Bool.false_ne_true (hplain.symm.trans hserial)

theorem isAutoIncrementType_of_mem_integerSpellings :
    isAutoIncrementType (dataType column) = requestsAutoIncrement column := by
  obtain ⟨hplain, hserial, -⟩ := forall_integerSpellings _ h
  rw [dataType_of_mem_integerSpellings h]
  cases requestsAutoIncrement column with
  | true => exact hserial
  | false => exact hplain

theorem lower_dataType_ne_enum : Text.lower (dataType column) ≠ "enum" := by
  obtain ⟨-, -, hplain, hserial⟩ := forall_integerSpellings _ h
  rw [dataType_of_mem_integerSpellings h]
  split
  · exact hserial
  · exact hplain

end Spellings

end Sql

namespace Table

section Columns

variable {column : Column} {plain serial : String}
  (h : (column.type, plain, serial) ∈ Sql.integerSpellings)

include h

/-- No type is created for a column of an integer type. -/
theorem columnType_of_mem_integerSpellings (table : String) :
    columnType table column = Sql.dataType column := by
  have hnone : enumOf? table column = none := by
    unfold enumOf?
    split
    · rfl
    · exact if_neg fun henum => Sql.lower_dataType_ne_enum h henum.1
  rw [columnType, hnone]
  rfl

theorem columnType_eq_serial_iff (table : String) :
    columnType table column = serial ↔ Sql.IsSentinel column.length := by
  rw [columnType_of_mem_integerSpellings h, Sql.dataType_of_mem_integerSpellings h,
    ← Sql.requestsAutoIncrement_iff]
  split
  · rename_i hserial
    exact iff_of_true rfl hserial
  · rename_i hplain
    exact iff_of_false (Sql.plain_ne_serial h) hplain

theorem columnType_eq_plain_iff (table : String) :
    columnType table column = plain ↔ ¬ Sql.IsSentinel column.length := by
  rw [columnType_of_mem_integerSpellings h, Sql.dataType_of_mem_integerSpellings h,
    ← Sql.requestsAutoIncrement_iff]
  split
  · rename_i hserial
    exact iff_of_false (Sql.plain_ne_serial h).symm (not_not_intro hserial)
  · rename_i hplain
    exact iff_of_true rfl hplain

/-- The line of a column of an integer type ends in a default only if the column does not number
itself. -/
theorem columnText_of_mem_integerSpellings (table name : String) :
    columnText table name column = columnFront table name column ++
      if Sql.requestsAutoIncrement column then "" else defaultClause column := by
  rw [columnText_eq, columnType_of_mem_integerSpellings h,
    Sql.isAutoIncrementType_of_mem_integerSpellings h]

end Columns

section Runs

variable (options : Options) (index : Index) (schema tablePrefix : String) (entity : Entity)

/-- A key that numbers itself and has a default all the same. -/
def numberedColumn : Column :=
  { name := "id", type := "BIGINT", length := some (.text " -1\t"), primaryKey := true,
    tags := [.ofString "default" "7"] }

/-- A column of an integer type with another length. -/
def countColumn : Column :=
  { name := "count", type := "SMALLINT", length := some (.number 1), nullable := false,
    tags := [.ofString "default" "0"] }

def ticketEntity : Entity :=
  { name := "Ticket", columns := [numberedColumn, countColumn] }

end Runs

end Table
end ErdSql
